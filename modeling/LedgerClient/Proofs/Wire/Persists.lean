import LedgerClient.Proofs.Wire.Scalar
import LedgerClient.Proofs.Wire.Yields

/-!
Readers that do the same on a buffer and on every longer one that begins with it. A value persists:
the bytes that it was read from would be read in the same way whatever stood behind them. So does an
error, unless it is an encoding error, which a buffer that ends too early gives, too. From this, the
bytes of a value can be neither cut short nor followed by others.
-/

namespace LedgerClient

open Encoding

variable {α β : Type}

/-- More bytes at the end of a buffer leave the value that was read, and every error but those of
the encoding. -/
structure Persists (r : Reader α) : Prop where
  value : ∀ {c c' a}, r c = (.ok a, c') → ∃ bs, c.rest = bs ++ c'.rest ∧ Reads r bs a
  fault : ∀ {c c' x}, r c = (.error x, c') → x.OfKind .encoding ∨ FailsOn r c.rest x

namespace Persists

variable {r : Reader α} {f : α → Reader β}

lemma lift (x : Except Error α) : Persists (Reader.lift x) where
  value h := by
    cases h
    exact ⟨[], rfl, Reads.lift rfl⟩
  fault h := by
    cases h
    exact .inr fun _ _ => rfl

lemma pure (a : α) : Persists (Pure.pure a : Reader α) := lift (.ok a)

lemma fail (x : Error) : Persists (Reader.fail x : Reader α) := lift (.error x)

/-- The second reader starts at the same place on every buffer, so its bytes come behind those of
the first one. -/
lemma bind (hr : Persists r) (hf : ∀ a, Persists (f a)) : Persists (r >>= f) where
  value h := by
    obtain ⟨a, c₁, ha, hb⟩ := Reader.of_bind_ok h
    obtain ⟨x, hx, hrx⟩ := hr.value ha
    obtain ⟨y, hy, hfy⟩ := (hf a).value hb
    exact ⟨x ++ y, by rw [hx, hy, List.append_assoc], hrx.bind hfy⟩
  fault h := by
    obtain hx | ⟨a, c₁, ha, hb⟩ := Reader.of_bind_error h
    · exact (hr.fault hx).imp_right FailsOn.first
    · obtain ⟨y, hy, hry⟩ := hr.value ha
      rw [hy]
      exact ((hf a).fault hb).imp_right (FailsOn.second hry)

lemma map {g : α → β} (hr : Persists r) : Persists (do return g (← r)) :=
  hr.bind fun a => pure (g a)

variable {bs : Bytes} {a : α}

/-- **No beginning of the bytes of a value is a buffer.** Whatever it could be read as, the whole
would be read as, too, and then something would be left of it. -/
theorem whole_prefix (hr : Persists r) (h : Reads r bs a) {p : Bytes} (hp : p <+: bs)
    (hne : p ≠ bs) : ∃ x, Reader.whole r p = .error x ∧ x.OfKind .encoding := by
  obtain ⟨t, rfl⟩ := hp
  rcases hc : r (Cursor.ofBytes p) with ⟨z | b, c⟩
  · refine ⟨z, by rw [Reader.whole, Reader.bind_error hc],
      (hr.fault hc).resolve_right fun hz => ?_⟩
    -- The error would stand on the whole bytes, which are read.
    have hw := hz.append t 0 []
    rw [Cursor.ofBytes, h 0 []] at hw
    cases hw
  · obtain ⟨x, hx, hb⟩ := hr.value hc
    have hxs : p ++ t ++ [] = x ++ (c.rest ++ t) := by
      rw [List.append_nil, ← List.append_assoc, ← hx, Cursor.ofBytes]
    obtain ⟨-, ht⟩ := h.unique hb hxs
    obtain rfl : t = [] := (List.append_eq_nil_iff.1 ht.symm).2
    exact absurd (List.append_nil p).symm hne

end Persists

/-- **Nothing stands behind the bytes of a value.** -/
theorem Reads.whole_append {r : Reader α} {bs t : Bytes} {a : α} (h : Reads r bs a) (ht : t ≠ []) :
    ∃ x, Reader.whole r (bs ++ t) = .error x ∧ x.OfKind .encoding := by
  have hr : r (Cursor.ofBytes (bs ++ t)) = (.ok a, ⟨_, t⟩) := h _ t
  have hend (n : Nat) : Reader.expectEnd ⟨n, t⟩ = (.error (.plain .encoding
      ("Trailing bytes after decode: " ++ Text.natText t.length)), ⟨n, t⟩) := by
    rw [Reader.expectEnd, if_neg (by simpa using ht)]
  exact ⟨_, by rw [Reader.whole, Reader.bind_ok hr, Reader.bind_error (hend _)], _, _, _, rfl⟩

/-! ### Primitives -/

/-- A buffer that is too short is the one case that more bytes would mend. -/
lemma persists_take (n : Int) (what : String) : Persists (Reader.take n what) where
  value {c c' bs} h := by
    rw [Reader.take] at h
    split at h
    · cases h
    · rename_i hn
      obtain ⟨rfl, rfl⟩ : _ = bs ∧ _ = c' := by simpa using h
      refine ⟨_, (List.take_append_drop _ _).symm, reads_take _ ?_⟩
      simp only [List.length_take]
      omega
  fault h := by
    rw [Reader.take] at h
    split at h
    · cases h
      exact .inl ⟨_, _, _, rfl⟩
    · cases h

lemma persists_int (w : Width) : Persists (Reader.int w) := (persists_take _ _).map

lemma persists_tag : Persists Reader.tag := persists_int .u8

lemma persists_raw {n : Int} (hn : Text.isOverlong n = false) : Persists (Reader.raw n) := by
  rw [raw_eq hn]
  exact persists_take _ _

lemma persists_counted : Persists Reader.counted :=
  (persists_int .u32).bind fun _ => persists_take _ _

lemma persists_text : Persists Reader.text := by
  refine persists_counted.bind fun bs => ?_
  split
  · exact Persists.pure _
  · exact Persists.fail _

lemma persists_refuse (m : String) : Persists (Reader.refuse m : Reader α) := Persists.fail _

section Parts

variable {r : Reader α} (hr : Persists r)

include hr

lemma persists_option : Persists (Reader.option r) := by
  refine persists_tag.bind fun n => ?_
  split
  · exact Persists.pure _
  · exact hr.map
  · exact persists_refuse _

lemma persists_times (n : Nat) : Persists (Reader.times r n) := by
  induction n with
  | zero => exact Persists.pure _
  | succ n ih => exact hr.bind fun _ => ih.map

lemma persists_sequence : Persists (Reader.sequence r) :=
  (persists_int .u32).bind fun n => persists_times hr n

end Parts

/-! ### Identifiers, digests, amounts, counters, keys and signatures -/

lemma AccountId.persists : Persists AccountId.read := persists_text.bind fun _ => Persists.lift _

lemma Digest.persists : Persists Digest.read :=
  (persists_raw (by decide)).bind fun _ => Persists.lift _

lemma Amount.persists {m : Measure} : Persists (Amount.read : Reader (Amount m)) :=
  (persists_int _).bind fun _ => Persists.lift _

lemma Counter.persists : Persists Counter.read := (persists_int _).map

lemma Curve.persists : Persists Curve.read := by
  refine persists_tag.bind fun n => ?_
  split
  · exact Persists.pure _
  · exact persists_refuse _

lemma PublicKey.persists : Persists PublicKey.read := by
  refine Curve.persists.bind fun c => (persists_raw c.keyLength_short).bind fun bs => ?_
  split
  · exact Persists.pure _
  · exact Persists.fail _

lemma Signature.persists : Persists Signature.read :=
  Curve.persists.bind fun c => (persists_raw c.signatureLength_short).bind fun _ => Persists.lift _

end LedgerClient
