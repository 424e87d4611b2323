import LedgerClient.Proofs.Account.Grammar
import LedgerClient.Proofs.Wire.Scalar
import LedgerClient.Proofs.Wire.Yields

/-!
The primitives of the binary form, identifiers, digests, amounts, counters, keys and signatures have
one spelling each: their readers accept nothing but what is written. Sequences have the spellings of
their elements in a row.
-/

namespace LedgerClient

open Encoding

variable {α : Type} {d : Nat}

/-! ### Primitives -/

lemma yields_take (n : Int) (what : String) :
    Yields d (fun bs e => e = ofBytes bs ∧ bs.length = n) (Reader.take n what) where
  value := by
    intro c c' bs h
    rw [Reader.take] at h
    split at h
    · cases h
    · rename_i hn
      obtain ⟨rfl, rfl⟩ : _ = bs ∧ _ = c' := by simpa using h
      refine ⟨_, ⟨rfl, ?_⟩, _, rfl, ?_⟩
      · simp only [List.length_take]
        omega
      · simp only [ofBytes, List.take_append_drop]
  fault h := by
    rw [Reader.take] at h
    split at h
    · cases h
      exact .inl (.encoding _ _ _)
    · cases h

lemma yields_int (w : Width) :
    Yields d (fun (n : Nat) e => e = int w n ∧ n < Nat.pow 256 w.size) (Reader.int w) := by
  refine (yields_take _ _).map ?_
  rintro bs _ ⟨rfl, h⟩
  have hw : bs.length = w.size := by exact_mod_cast h
  have hlt := Bytes.toNatLE_lt bs
  rw [hw] at hlt
  exact ⟨by rw [int_eq hlt, ← hw, Bytes.ofNatLE_toNatLE], hlt⟩

lemma canonical_int (w : Width) : Canonical (Reader.int w) fun n => int w n :=
  fun _ => (yields_int w).imp fun _ _ h => h.1

lemma canonical_tag : Canonical Reader.tag tag := canonical_int .u8

lemma yields_raw {n : Nat} (hn : Text.isOverlong n = false) :
    Yields d (fun bs e => e = ofBytes bs ∧ bs.length = n) (Reader.raw n) := by
  rw [raw_eq hn]
  exact (yields_take _ _).imp fun _ _ h => ⟨h.1, by exact_mod_cast h.2⟩

lemma canonical_counted : Canonical Reader.counted counted := by
  intro d
  refine (canonical_int .u32).bind fun n => (yields_take _ _).imp ?_
  rintro bs _ ⟨rfl, h⟩
  rw [counted, h]

lemma canonical_text : Canonical Reader.text text := by
  intro d
  refine canonical_counted.bind fun bs => ?_
  cases hs : Utf8.decode? bs with
  | none => exact .fail (.encoding _ _ _)
  | some s => exact .pure (by rw [append_empty, text, Utf8.encode_of_decode hs])

lemma canonical_option {r : Reader α} {w : α → Encoding} (h : Canonical r w) :
    Canonical (Reader.option r) (option w) := by
  intro d
  refine canonical_tag.bind fun n => ?_
  split
  · exact .pure (append_empty _)
  · exact h.last fun a => rfl
  · exact .refuse

/-- Encodings of the elements of a list, one behind the other. -/
inductive Row (F : α → Encoding → Prop) : List α → Encoding → Prop
  | nil : Row F [] ∅
  | cons {a : α} {l : List α} {e e' : Encoding} : F a e → Row F l e' → Row F (a :: l) (e ++ e')

lemma Row.eq_all {w : α → Encoding} {xs : List α} {e : Encoding}
    (h : Row (fun a e => e = w a) xs e) : e = all w xs := by
  induction h with
  | nil => rfl
  | cons ha _ ih => rw [ha, ih, all]

lemma yields_times {F : α → Encoding → Prop} {r : Reader α} (h : Yields d F r) (n : Nat) :
    Yields d (fun xs e => xs.length = n ∧ Row F xs e) (Reader.times r n) := by
  induction n with
  | zero => exact .pure ⟨rfl, .nil⟩
  | succ n ih =>
    refine h.bind fun a e he => ih.map fun xs e' hx => ⟨?_, .cons he hx.2⟩
    rw [List.length_cons, hx.1]

/-- The count has taken four bytes before the first element. -/
lemma yields_sequence {F : α → Encoding → Prop} {r : Reader α} (h : Yields d F r) :
    Yields (d + 4) (fun xs e => ∃ e', Row F xs e' ∧ e = int .u32 xs.length ++ e')
      (Reader.sequence r) := by
  refine (canonical_int .u32).bind_after ?_ fun n => (yields_times h n).imp ?_
  · intro n bs hbs
    obtain ⟨-, -, rfl⟩ := int_ok hbs
    exact Nat.le_of_eq (Bytes.length_ofNatLE 4 _).symm
  · rintro xs e ⟨rfl, hrow⟩
    exact ⟨e, hrow, rfl⟩

lemma canonical_sequence {r : Reader α} {w : α → Encoding} (h : Canonical r w) :
    Canonical (Reader.sequence r) (sequence w) := by
  refine fun d => ((yields_sequence (h d)).imp ?_).mono (Nat.le_add_right d 4)
  rintro xs e ⟨e', hrow, he⟩
  rw [he, hrow.eq_all, Encoding.sequence]

/-! ### Scalars -/

namespace AccountId

lemma parse_ok {s : String} {a : AccountId} (h : parse s = .ok a) : a.text = s := by
  rcases parse_cases s with ⟨_, hs⟩ | ⟨f, -, hs⟩
  · cases hs.symm.trans h
    rfl
  · cases hs.symm.trans h

lemma parse_error {s : String} {e : Error} (h : parse s = .error e) : e.Malformed := by
  rcases parse_cases s with ⟨_, hs⟩ | ⟨f, -, hs⟩
  · cases hs.symm.trans h
  · cases hs.symm.trans h
    exact .account _

lemma canonical : Canonical AccountId.read AccountId.encoding := by
  intro d
  refine canonical_text.bind fun s => .lift (fun a ha => ?_) fun _ => parse_error
  rw [append_empty, encoding, parse_ok ha]

end AccountId

lemma Digest.canonical : Canonical Digest.read Digest.encoding := by
  refine fun d => (yields_raw (by decide)).bind ?_
  rintro bs _ ⟨rfl, h⟩
  rw [ofBytes, dif_pos h]
  exact .pure (append_empty _)

namespace Amount

variable {m : Measure}

lemma lt_width (a : Amount m) : a.value < Nat.pow 256 (width m).size := by
  have := a.le_limit
  cases m <;> simp only [Measure.limit, width, Width.size, Nat.pow_eq] at * <;> omega

/-- Whatever fits the width is an amount. -/
lemma ofInt_natCast {n : Nat} (h : n < Nat.pow 256 (width m).size) :
    ∃ a : Amount m, ofInt n = .ok a ∧ a.value = n := by
  have hle : n ≤ m.limit := by
    cases m <;> simp only [Measure.limit, width, Width.size, Nat.pow_eq] at * <;> omega
  exact ⟨⟨n, hle⟩, ofInt_value ⟨n, hle⟩, rfl⟩

lemma canonical : Canonical (Amount.read (m := m)) Amount.encoding := by
  intro d
  refine (yields_int (width m)).bind ?_
  rintro n _ ⟨rfl, hn⟩
  obtain ⟨a, ha, hv⟩ := ofInt_natCast hn
  rw [ha]
  exact .pure (by rw [append_empty, encoding, hv])

end Amount

lemma Counter.canonical : Canonical Counter.read Counter.encoding :=
  fun _ => (canonical_int .u64).last fun _ => rfl

namespace Curve

lemma tag_of_ofTag {n : Nat} {c : Curve} (h : ofTag? n = some c) : c.tag = n := by
  have := List.find?_some h
  simpa using this

lemma canonical : Canonical Curve.read fun c => Encoding.tag c.tag := by
  intro d
  refine canonical_tag.bind fun n => ?_
  cases hc : ofTag? n with
  | none => exact .refuse
  | some c =>
    rw [← tag_of_ofTag hc]
    exact .pure (append_empty _)

end Curve

lemma PublicKey.canonical : Canonical PublicKey.read PublicKey.encoding := by
  intro d
  refine Curve.canonical.bind fun c => (yields_raw c.keyLength_short).bind ?_
  rintro bs _ ⟨rfl, h⟩
  rw [make, if_neg (not_not.2 h)]
  by_cases hv : isValid c bs = true
  · rw [dif_pos hv]
    exact .pure (by rw [append_empty, encoding])
  · rw [dif_neg hv]
    exact .fail (.encoding _ _ _)

lemma Signature.canonical : Canonical Signature.read Signature.encoding := by
  intro d
  refine Curve.canonical.bind fun c => (yields_raw c.signatureLength_short).bind ?_
  rintro bs _ ⟨rfl, h⟩
  rw [make, dif_pos h]
  exact .pure (by rw [append_empty, encoding])

end LedgerClient
