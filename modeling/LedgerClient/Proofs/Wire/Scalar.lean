import LedgerClient.Key.Basic
import LedgerClient.Proofs.Wire.Reads
import LedgerClient.Wire.Scalar

/-!
Identifiers, digests, amounts, counters, keys and signatures are read back as they were written.
-/

namespace LedgerClient

open Encoding

namespace AccountId

@[simp] lemma parse_text (a : AccountId) : parse a.text = .ok a := by
  rw [parse, ofText_text]
  rfl

lemma inverts : Inverts AccountId.read AccountId.encoding := by
  intro a bs h
  exact (inverts_text _ _ h).last (Reads.lift (parse_text a))

end AccountId

namespace Digest

@[simp] lemma ofBytes_bytes (d : Digest) : ofBytes d.bytes = .ok d := by
  rw [ofBytes, dif_pos d.length_eq]

lemma inverts : Inverts Digest.read Digest.encoding := by
  intro d bs h
  obtain rfl : d.bytes = bs := by simpa [encoding] using h
  exact (reads_raw (by decide) d.length_eq).last (Reads.lift (ofBytes_bytes d))

end Digest

namespace Amount

variable {m : Measure}

@[simp] lemma ofInt_value (a : Amount m) : ofInt (a.value : Int) = .ok a := by
  have h : ofNat? a.value = some a := by rw [ofNat?, dif_pos a.le_limit]
  rw [ofInt, if_neg (by omega)]
  simp only [Int.toNat_natCast, h]

lemma inverts : Inverts (Amount.read (m := m)) Amount.encoding := by
  intro a bs h
  exact (reads_int h).last (Reads.lift (ofInt_value a))

end Amount

namespace Counter

/-- Only whole numbers are written. -/
lemma whole_of_toBytes {c : Counter} {bs : Bytes} (h : c.encoding.toBytes = .ok bs) :
    ∃ n : Nat, c = whole n ∧ n < Nat.pow 256 8 := by
  cases c with
  | whole n =>
    obtain ⟨h0, hlt, -⟩ := int_ok h
    exact ⟨n.toNat, by rw [Int.toNat_of_nonneg h0], by simp only [Width.size] at hlt; omega⟩
  | other s => simp [encoding, fail, toBytes] at h

lemma inverts : Inverts Counter.read Counter.encoding := by
  intro c bs h
  obtain ⟨n, rfl, -⟩ := whole_of_toBytes h
  exact (reads_int h).map (g := fun n : Nat => whole n)

end Counter

namespace Curve

@[simp] lemma ofTag_tag (c : Curve) : ofTag? c.tag = some c := by cases c <;> rfl

lemma keyLength_short (c : Curve) : Text.isOverlong c.keyLength = false := by cases c <;> decide

lemma signatureLength_short (c : Curve) : Text.isOverlong c.signatureLength = false := by
  cases c <;> decide

lemma inverts : Inverts Curve.read fun c => Encoding.tag c.tag := by
  intro c bs h
  refine (reads_tag h).last ?_
  rw [ofTag_tag]
  exact Reads.pure c

end Curve

namespace PublicKey

@[simp] lemma make_bytes (k : PublicKey) : make k.curve k.bytes = .ok k := by
  rw [make, if_neg (not_not.2 k.length_eq), dif_pos k.valid]

lemma inverts : Inverts PublicKey.read PublicKey.encoding := by
  intro k bs h
  refine Reads.andThen h (Curve.inverts _) fun y hy => ?_
  obtain rfl : k.bytes = y := by simpa using hy
  refine (reads_raw k.curve.keyLength_short k.length_eq).last ?_
  rw [make_bytes]
  exact Reads.pure k

end PublicKey

namespace Signature

@[simp] lemma make_bytes (s : Signature) : make s.curve s.bytes = .ok s := by
  rw [make, dif_pos s.length_eq]

lemma inverts : Inverts Signature.read Signature.encoding := by
  intro s bs h
  refine Reads.andThen h (Curve.inverts _) fun y hy => ?_
  obtain rfl : s.bytes = y := by simpa using hy
  exact (reads_raw s.curve.signatureLength_short s.length_eq).last (Reads.lift (make_bytes s))

/-- Every signature has a binary form. -/
lemma toBytes_encoding (s : Signature) : ∃ bs, s.encoding.toBytes = .ok bs := by
  have ht : (Encoding.tag s.curve.tag).toBytes = .ok (Bytes.ofNatLE 1 s.curve.tag) :=
    int_toBytes (by cases s.curve <;> decide)
  exact ⟨_, toBytes_append ht (toBytes_ofBytes s.bytes)⟩

end Signature

end LedgerClient
