import LedgerClient.Proofs.Wire.Scalar
import LedgerClient.Proofs.Wire.Yields

/-!
How long texts and identifiers are in the binary form.
-/

namespace LedgerClient

open Encoding

namespace Utf8

lemma length_encode_push (s : String) (c : Char) :
    (encode (s.push c)).length = (encode s).length + c.utf8Size := by
  simp [encode, List.utf8Encode]

/-- A character takes from one to four bytes. -/
lemma length_encode (s : String) :
    s.length ≤ (encode s).length ∧ (encode s).length ≤ 4 * s.length := by
  induction s using String.push_induction with
  | empty => exact ⟨Nat.zero_le _, Nat.le_refl _⟩
  | push s c ih =>
    have hpos := c.utf8Size_pos
    have hle := c.utf8Size_le_four
    rw [length_encode_push, String.length_push]
    omega

end Utf8

namespace Encoding

/-- Four bytes of the count, and the bytes that it counts. -/
lemma counted_ok {v bs : Bytes} (h : (counted v).toBytes = .ok bs) :
    bs = Bytes.ofNatLE 4 v.length ++ v ∧ v.length < Nat.pow 256 4 := by
  obtain ⟨x, y, hx, hy, rfl⟩ := toBytes_append_ok h
  obtain ⟨-, hlt, rfl⟩ := int_ok hx
  obtain rfl : v = y := by simpa using hy
  exact ⟨rfl, by simp only [Width.size] at hlt; omega⟩

end Encoding

namespace AccountId

/-- Identifiers have from 2 to 64 characters. -/
lemma length_text (a : AccountId) : minLength ≤ a.text.length ∧ a.text.length ≤ maxLength := by
  have h := a.valid
  rw [← String.length_toList]
  simp only [fault?] at h
  split_ifs at h with _ hmax _ hlen _ hhex hmin
  · simp only [minLength]
    omega
  · simp only [isHexName, Bool.and_eq_true, beq_iff_eq] at hhex
    simp only [minLength, maxLength]
    omega
  · exact ⟨Nat.not_lt.1 hmin, Nat.not_lt.1 hmax⟩

/-- Between 6 and 260 bytes, the count of the text among them. -/
lemma length_encoding {a : AccountId} {bs : Bytes} (h : a.encoding.toBytes = .ok bs) :
    6 ≤ bs.length ∧ bs.length ≤ 260 := by
  obtain ⟨rfl, -⟩ := counted_ok h
  have ha := a.length_text
  have hu := Utf8.length_encode a.text
  rw [List.length_append, Bytes.length_ofNatLE]
  simp only [minLength, maxLength] at ha
  omega

lemma writable (a : AccountId) : a.encoding.Writable := by
  have hu := (Utf8.length_encode a.text).2
  have hmax := a.length_text.2
  refine writable_counted.2 ?_
  simp only [maxLength, Nat.pow_eq] at *
  omega

end AccountId

end LedgerClient
