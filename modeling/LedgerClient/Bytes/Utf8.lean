import LedgerClient.Bytes.Basic

/-!
Text as bytes. Decoding accepts exactly what encoding produces.
-/

namespace LedgerClient.Utf8

def encode (s : String) : Bytes := s.toByteArray.data.toList

def decode? (bs : Bytes) : Option String := String.fromUTF8? ⟨bs.toArray⟩

theorem decode_encode (s : String) : decode? (encode s) = some s := by
  have h : (⟨(encode s).toArray⟩ : ByteArray) = s.toByteArray := by simp [encode]
  rw [decode?, h, String.fromUTF8?]
  simp [String.fromUTF8, s.isValidUTF8]

theorem encode_of_decode {bs : Bytes} {s : String} (h : decode? bs = some s) : encode s = bs := by
  rw [decode?, String.fromUTF8?] at h
  split at h
  · injection h with h
    rw [← h, encode, String.fromUTF8]
  · simp at h

theorem decode_eq_some_iff {bs : Bytes} {s : String} : decode? bs = some s ↔ encode s = bs :=
  ⟨encode_of_decode, fun h => h ▸ decode_encode s⟩

end LedgerClient.Utf8
