import LedgerClient.OffChain.Signed
import LedgerClient.Proofs.Bytes.Base64
import LedgerClient.Proofs.Json.Spelling
import LedgerClient.Proofs.Key.Spelling

/-!
Signed messages come through their JSON text unchanged, alone or with the parameters that a
verifier needs.
-/

namespace LedgerClient

namespace Shape

variable {α : Type} {ms : Members} {name : String}

lemma required_of_lookup {s : Shape α} {v : Value} {a : α} (hv : ms.lookup name = some v)
    (ha : s v = .ok a) : required ms name s = .ok a := by
  rw [required, hv]
  dsimp only
  rw [ha]
  rfl

/-- A text that may be left out is left out where there is none. -/
lemma orElse_optional_text {o : Option String} (h : ms.lookup name = o.map Value.text) :
    orElse ms name none (optional text) = .ok o := by
  cases o with
  | none =>
    rw [orElse, h]
    rfl
  | some s =>
    rw [orElse, h]
    rfl

end Shape

namespace OffChain

lemma checked_of_ok {α : Type} {f : Value → Except Error α} {v : Value} {a : α}
    (h : f v = .ok a) : checked f v = .ok a := by
  rw [checked, h]

lemma checked_account (a : AccountId) : checked AccountId.ofValue (.text a.text) = .ok a := by
  refine checked_of_ok ?_
  rw [AccountId.ofValue, AccountId.parse, AccountId.ofText_text]
  rfl

lemma checked_signature {s : Signature} (h : s.curve = .ed25519) :
    checked signatureOf (.text (Base64.encode s.bytes)) = .ok s := by
  refine checked_of_ok ?_
  obtain ⟨c, bs, hlen⟩ := s
  obtain rfl : c = .ed25519 := h
  have hbytes : parseSignature.ofBytes? bs = some ⟨.ed25519, bs, hlen⟩ := dif_pos hlen
  simp only [signatureOf, parseSignature, Base64.decodeExact_encode, Option.bind_some, hbytes]

lemma checked_nonce {bs : Bytes} (h : bs.length = nonceLength) :
    checked nonceOf (.text (Hex.encode bs)) = .ok ⟨bs, h⟩ := by
  refine checked_of_ok ?_
  simp only [nonceOf, Hex.decode_encode]
  exact dif_pos h

/-! ### Members that are there -/

section Present

variable {parts : List (String × Option Value)}

lemma mem_present {k : String} {v : Value} : (k, v) ∈ present parts ↔ (k, some v) ∈ parts := by
  simp [present]

lemma mem_keys_of_present {k : String} (h : k ∈ (present parts).map Prod.fst) :
    k ∈ parts.map Prod.fst := by
  obtain ⟨⟨k, v⟩, hm, rfl⟩ := List.mem_map.1 h
  exact List.mem_map.2 ⟨_, mem_present.1 hm, rfl⟩

lemma nodup_present (hd : (parts.map Prod.fst).Nodup) : ((present parts).map Prod.fst).Nodup := by
  induction parts with
  | nil => exact List.nodup_nil
  | cons p parts ih =>
    obtain ⟨k, o⟩ := p
    obtain ⟨hk, hr⟩ := List.nodup_cons.1 hd
    cases o with
    | none => exact ih hr
    | some v => exact List.nodup_cons.2 ⟨mt mem_keys_of_present hk, ih hr⟩

lemma lookup_of_not_mem {ms : Members} {k : String} (h : k ∉ ms.map Prod.fst) :
    ms.lookup k = none := by
  refine List.lookup_eq_none_iff.2 fun m hm => ?_
  have hne : k ≠ m.1 := fun hk => h (hk ▸ List.mem_map_of_mem hm)
  simpa using hne

/-- By induction along the parts: the part that is looked for is the first one of its name. -/
lemma lookup_present {k : String} {o : Option Value} (hd : (parts.map Prod.fst).Nodup)
    (h : (k, o) ∈ parts) : (present parts).lookup k = o := by
  induction parts with
  | nil => cases h
  | cons p parts ih =>
    obtain ⟨k', o'⟩ := p
    obtain ⟨hk, hr⟩ := List.nodup_cons.1 hd
    rcases List.mem_cons.1 h with heq | hm
    · cases heq
      cases o with
      | none => exact lookup_of_not_mem fun h => hk (mem_keys_of_present h)
      | some v => exact List.lookup_cons_self
    · have hne : k ≠ k' := fun hkk => hk (List.mem_map.2 ⟨_, hm, hkk⟩)
      cases o' with
      | none => exact ih hr hm
      | some v =>
        have hskip : (present ((k', some v) :: parts)).lookup k = (present parts).lookup k := by
          change ((k', v) :: present parts).lookup k = _
          rw [List.lookup_cons, beq_false_of_ne hne]
        rw [hskip, ih hr hm]

/-- A member that is never spelled the second way is looked for the first way. -/
lemma spelling_present {first second : String} (h : second ∉ parts.map Prod.fst) :
    spelling (present parts) first second = first := by
  have hhas : (present parts).has second = false := by
    refine List.any_eq_false.2 fun m hm => ?_
    have hne : m.1 ≠ second := fun hm' =>
      h (hm' ▸ mem_keys_of_present (List.mem_map_of_mem hm))
    simpa using hne
  rw [spelling, hhas, Bool.and_false]
  rfl

lemma exists_spelled_text (n : Nat) (o : Option String) :
    ∀ v ∈ o.map Value.text, ∃ s ts, Json.Spelled n v s ts := by
  intro v hv
  obtain ⟨s, -, rfl⟩ := Option.map_eq_some_iff.1 hv
  exact ⟨_, _, (Json.Spelled.text s).mono (Nat.zero_le n)⟩

lemma exists_spelled_present {n : Nat} (hd : (parts.map Prod.fst).Nodup)
    (h : ∀ p ∈ parts, ∀ v ∈ p.2, ∃ s ts, Json.Spelled n v s ts) :
    ∃ s ts, Json.Spelled (n + 1) (.object (present parts)) s ts :=
  Json.exists_spelled_object (nodup_present hd) fun m hm => h _ (mem_present.1 hm) m.2 rfl

end Present

/-- A value that has the shape and is spelled without too many levels comes through its text. -/
lemma ofJson_print {α : Type} {f : Shape α} {v : Value} {a : α} {n : Nat} (ha : f v = .ok a)
    (hn : n ≤ 200) (hs : ∃ s ts, Json.Spelled n v s ts) :
    ofJson f ((Json.print? Json.compactUnicode v).getD "") = .ok a := by
  obtain ⟨s, ts, hs⟩ := hs
  have hparse : Json.parseWith? .narrow s = some v :=
    hs.parse fun m hm => Option.some.inj hm ▸ hn
  rw [hs.print, Option.getD_some, ofJson, hparse]
  dsimp only
  rw [ha]
  rfl

/-! ### Signed messages -/

namespace SignedMessage

def parts (m : SignedMessage) : List (String × Option Value) :=
  [("accountId", some (.text m.account.text)), ("publicKey", some (.text m.publicKey.text)),
    ("signature", some (.text (Base64.encode m.signature.bytes))), ("state", m.state.map .text)]

lemma toValue_eq (m : SignedMessage) : m.toValue = .object (present m.parts) := rfl

lemma nodup_parts (m : SignedMessage) : (m.parts.map Prod.fst).Nodup := by
  change ["accountId", "publicKey", "signature", "state"].Nodup
  decide

lemma shape_toValue {m : SignedMessage} (h : m.signature.curve = .ed25519) :
    shape m.toValue = .ok m := by
  have hlookup (k : String) (o : Option Value) (hk : (k, o) ∈ m.parts) :=
    lookup_present m.nodup_parts hk
  have haccount := Shape.required_of_lookup (hlookup "accountId" _ (by simp [parts]))
    (checked_account m.account)
  have hkey := Shape.required_of_lookup (hlookup "publicKey" _ (by simp [parts]))
    (checked_of_ok (PublicKey.faithful.parse_text m.publicKey))
  have hsignature := Shape.required_of_lookup (hlookup "signature" _ (by simp [parts]))
    (checked_signature h)
  have hstate := Shape.orElse_optional_text (hlookup "state" (m.state.map .text) (by simp [parts]))
  rw [toValue_eq, shape, Shape.record, spelling_present (by simp [parts]),
    spelling_present (by simp [parts]), haccount, hkey, hsignature, hstate]
  rfl

lemma exists_spelled (m : SignedMessage) : ∃ s ts, Json.Spelled 1 m.toValue s ts := by
  refine exists_spelled_present m.nodup_parts fun p hp => ?_
  simp only [List.mem_cons, List.not_mem_nil, or_false] at hp
  rcases hp with rfl | rfl | rfl | rfl
  · exact exists_spelled_text 0 (some _)
  · exact exists_spelled_text 0 (some _)
  · exact exists_spelled_text 0 (some _)
  · exact exists_spelled_text 0 m.state

/-- **A signed message comes through its text.** -/
theorem ofJson_toJson {m : SignedMessage} (h : m.signature.curve = .ed25519) :
    ofJson m.toJson = .ok m :=
  ofJson_print (shape_toValue h) (by decide) m.exists_spelled

end SignedMessage

/-! ### With the parameters -/

namespace AuthPayload

def parts (a : AuthPayload) : List (String × Option Value) :=
  [("signedMessage", some a.signed.toValue), ("nonce", some (.text (Hex.encode a.nonce))),
    ("message", some (.text a.message)), ("recipient", some (.text a.recipient)),
    ("callbackUrl", a.callbackUrl.map .text)]

lemma toValue_eq (a : AuthPayload) : a.toValue = .object (present a.parts) := rfl

lemma nodup_parts (a : AuthPayload) : (a.parts.map Prod.fst).Nodup := by
  change ["signedMessage", "nonce", "message", "recipient", "callbackUrl"].Nodup
  decide

lemma shape_toValue {a : AuthPayload} (h : a.signed.signature.curve = .ed25519) :
    shape a.toValue = .ok a := by
  have hlookup (k : String) (o : Option Value) (hk : (k, o) ∈ a.parts) :=
    lookup_present a.nodup_parts hk
  have hsigned := Shape.required_of_lookup (hlookup "signedMessage" _ (by simp [parts]))
    (SignedMessage.shape_toValue h)
  have hnonce := Shape.required_of_lookup (hlookup "nonce" _ (by simp [parts]))
    (checked_nonce a.length_eq)
  have htext (s : String) : Shape.text (.text s) = .ok s := rfl
  have hmessage := Shape.required_of_lookup (hlookup "message" _ (by simp [parts]))
    (htext a.message)
  have hrecipient := Shape.required_of_lookup (hlookup "recipient" _ (by simp [parts]))
    (htext a.recipient)
  have hcallback := Shape.orElse_optional_text
    (hlookup "callbackUrl" (a.callbackUrl.map .text) (by simp [parts]))
  rw [toValue_eq, shape, Shape.record, spelling_present (by simp [parts]),
    spelling_present (by simp [parts]), hsigned, hnonce, hmessage, hrecipient, hcallback]
  rfl

lemma exists_spelled (a : AuthPayload) : ∃ s ts, Json.Spelled 2 a.toValue s ts := by
  refine exists_spelled_present a.nodup_parts fun p hp => ?_
  simp only [List.mem_cons, List.not_mem_nil, or_false] at hp
  rcases hp with rfl | rfl | rfl | rfl | rfl
  · intro v hv
    obtain rfl := Option.some.inj hv
    exact a.signed.exists_spelled
  · exact exists_spelled_text 1 (some _)
  · exact exists_spelled_text 1 (some _)
  · exact exists_spelled_text 1 (some _)
  · exact exists_spelled_text 1 a.callbackUrl

/-- **A signed message and its parameters come through their text.** -/
theorem ofJson_toJson {a : AuthPayload} (h : a.signed.signature.curve = .ed25519) :
    ofJson a.toJson = .ok a :=
  ofJson_print (shape_toValue h) (by decide) a.exists_spelled

end AuthPayload

end OffChain

end LedgerClient
