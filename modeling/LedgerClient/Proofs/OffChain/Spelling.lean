import LedgerClient.OffChain.Signed
import LedgerClient.Proofs.Bytes.Base58
import LedgerClient.Proofs.Bytes.Base64

/-!
The three spellings of a signature's 64 bytes. They are tried in turn, and none is ever taken for
another one: 64 bytes leave the last group of base 64 unfilled, so that its text has padding, which
neither spelling in base 58 has.
-/

namespace LedgerClient.OffChain

/-- 64 bytes. -/
abbrev RawSignature := { bs : Bytes // bs.length = 64 }

def RawSignature.signature (raw : RawSignature) : Signature := ⟨.ed25519, raw.1, raw.2⟩

lemma RawSignature.signature_injective : Function.Injective signature := fun _ _ h =>
  Subtype.ext (congrArg Signature.bytes h)

/-- The texts of a signature: base 64 up to bits that belong to no byte, and base 58 up to blanks
at the end, with the curve in front or without. -/
inductive SpelledAs (bs : Bytes) (s : String) : Prop
  | base64 : Base64.Spells bs s.toList → SpelledAs bs s
  | base58 {blanks : List Char} : (∀ c ∈ blanks, Text.isBlank c = true) →
    s.toList = (Base58.encode bs).toList ++ blanks → SpelledAs bs s
  | named {blanks : List Char} : (∀ c ∈ blanks, Text.isBlank c = true) →
    s.toList = "ed25519:".toList ++ ((Base58.encode bs).toList ++ blanks) → SpelledAs bs s

/-! ### The attempts -/

namespace parseSignature

lemma ofBytes?_eq_some_iff {bs : Bytes} {sig : Signature} :
    ofBytes? bs = some sig ↔ ∃ raw : RawSignature, raw.1 = bs ∧ sig = raw.signature := by
  unfold ofBytes?
  split_ifs with h
  · constructor
    · intro hs
      exact ⟨⟨bs, h⟩, rfl, (Option.some.inj hs).symm⟩
    · rintro ⟨raw, rfl, rfl⟩
      rfl
  · simp only [false_iff]
    rintro ⟨raw, rfl, -⟩
    exact h raw.2

/-- What stands behind the name of the curve, or the whole text if it has no name. -/
def behindName (cs : List Char) : List Char :=
  if "ed25519:".toList.isPrefixOf cs then cs.drop "ed25519:".toList.length else cs

/-- The first attempt. -/
def inBase64? (s : String) : Option Signature := (Base64.decodeExact? s).bind ofBytes?

/-- The second attempt, at both spellings in base 58. -/
def inBase58? (s : String) : Option Signature :=
  (Base58.decode (String.ofList (behindName s.toList))).toOption.bind ofBytes?

end parseSignature

open parseSignature

def noSpelling : Error := .plain .key
  "Invalid signature format. Expected base64, ed25519:base58, or plain base58"

lemma parseSignature_eq (s : String) : parseSignature s = match inBase64? s with
    | some sig => .ok sig
    | none => match inBase58? s with
      | some sig => .ok sig
      | none => .error noSpelling := by
  cases h64 : inBase64? s with
  | some sig =>
    rw [inBase64?] at h64
    simp only [parseSignature, h64]
  | none =>
    rw [inBase64?] at h64
    cases h58 : inBase58? s with
    | some sig =>
      rw [inBase58?, behindName] at h58
      simp only [parseSignature, h64, h58]
    | none =>
      rw [inBase58?, behindName] at h58
      simp only [parseSignature, h64, h58, noSpelling]

/-- A text is refused for its format only. -/
lemma eq_noSpelling {s : String} {e : Error} (h : parseSignature s = .error e) :
    e = noSpelling := by
  rw [parseSignature_eq] at h
  cases h64 : inBase64? s with
  | some sig => simp [h64] at h
  | none =>
    cases h58 : inBase58? s with
    | some sig => simp [h64, h58] at h
    | none => simpa [h64, h58, eq_comm] using h

lemma inBase64?_eq_some_iff {s : String} {sig : Signature} : inBase64? s = some sig ↔
    ∃ raw : RawSignature, Base64.Spells raw.1 s.toList ∧ sig = raw.signature := by
  rw [inBase64?, Option.bind_eq_some_iff]
  constructor
  · rintro ⟨bs, hbs, hsig⟩
    obtain ⟨raw, rfl, rfl⟩ := ofBytes?_eq_some_iff.1 hsig
    exact ⟨raw, Base64.decodeExact?_eq_some_iff.1 hbs, rfl⟩
  · rintro ⟨raw, hs, rfl⟩
    exact ⟨raw.1, Base64.decodeExact?_eq_some_iff.2 hs, ofBytes?_eq_some_iff.2 ⟨raw, rfl, rfl⟩⟩

lemma inBase58?_eq_some_iff {s : String} {sig : Signature} : inBase58? s = some sig ↔
    ∃ (raw : RawSignature) (blanks : List Char), (∀ c ∈ blanks, Text.isBlank c = true) ∧
      behindName s.toList = (Base58.encode raw.1).toList ++ blanks ∧ sig = raw.signature := by
  rw [inBase58?, Option.bind_eq_some_iff]
  constructor
  · rintro ⟨bs, hbs, hsig⟩
    obtain ⟨raw, rfl, rfl⟩ := ofBytes?_eq_some_iff.1 hsig
    have hdecode : Base58.decode (String.ofList (behindName s.toList)) = .ok raw.1 := by
      cases hd : Base58.decode (String.ofList (behindName s.toList)) with
      | error f => simp [hd, Except.toOption] at hbs
      | ok bs => simpa [hd, Except.toOption] using hbs
    obtain ⟨blanks, hblank, hs⟩ := Base58.decode_eq_ok_iff.1 hdecode
    rw [String.toList_ofList] at hs
    exact ⟨raw, blanks, hblank, hs, rfl⟩
  · rintro ⟨raw, blanks, hblank, hs, rfl⟩
    have hdecode : Base58.decode (String.ofList (behindName s.toList)) = .ok raw.1 :=
      Base58.decode_eq_ok_iff.2 ⟨blanks, hblank, by rw [String.toList_ofList, hs]⟩
    exact ⟨raw.1, by rw [hdecode]; rfl, ofBytes?_eq_some_iff.2 ⟨raw, rfl, rfl⟩⟩

/-! ### Texts apart -/

section Apart

variable {bs : Bytes} {blanks : List Char} (hblank : ∀ c ∈ blanks, Text.isBlank c = true)
include hblank

/-- Base 58 and the blanks behind it have no character from outside. -/
lemma not_mem_base58 {c : Char} (ha : c ∉ Base58.alphabet) (hb : Text.isBlank c = false) :
    c ∉ (Base58.encode bs).toList ++ blanks := by
  intro h
  rcases List.mem_append.1 h with h | h
  · exact ha (Base58.mem_alphabet_of_mem_encode h)
  · rw [hblank c h] at hb
    cases hb

lemma behindName_base58 : behindName ((Base58.encode bs).toList ++ blanks) =
    (Base58.encode bs).toList ++ blanks := by
  unfold behindName
  rw [if_neg]
  intro hprefix
  obtain ⟨rest, hrest⟩ := List.isPrefixOf_iff_prefix.1 hprefix
  have hcolon : ':' ∉ (Base58.encode bs).toList ++ blanks :=
    not_mem_base58 hblank (by decide) (by decide)
  refine hcolon ?_
  rw [← hrest]
  exact List.mem_append_left _ (by decide)

end Apart

lemma behindName_named (cs : List Char) : behindName ("ed25519:".toList ++ cs) = cs := by
  unfold behindName
  rw [if_pos (List.isPrefixOf_iff_prefix.2 ⟨cs, rfl⟩), List.drop_left]

/-- A text is its part behind the name, or has the name in front of it. -/
lemma behindName_cases (cs : List Char) :
    cs = behindName cs ∨ cs = "ed25519:".toList ++ behindName cs := by
  unfold behindName
  split_ifs with h
  · obtain ⟨rest, rfl⟩ := List.isPrefixOf_iff_prefix.1 h
    exact .inr (by rw [List.drop_left])
  · exact .inl rfl

/-! ### Every text -/

namespace SpelledAs

variable {s : String} {raw raw' : RawSignature}

lemma iff_attempts : SpelledAs raw s ↔
    inBase64? s = some raw.signature ∨ inBase58? s = some raw.signature := by
  constructor
  · rintro (h | ⟨hblank, hs⟩ | ⟨hblank, hs⟩)
    · exact .inl (inBase64?_eq_some_iff.2 ⟨raw, h, rfl⟩)
    · refine .inr (inBase58?_eq_some_iff.2 ⟨raw, _, hblank, ?_, rfl⟩)
      rw [hs, behindName_base58 hblank]
    · refine .inr (inBase58?_eq_some_iff.2 ⟨raw, _, hblank, ?_, rfl⟩)
      rw [hs, behindName_named]
  · rintro (h | h)
    · obtain ⟨raw', hs, heq⟩ := inBase64?_eq_some_iff.1 h
      obtain rfl := RawSignature.signature_injective heq
      exact .base64 hs
    · obtain ⟨raw', blanks, hblank, hs, heq⟩ := inBase58?_eq_some_iff.1 h
      obtain rfl := RawSignature.signature_injective heq
      rcases behindName_cases s.toList with hname | hname
      · exact .base58 hblank (hname.trans hs)
      · exact .named hblank (hname.trans (congrArg _ hs))

/-- What the second attempt takes has no padding, so the first one does not. -/
lemma apart {sig : Signature} (h : inBase58? s = some sig) : inBase64? s = none := by
  obtain ⟨raw, blanks, hblank, hs, -⟩ := inBase58?_eq_some_iff.1 h
  have hpad : '=' ∉ behindName s.toList :=
    hs ▸ not_mem_base58 hblank (by decide) (by decide)
  have hnone : '=' ∉ s.toList := by
    rcases behindName_cases s.toList with hname | hname
    · exact hname ▸ hpad
    · rw [hname, List.mem_append, not_or]
      exact ⟨by decide, hpad⟩
  rw [Option.eq_none_iff_forall_ne_some]
  intro sig' h64
  obtain ⟨raw', hspells, -⟩ := inBase64?_eq_some_iff.1 h64
  refine hnone (hspells.pad_mem ?_)
  rw [raw'.2]
  decide

/-- A spelling is read as the bytes that it spells. -/
lemma parse (h : SpelledAs raw s) : parseSignature s = .ok raw.signature := by
  rw [parseSignature_eq]
  rcases iff_attempts.1 h with h | h
  · rw [h]
  · rw [apart h, h]

lemma unique (h : SpelledAs raw s) (h' : SpelledAs raw' s) : raw' = raw :=
  RawSignature.signature_injective (Except.ok.inj (h'.parse.symm.trans h.parse))

end SpelledAs

/-- **The three spellings of a signature never clash.** Each of them is read as the 64 bytes that
it was made of. A text is a spelling of some bytes, of no others, and read as these; or it is a
spelling of none, and refused. -/
theorem parseSignature_spellings :
    (∀ raw : RawSignature,
      parseSignature (Base64.encode raw) = .ok raw.signature ∧
      parseSignature ("ed25519:" ++ Base58.encode raw) = .ok raw.signature ∧
      parseSignature (Base58.encode raw) = .ok raw.signature) ∧
    ∀ s,
      (∃ raw : RawSignature, (∀ raw' : RawSignature, SpelledAs raw' s ↔ raw' = raw) ∧
        parseSignature s = .ok raw.signature) ∨
      ((∀ raw : RawSignature, ¬ SpelledAs raw s) ∧ parseSignature s = .error noSpelling) := by
  have hnone : ∀ c ∈ ([] : List Char), Text.isBlank c = true := by simp
  refine ⟨fun raw => ⟨?_, ?_, ?_⟩, fun s => ?_⟩
  · refine SpelledAs.parse (.base64 ?_)
    rw [Base64.encode, String.toList_ofList]
    exact .exactly
  · exact SpelledAs.parse (.named hnone (by rw [String.toList_append, List.append_nil]))
  · exact SpelledAs.parse (.base58 hnone (List.append_nil _).symm)
  · by_cases h : ∃ raw : RawSignature, SpelledAs raw s
    · obtain ⟨raw, h⟩ := h
      exact .inl ⟨raw, fun raw' => ⟨h.unique, fun heq => heq ▸ h⟩, h.parse⟩
    · have h64 : inBase64? s = none := by
        rw [Option.eq_none_iff_forall_ne_some]
        intro sig hsig
        obtain ⟨raw, hs, -⟩ := inBase64?_eq_some_iff.1 hsig
        exact h ⟨raw, .base64 hs⟩
      have h58 : inBase58? s = none := by
        rw [Option.eq_none_iff_forall_ne_some]
        intro sig hsig
        obtain ⟨raw, -, -, -, rfl⟩ := inBase58?_eq_some_iff.1 hsig
        exact h ⟨raw, SpelledAs.iff_attempts.2 (.inr hsig)⟩
      exact .inr ⟨not_exists.1 h, by rw [parseSignature_eq, h64, h58]⟩

end LedgerClient.OffChain
