import LedgerClient.Proofs.Bytes.Base58
import LedgerClient.Proofs.Text.Occurrence
import LedgerClient.Key.Basic

/-!
What the refusal of a secret key's text says. A text in front of whose colon a curve is named does
not occur in it, whatever else is wrong with the text; one without a colon is quoted.
-/

namespace LedgerClient

open Text

/-! ### What an error shows -/

/-- All texts within a value, the names of members among them. -/
def Value.texts : Value → List String
  | text s => [s]
  | list xs => items xs
  | object ms => entries ms
  | _ => []
where
  items : List Value → List String
    | [] => []
    | x :: xs => x.texts ++ items xs
  entries : Members → List String
    | [] => []
    | (k, v) :: r => k :: v.texts ++ entries r

/-- The text occurs in the value as it is shown, or in a text within it. -/
def Value.Shows (k : String) (v : Value) : Prop := ∃ s ∈ v.literal :: v.texts, Occurs k s

/-- The text occurs in the message of the error, in its details or in an earlier cause of it. -/
inductive Error.Reveals (k : String) : Error → Prop
  | fault {f : Fault} (h : Occurs k (faultText f)) : Reveals k (.host f)
  | message {e : Error} {m : Value} (hm : e.message? = some m) (h : Occurs k m.display) :
      Reveals k e
  | details {e : Error} (h : (Value.object e.details).Shows k) : Reveals k e
  | cause {e c : Error} (hc : e.cause? = some c) (h : Reveals k c) : Reveals k e

namespace Error

variable {k : String} {kind : Kind} {m : String}

lemma reveals_client_iff {ds : Members} {cause : Option Error} :
    Reveals k (.client kind m ds cause) ↔
      Occurs k m ∨ (Value.object ds).Shows k ∨ ∃ c, cause = some c ∧ Reveals k c := by
  constructor
  · intro h
    cases h with
    | message hm h => cases hm; exact .inl h
    | details h => exact .inr (.inl h)
    | cause hc h => exact .inr (.inr ⟨_, hc, h⟩)
  · rintro (h | h | ⟨c, hc, h⟩)
    · exact .message (m := .text m) rfl h
    · exact .details h
    · exact .cause hc h

lemma not_shows_nil (hk : 32 ≤ k.length) : ¬ (Value.object []).Shows k := by
  rintro ⟨s, hs, h⟩
  obtain rfl : s = "\x7b\x7d" := List.mem_singleton.1 hs
  exact absurd (hk.trans h.length_le) (by decide)

lemma reveals_plain_iff (hk : 32 ≤ k.length) : Reveals k (.plain kind m) ↔ Occurs k m := by
  rw [reveals_client_iff]
  simp [not_shows_nil hk]

lemma reveals_host_iff {f : Fault} (hk : 32 ≤ k.length) :
    Reveals k (.host f) ↔ Occurs k (faultText f) := by
  constructor
  · intro h
    cases h with
    | fault h => exact h
    | message hm h => cases hm
    | details h => exact absurd h (not_shows_nil hk)
    | cause hc h => cases hc
  · exact .fault

end Error

/-! ### Faults of base 58 -/

namespace Text

/-- What holds of the sixteen digits and of what is in front of them holds of an escape. -/
lemma forall_escapeChar {p : Char → Prop} (hback : p '\\') (hmark : p 'x' ∧ p 'u' ∧ p 'U')
    (hdigit : ∀ d : Fin 16, p (hexDigitChar d)) (c : Char) : ∀ d ∈ escapeChar c, p d := by
  have hdigits : ∀ width n, ∀ d ∈ hexDigits width n, p d := by
    intro width
    induction width with
    | zero => simp [hexDigits]
    | succ width ih =>
      intro n
      refine List.forall_mem_append.2 ⟨ih _, List.forall_mem_singleton.2 ?_⟩
      exact hdigit ⟨n % 16, Nat.mod_lt _ (by decide)⟩
  obtain ⟨hx, hu, hU⟩ := hmark
  rw [escapeChar]
  split_ifs
  · exact List.forall_mem_append.2 ⟨by simp [hback, hx], hdigits 2 _⟩
  · exact List.forall_mem_append.2 ⟨by simp [hback, hu], hdigits 4 _⟩
  · exact List.forall_mem_append.2 ⟨by simp [hback, hU], hdigits 8 _⟩

lemma isAscii_natText (n : Nat) : IsAscii (natText n) := by
  rw [IsAscii, natText, String.toList_ofList]
  exact fun c hc => toNat_lt_of_isDigit (isDigit_of_mem_toDigits hc)

end Text

namespace Base58

/-- A character outside ASCII is named by its number. -/
lemma isAscii_nonAscii (start count : Nat) (first : Char) :
    IsAscii (Fault.nonAscii start count first).message := by
  unfold Fault.message
  split
  · rename_i h
    cases h
    have hescape : IsAscii (String.ofList (escapeChar first)) := by
      rw [IsAscii, String.toList_ofList]
      exact forall_escapeChar (by decide) (by decide) (by decide) first
    simp only [isAscii_append]
    exact ⟨⟨⟨⟨by decide, hescape⟩, by decide⟩, isAscii_natText _⟩, by decide⟩
  · simp only [isAscii_append]
    exact ⟨⟨⟨⟨by decide, isAscii_natText _⟩, by decide⟩, isAscii_natText _⟩, by decide⟩
  · rename_i h
    cases h

lemma message_badChar (c : Char) :
    (Fault.badChar c).message = "Invalid character " ++ quoted (String.singleton c) := rfl

lemma numeral_eq_error {cs : List Char} {f : Fault} (h : numeral cs = .error f) :
    ∃ c, f = .badChar c := by
  induction cs with
  | nil => cases h
  | cons c cs ih =>
    rw [numeral] at h
    split at h
    · exact ⟨c, (Except.error.inj h).symm⟩
    · cases hn : numeral cs with
      | ok ds => rw [hn] at h; cases h
      | error f' =>
        rw [hn] at h
        exact ih (hn.trans h)

/-- A text is no numeral for a character outside ASCII, or else for one that is no digit. -/
lemma decode_eq_error {s : String} {f : Fault} (h : decode s = .error f) :
    (∃ start count first, f = .nonAscii start count first ∧ ∃ c ∈ s.toList, 128 ≤ c.toNat) ∨
      ∃ c, f = .badChar c := by
  have hmem : ∀ c ∈ trimEnd s.toList, c ∈ s.toList := by
    intro c hc
    obtain ⟨blanks, -, hs⟩ := exists_trimEnd s.toList
    rw [hs]
    exact List.mem_append_left blanks hc
  unfold decode at h
  generalize trimEnd s.toList = cs at h hmem
  cases hd : cs.dropWhile (·.toNat < 128) with
  | cons c r =>
    have hc : c ∈ cs := (List.dropWhile_sublist _).mem (hd ▸ List.mem_cons_self)
    have hnot := List.head?_dropWhile_not (·.toNat < 128) cs
    rw [hd] at hnot
    simp only [nonAscii?, hd] at h
    exact .inl ⟨_, _, _, (Except.error.inj h).symm, c, hmem c hc, by simpa using hnot⟩
  | nil =>
    simp only [nonAscii?, hd] at h
    cases hn : numeral (cs.dropWhile (· == '1')) with
    | ok ds => simp [hn, bind, Except.bind, pure, Except.pure] at h
    | error f' =>
      obtain ⟨c, rfl⟩ := numeral_eq_error hn
      simp only [hn, bind, Except.bind] at h
      exact .inr ⟨c, (Except.error.inj h).symm⟩

end Base58

/-! ### Refusals -/

namespace SecretKey

/-- Why the text of a secret key is refused, with what is said of it. -/
inductive Refused (k : String) : String → Prop
  | noColon (h : ':' ∉ k.toList) :
      Refused k ("Invalid key format, expected '<type>:<base58>': " ++ quoted k)
  | noCurve {front back : List Char} (h : k.toList = front ++ ':' :: back) (hfront : ':' ∉ front) :
      Refused k ("Unknown key type: " ++ String.ofList front)
  | noNumeral {c : Curve} {back : List Char} {f : Base58.Fault}
      (h : k.toList = c.name.toList ++ ':' :: back)
      (hback : Base58.decode (String.ofList back) = .error f) :
      Refused k ("Invalid base58: " ++ f.message)
  | wrongCurve {back : List Char} (h : k.toList = Curve.secp256k1.name.toList ++ ':' :: back) :
      Refused k ("Unsupported secret key type: " ++ Curve.secp256k1.name)
  | wrongLength {back : List Char} (n : Nat)
      (h : k.toList = Curve.ed25519.name.toList ++ ':' :: back) :
      Refused k ("Invalid Ed25519 secret key length: expected 32 or 64, got " ++ natText n)

variable {k : String}

lemma name_of_ofName? {s : String} {c : Curve} (h : Curve.ofName? s = some c) : c.name = s :=
  beq_iff_eq.1 (List.find?_some h :)

lemma split_cases (k : String) :
    (∃ c back bs, KeyText.split k = .ok (c, bs) ∧ k.toList = c.name.toList ++ ':' :: back ∧
      Base58.decode (String.ofList back) = .ok bs) ∨
    ∃ m, KeyText.split k = .error (.plain .key m) ∧ Refused k m := by
  rw [KeyText.split]
  rcases takeWhile_cases ':' k.toList with ⟨hd, -, hcolon⟩ | ⟨back, hd, hk, hfront⟩
  · rw [hd]
    exact .inr ⟨_, rfl, .noColon hcolon⟩
  · simp only [hd]
    cases hc : Curve.ofName? (String.ofList (k.toList.takeWhile (· != ':'))) with
    | none => exact .inr ⟨_, rfl, .noCurve hk hfront⟩
    | some c =>
      have hname : k.toList = c.name.toList ++ ':' :: back := by
        rw [name_of_ofName? hc, String.toList_ofList]
        exact hk
      cases hb : Base58.decode (String.ofList back) with
      | ok bs => exact .inl ⟨c, back, bs, rfl, hname, hb⟩
      | error f => exact .inr ⟨_, rfl, .noNumeral hname hb⟩

lemma parse_cases (k : String) :
    (∃ back bs s, parse k = .ok s ∧ k.toList = Curve.ed25519.name.toList ++ ':' :: back ∧
      Base58.decode (String.ofList back) = .ok bs ∧ (bs.length = 32 ∨ bs.length = 64)) ∨
    ∃ m, parse k = .error (.plain .key m) ∧ Refused k m := by
  rw [parse, ofValue, KeyText.splitValue]
  rcases split_cases k with ⟨c, back, bs, hsplit, hk, hback⟩ | ⟨m, hsplit, hm⟩
  · rw [hsplit]
    cases c with
    | secp256k1 => exact .inr ⟨_, rfl, .wrongCurve hk⟩
    | ed25519 =>
      change (∃ back bs s, ofBytes _ = .ok s ∧ _) ∨ ∃ m, ofBytes _ = .error (.plain .key m) ∧ _
      by_cases hlen : bs.length = 32 ∨ bs.length = 64
      · exact .inl ⟨back, bs, _, dif_pos hlen, hk, hback, hlen⟩
      · exact .inr ⟨_, dif_neg hlen, .wrongLength _ hk⟩
  · rw [hsplit]
    exact .inr ⟨m, rfl, hm⟩

/-- A text that is read holds the name of its curve, a numeral and blanks. -/
lemma mem_of_parse {s : SecretKey} {c : Char} (h : parse k = .ok s) (hc : c ∈ k.toList) :
    c ∈ "ed25519:".toList ∨ c ∈ Base58.alphabet ∨ isBlank c = true := by
  rcases parse_cases k with ⟨back, bs, s', -, hk, hback, -⟩ | ⟨m, hm, -⟩
  · obtain ⟨blanks, hblank, hspelled⟩ := Base58.decode_eq_ok_iff.1 hback
    rw [String.toList_ofList] at hspelled
    rw [hk, hspelled, List.mem_append, List.mem_cons, List.mem_append] at hc
    rcases hc with hc | rfl | hc | hc
    · exact .inl (List.mem_append_left [':'] hc)
    · exact .inl (by decide)
    · exact .inr (.inl (Base58.mem_alphabet_of_mem_encode hc))
    · exact .inr (.inr (hblank c hc))
  · cases hm.symm.trans h

/-- Texts of the words of a refusal, which are refused in these words. -/
def wordsOfRefusal : List String :=
  ["Unknown key type: Unknown key ty", "Unknown key type: Unknown key typ",
    "Unknown key type: Unknown key type", "nknown key type: nknown key type"]

/-- The refusal repeats the text: it has no colon, or is made of the words of the refusal itself. -/
def Echoed (k : String) : Prop := ':' ∉ k.toList ∨ k ∈ wordsOfRefusal

lemma echoed_of_noCurve {front back : List Char} (hlen : 32 ≤ k.length)
    (hk : k.toList = front ++ ':' :: back) (hfront : ':' ∉ front)
    (h : Occurs k ("Unknown key type: " ++ String.ofList front)) : Echoed k := by
  have hwords : ∀ f ∈ "Unknown key type".toList.tails, ∀ b ∈ (' ' :: f).inits,
      32 ≤ (f ++ ':' :: b).length → String.ofList (f ++ ':' :: b) ∈ wordsOfRefusal := by decide
  -- the refusal has but one colon, which is where the colon of the text has to be
  have hmessage : ("Unknown key type: " ++ String.ofList front).toList =
      "Unknown key type".toList ++ ':' :: (' ' :: front) := by simp
  obtain ⟨s, t, heq⟩ := h
  rw [hmessage, hk, List.append_assoc, List.append_assoc, ← List.append_assoc s,
    List.cons_append] at heq
  obtain ⟨hs, -, ht⟩ := (List.append_cons_inj_of_notMem (by decide)
    (by simp [hfront])).1 heq.symm
  have hmem := hwords front ((List.mem_tails _ _).2 ⟨s, hs.symm⟩) back
    ((List.mem_inits _ _).2 ⟨t, ht.symm⟩)
  rw [← hk, String.length_toList, String.ofList_toList] at hmem
  exact .inr (hmem hlen)

/-- A quoted character is too short to show the name, or a number, which has no colon. -/
lemma name_not_infix_quoted (c : Curve) (d : Char) :
    ¬ c.name.toList ++ [':'] <:+: (quoted (String.singleton d)).toList := by
  intro h
  have htext : (quoted (String.singleton d)).toList =
      quoteFor [d] :: (quoteChar (quoteFor [d]) d ++ [quoteFor [d]]) := by
    simp [quoted]
  rw [htext] at h
  have hchar : (quoteChar (quoteFor [d]) d).length ≤ 2 ∨
      quoteChar (quoteFor [d]) d = escapeChar d := by
    rw [quoteChar]
    split_ifs <;> simp
  rcases hchar with hshort | hescape
  · have hlen := h.length_le
    have hname : 8 ≤ (c.name.toList ++ [':']).length := by cases c <;> decide
    simp only [List.length_cons, List.length_append, List.length_nil] at hlen hname
    omega
  · have hquote : quoteFor [d] ≠ ':' := by
      rw [quoteFor]
      split_ifs <;> decide
    have hnot : ∀ e ∈ escapeChar d, e ≠ ':' :=
      forall_escapeChar (by decide) (by decide) (by decide) d
    have hcolon := h.subset (List.mem_append_right _ (List.mem_singleton_self ':'))
    rw [hescape] at hcolon
    simp only [List.mem_cons, List.mem_append, List.not_mem_nil, or_false] at hcolon
    rcases hcolon with he | he | he
    · exact hquote he.symm
    · exact hnot _ he rfl
    · exact hquote he.symm

/-- In no refusal behind a curve's name does that name stand in front of a colon. -/
lemma Refused.echoed {m : String} (hm : Refused k m) (hlen : 32 ≤ k.length) (h : Occurs k m) :
    Echoed k := by
  have hname : ∀ {c : Curve} {back}, k.toList = c.name.toList ++ ':' :: back →
      c.name.toList ++ [':'] <:+: m.toList := by
    intro c back hk
    have hprefix : c.name.toList ++ [':'] <+: k.toList := ⟨back, by simp [hk]⟩
    exact hprefix.isInfix.trans h
  cases hm with
  | noColon hcolon => exact .inl hcolon
  | noCurve hk hfront => exact echoed_of_noCurve hlen hk hfront h
  | @noNumeral c back f hk hback =>
    rcases Base58.decode_eq_error hback with ⟨start, count, first, rfl, d, hd, hlarge⟩ | ⟨d, rfl⟩
    · -- the refusal is in ASCII, and the text is not
      have hmessage : IsAscii
          ("Invalid base58: " ++ (Base58.Fault.nonAscii start count first).message) :=
        isAscii_append.2 ⟨by decide, Base58.isAscii_nonAscii start count first⟩
      have hmem : d ∈ k.toList := by
        rw [hk]
        rw [String.toList_ofList] at hd
        exact List.mem_append_right _ (List.mem_cons_of_mem _ hd)
      exact absurd (hmessage d (h.subset hmem)) hlarge.not_gt
    · have hshown := hname hk
      rw [Base58.message_badChar, ← String.append_assoc, String.toList_append] at hshown
      have hblank : ' ' ∉ c.name.toList ++ [':'] := by cases c <;> decide
      have hwords : ¬ c.name.toList ++ [':'] <:+:
          ("Invalid base58: " ++ "Invalid character ").toList := by cases c <;> decide
      exact absurd (infix_of_words List.prefix_rfl hblank hwords (by decide) hshown)
        (name_not_infix_quoted c d)
  | wrongCurve hk => exact absurd (hname hk) (by decide)
  | wrongLength n hk =>
    have hdigits : ':' ∉ (natText n).toList := fun hc => by
      rw [natText, String.toList_ofList] at hc
      exact absurd (isDigit_of_mem_toDigits hc) (by decide)
    have hwords := hname hk
    rw [String.toList_append] at hwords
    exact absurd (infix_of_last_not_mem hdigits hwords) (by decide)

lemma reveals_of_echoed (hlen : 32 ≤ k.length) (hplain : Plain k) (h : Echoed k) :
    ∃ e, parse k = .error e ∧ e.Reveals k := by
  rcases h with hcolon | hwords
  · have hsplit : KeyText.split k = .error (KeyText.split.malformed (.text k)) := by
      rw [KeyText.split]
      rcases takeWhile_cases ':' k.toList with ⟨hd, -, -⟩ | ⟨back, -, hk, -⟩
      · rw [hd]
      · exact absurd (hk ▸ List.mem_append_right _ List.mem_cons_self) hcolon
    refine ⟨KeyText.split.malformed (.text k), ?_, (Error.reveals_plain_iff hlen).2 ?_⟩
    · rw [parse, ofValue, KeyText.splitValue, hsplit]
      rfl
    · rw [Occurs, String.toList_append]
      exact (occurs_quoted hplain).trans (List.suffix_append _ _).isInfix
  · simp only [wordsOfRefusal, List.mem_cons, List.not_mem_nil, or_false] at hwords
    rcases hwords with rfl | rfl | rfl | rfl
    all_goals exact ⟨_, rfl, (Error.reveals_plain_iff hlen).2 (by decide)⟩

end SecretKey

end LedgerClient
