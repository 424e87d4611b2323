import LedgerClient.Digest
import LedgerClient.Proofs.Key.Refusal
import LedgerClient.Proofs.Wire.Scalar

/-!
The texts of keys, signatures and digests. Each value is read back from its text, and only from this
text and the same with blanks behind it; all other texts are refused. So no two values share a text.
-/

namespace LedgerClient

/-- The text `s` with nothing but blanks behind it. -/
def Text.Trailed (s t : String) : Prop :=
  ∃ blanks, (∀ c ∈ blanks, Text.isBlank c = true) ∧ t.toList = s.toList ++ blanks

open Text

/-- Values are read from their texts, and whatever else is read is such a text up to blanks. -/
structure Faithful {α : Type} (kind : Kind) (text : α → String)
    (parse : String → Except Error α) : Prop where
  parse_text (x : α) : parse (text x) = .ok x
  trailed_or_refused (t : String) :
    (∃ x, parse t = .ok x ∧ Trailed (text x) t) ∨ ∃ m, parse t = .error (.plain kind m)

namespace Faithful

variable {α β : Type} {kind : Kind} {text : β → String} {parse : String → Except Error β}

lemma injective (h : Faithful kind text parse) : Function.Injective text := fun x y hxy => by
  have hy := h.parse_text y
  rw [← hxy, h.parse_text x] at hy
  exact Except.ok.inj hy

/-- Values made of others, which are parts of them, or refused. -/
lemma andThen (h : Faithful kind text parse) {part : α → β} {make : β → Except Error α}
    (hpart : ∀ x, make (part x) = .ok x)
    (hmake : ∀ y, (∃ x, make y = .ok x ∧ part x = y) ∨ ∃ m, make y = .error (.plain kind m)) :
    Faithful kind (fun x => text (part x)) fun t => (parse t).bind make := by
  constructor
  · intro x
    rw [h.parse_text, Except.bind, hpart]
  · intro t
    rcases h.trailed_or_refused t with ⟨y, hy, htrailed⟩ | ⟨m, hm⟩
    · rw [hy]
      rcases hmake y with ⟨x, hx, rfl⟩ | ⟨m, hm⟩
      · exact .inl ⟨x, hx, htrailed⟩
      · exact .inr ⟨m, hm⟩
    · rw [hm]
      exact .inr ⟨m, rfl⟩

end Faithful

/-! ### Bytes, with and without a curve -/

lemma Base58.faithful (kind : Kind) (message : String → Fault → String) :
    Faithful kind encode fun s => (decode s).mapError fun f => .plain kind (message s f) := by
  constructor
  · intro bs
    rw [decode_encode]
    rfl
  · intro t
    cases h : decode t with
    | ok bs => exact .inl ⟨bs, rfl, decode_eq_ok_iff.1 h⟩
    | error f => exact .inr ⟨_, rfl⟩

lemma KeyText.split_join (c : Curve) (bs : Bytes) : split (join c bs) = .ok (c, bs) := by
  have hjoin : (join c bs).toList = c.name.toList ++ ':' :: (Base58.encode bs).toList := by
    rw [join, String.toList_append, String.toList_append, List.append_assoc]
    rfl
  -- no curve has a colon in its name
  have hfront : (join c bs).toList.takeWhile (· != ':') = c.name.toList := by
    rw [hjoin]
    cases c <;> rfl
  have hback : (join c bs).toList.dropWhile (· != ':') = ':' :: (Base58.encode bs).toList := by
    rw [hjoin]
    cases c <;> rfl
  have hname : Curve.ofName? c.name = some c := by cases c <;> rfl
  simp only [split, hfront, hback, String.ofList_toList, hname, Base58.decode_encode]

lemma KeyText.faithful : Faithful .key (fun x : Curve × Bytes => join x.1 x.2) split := by
  constructor
  · exact fun x => split_join x.1 x.2
  · intro t
    rcases SecretKey.split_cases t with ⟨c, back, bs, hsplit, ht, hback⟩ | ⟨m, hm, -⟩
    · obtain ⟨blanks, hblank, hspelled⟩ := Base58.decode_eq_ok_iff.1 hback
      refine .inl ⟨(c, bs), hsplit, blanks, hblank, ?_⟩
      rw [String.toList_ofList] at hspelled
      rw [ht, hspelled]
      simp [join]
    · exact .inr ⟨m, hm⟩

/-! ### Keys, signatures and digests -/

lemma PublicKey.make_cases (x : Curve × Bytes) :
    (∃ k, make x.1 x.2 = .ok k ∧ (k.curve, k.bytes) = x) ∨
      ∃ m, make x.1 x.2 = .error (.plain .key m) := by
  rw [make]
  split_ifs
  · exact .inr ⟨_, rfl⟩
  · exact .inl ⟨_, rfl, rfl⟩
  · exact .inr ⟨_, rfl⟩

lemma PublicKey.faithful : Faithful .key text parse :=
  KeyText.faithful.andThen make_bytes make_cases

lemma Signature.make_cases (x : Curve × Bytes) :
    (∃ s, make x.1 x.2 = .ok s ∧ (s.curve, s.bytes) = x) ∨
      ∃ m, make x.1 x.2 = .error (.plain .key m) := by
  rw [make]
  split_ifs
  · exact .inl ⟨_, rfl, rfl⟩
  · exact .inr ⟨_, rfl⟩

lemma Signature.faithful : Faithful .key text parse :=
  KeyText.faithful.andThen make_bytes make_cases

lemma Digest.ofBytes_cases (bs : Bytes) :
    (∃ d, ofBytes bs = .ok d ∧ d.bytes = bs) ∨ ∃ m, ofBytes bs = .error (.plain .digest m) := by
  rw [ofBytes]
  split_ifs
  · exact .inl ⟨_, rfl, rfl⟩
  · exact .inr ⟨_, rfl⟩

lemma Digest.faithful : Faithful .digest text parse := by
  have hparse : parse = fun s => ((Base58.decode s).mapError fun f => .plain .digest
      ("Invalid base58 hash " ++ quoted s ++ ": " ++ f.message)).bind ofBytes := by
    funext s
    rw [parse]
    cases Base58.decode s <;> rfl
  rw [hparse]
  exact (Base58.faithful _ _).andThen ofBytes_bytes ofBytes_cases

lemma SecretKey.parse_text (k : SecretKey) : parse k.text = .ok k := by
  have hlen : k.toBytes.length = 64 := by
    rw [toBytes, List.length_append, k.length_eq, k.publicKey.length_eq]
    rfl
  have hseed : k.toBytes.take 32 = k.seed := List.take_left' k.length_eq
  have hmake : ofBytes k.toBytes = .ok k := by
    rw [ofBytes, dif_pos (.inr hlen)]
    exact congrArg Except.ok (ext hseed)
  simp only [parse, ofValue, KeyText.splitValue, text, KeyText.split_join]
  exact hmake

/-- **A text is as good as its value.** Keys, signatures and digests are read back from their texts,
other texts but for blanks behind them are refused, and distinct values have distinct texts. -/
theorem texts_faithful :
    Faithful .key PublicKey.text PublicKey.parse ∧ Faithful .key Signature.text Signature.parse ∧
    Faithful .digest Digest.text Digest.parse ∧
    (∀ k : SecretKey, SecretKey.parse k.text = .ok k) ∧
    Function.Injective PublicKey.text ∧ Function.Injective Signature.text ∧
    Function.Injective Digest.text ∧ Function.Injective SecretKey.text := by
  have hsecret : Function.Injective SecretKey.text := fun k l h => by
    have hl := SecretKey.parse_text l
    rw [← h, SecretKey.parse_text k] at hl
    exact Except.ok.inj hl
  exact ⟨PublicKey.faithful, Signature.faithful, Digest.faithful, SecretKey.parse_text,
    PublicKey.faithful.injective, Signature.faithful.injective, Digest.faithful.injective, hsecret⟩

end LedgerClient
