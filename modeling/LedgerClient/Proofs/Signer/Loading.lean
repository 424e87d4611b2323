import LedgerClient.Proofs.Key.Spelling
import LedgerClient.Proofs.Signer.Secrecy
import LedgerClient.Proofs.Wire.Yields

/-!
Secret keys that are loaded from records and keyrings. `Credential.Keeps` says, without the steps of
the reader, which texts are records of a key; just these are accepted, every other text is refused
as malformed, and the only exception are texts that the host strains at. A keyring may answer as it
likes: a signer that it leads to has the key that was asked for.
-/

namespace LedgerClient

open Text

/-! ### Texts of keys -/

/-- A text is taken apart into what it was joined from, whatever blanks stand behind. -/
lemma KeyText.split_of_trailed {c : Curve} {bs : Bytes} {t : String} (h : Trailed (join c bs) t) :
    split t = .ok (c, bs) := by
  obtain ⟨blanks, hblank, ht⟩ := h
  have htext : t.toList = c.name.toList ++ ':' :: ((Base58.encode bs).toList ++ blanks) := by
    rw [ht, join]
    simp
  -- no curve has a colon in its name
  have hfront : t.toList.takeWhile (· != ':') = c.name.toList := by
    rw [htext]
    cases c <;> rfl
  have hback : t.toList.dropWhile (· != ':') =
      ':' :: ((Base58.encode bs).toList ++ blanks) := by
    rw [htext]
    cases c <;> rfl
  have hname : Curve.ofName? c.name = some c := by cases c <;> rfl
  have hdecode : Base58.decode (String.ofList ((Base58.encode bs).toList ++ blanks)) = .ok bs :=
    Base58.decode_eq_ok_iff.2 ⟨blanks, hblank, String.toList_ofList⟩
  simp only [split, hfront, hback, String.ofList_toList, hname, hdecode]

namespace SecretKey

/-- The text names the curve of the key and spells its seed, alone or with 32 more bytes behind it.
Blanks may follow. -/
def SpelledBy (k : SecretKey) (t : String) : Prop :=
  ∃ bs, (bs.length = 32 ∨ bs.length = 64) ∧ bs.take 32 = k.seed ∧
    Trailed (KeyText.join .ed25519 bs) t

variable {t : String} {k k' : SecretKey}

lemma ofBytes_eq_ok_iff {bs : Bytes} :
    ofBytes bs = .ok k ↔ (bs.length = 32 ∨ bs.length = 64) ∧ bs.take 32 = k.seed := by
  rw [ofBytes]
  split
  · rename_i hlen
    rw [Except.ok.injEq]
    exact ⟨fun h => ⟨hlen, h ▸ rfl⟩, fun h => ext h.2⟩
  · rename_i hlen
    simp [hlen]

lemma parse_of_split {c : Curve} {bs : Bytes} (h : KeyText.split t = .ok (c, bs)) :
    parse t = .ok k ↔ c = .ed25519 ∧ ofBytes bs = .ok k := by
  rw [parse, ofValue, KeyText.splitValue, h]
  cases c with
  | ed25519 => exact ⟨fun h => ⟨rfl, h⟩, fun h => h.2⟩
  | secp256k1 => exact ⟨fun h => (by cases h), fun h => (by cases h.1)⟩

/-- **A key is read from the texts that spell it, and from no other.** -/
theorem parse_eq_ok_iff : parse t = .ok k ↔ k.SpelledBy t := by
  constructor
  · intro h
    rcases KeyText.faithful.trailed_or_refused t with ⟨⟨c, bs⟩, hsplit, ht⟩ | ⟨m, hm⟩
    · obtain ⟨rfl, hbytes⟩ := (parse_of_split hsplit).1 h
      obtain ⟨hlen, hseed⟩ := ofBytes_eq_ok_iff.1 hbytes
      exact ⟨bs, hlen, hseed, ht⟩
    · rw [parse, ofValue, KeyText.splitValue, hm] at h
      cases h
  · rintro ⟨bs, hlen, hseed, ht⟩
    exact (parse_of_split (KeyText.split_of_trailed ht)).2
      ⟨rfl, ofBytes_eq_ok_iff.2 ⟨hlen, hseed⟩⟩

lemma SpelledBy.ne_empty (h : k.SpelledBy t) : t ≠ "" := by
  rintro rfl
  have hparse : parse "" = .ok k := parse_eq_ok_iff.2 h
  cases hparse

end SecretKey

/-! ### Outcomes -/

/-- Whatever comes out has the property and all that has it comes out, which is therefore one key at
most. Every error says that a key or its record is malformed. -/
structure Loads (Right : SecretKey → Prop) (x : Except Error SecretKey) : Prop where
  ok_iff : ∀ k, x = .ok k ↔ Right k
  fault : ∀ e, x = .error e → e.OfKind .keyFormat

namespace Loads

variable {P Q : SecretKey → Prop} {x : Except Error SecretKey} {e : Error}

lemma pure (k : SecretKey) : Loads (· = k) (.ok k) where
  ok_iff k' := by rw [Except.ok.injEq, eq_comm]
  fault e h := by cases h

lemma refusal (he : e.OfKind .keyFormat) (hnone : ∀ k, ¬ P k) : Loads P (.error e) where
  ok_iff k := by simp [hnone k]
  fault e' h := by
    cases h
    exact he

lemma congr (h : Loads P x) (hpq : ∀ k, P k ↔ Q k) : Loads Q x where
  ok_iff k := (h.ok_iff k).trans (hpq k)
  fault := h.fault

lemma bind {R : SecretKey → SecretKey → Prop} {f : SecretKey → Except Error SecretKey}
    (h : Loads P x) (hf : ∀ k, Loads (R k) (f k)) :
    Loads (fun k' => ∃ k, P k ∧ R k k') (x.bind f) := by
  cases x with
  | error e =>
    refine refusal (h.fault e rfl) ?_
    rintro k' ⟨k, hk, -⟩
    cases (h.ok_iff k).2 hk
  | ok k =>
    refine (hf k).congr fun k' => ⟨fun hk' => ⟨k, (h.ok_iff k).1 rfl, hk'⟩, ?_⟩
    rintro ⟨l, hl, hk'⟩
    obtain rfl := Except.ok.inj ((h.ok_iff l).2 hl)
    exact hk'

end Loads

/-! ### Records -/

namespace Value

variable {v w : Value} {t : String}

/-- Only the text itself is the same as a text. -/
lemma same_text_iff : v.same (.text t) = true ↔ v = .text t := by
  cases v with
  | text s => simp [same]
  | _ => simp [same, number?, whole?]

lemma isNull_iff : v.isNull = true ↔ v = .null := by cases v <;> simp [isNull]

lemma orElse_eq_text_iff (ht : t ≠ "") :
    v.orElse w = .text t ↔ v = .text t ∨ v.isTruthy = false ∧ w = .text t := by
  rw [orElse]
  split
  · rename_i hv
    simp [hv]
  · rename_i hv
    have hne : v ≠ .text t := by
      rintro rfl
      simp [isTruthy, ht] at hv
    simp [hv, hne]

end Value

namespace Credential

/-- The text that a record gives for its key. The older name counts where nothing stands under the
newer one, or nothing but an empty value. -/
def Gives (ms : Members) (t : String) : Prop :=
  ms.get "private_key" = .text t ∨
    (ms.get "private_key").isTruthy = false ∧ ms.get "secret_key" = .text t

/-- No public key is declared, or the one of the key. -/
def Fits (declared : Value) (k : SecretKey) : Prop :=
  declared = .null ∨ declared = .text k.publicKey.text

/-- The text is an object that gives a text of the key and declares no other public key. -/
def Keeps (content : String) (k : SecretKey) : Prop :=
  ∃ (ms : Members) (t : String), Json.parse content = .ok (.object ms) ∧ Gives ms t ∧
    k.SpelledBy t ∧ Fits (ms.get "public_key") k

lemma malformed_ofKind (m : String) : (malformed m).OfKind .keyFormat := ⟨m, [], none, rfl⟩

lemma keyOfText_loads (message t : String) : Loads (·.SpelledBy t) (keyOfText message t) := by
  refine Loads.congr (P := fun k => SecretKey.parse t = .ok k) ?_ fun k =>
    SecretKey.parse_eq_ok_iff
  rw [keyOfText]
  cases SecretKey.parse t with
  | ok k => exact (Loads.pure k).congr fun k' => by rw [Except.ok.injEq, eq_comm]
  | error e => exact .refusal ⟨_, _, _, rfl⟩ (by simp)

lemma checkDeclared_loads (source : String) (declared : Value) (k : SecretKey) :
    Loads (fun k' => k' = k ∧ Fits declared k) (checkDeclared source declared k) := by
  have hfits : (declared.isNull || declared.same (.text k.publicKey.text)) = true ↔
      Fits declared k := by
    rw [Bool.or_eq_true, Value.isNull_iff, Value.same_text_iff, Fits]
  rw [checkDeclared]
  split
  · rename_i h
    exact (Loads.pure k).congr fun k' => (and_iff_left (hfits.1 h)).symm
  · rename_i h
    exact .refusal ⟨_, _, _, rfl⟩ fun _ hk => h (hfits.2 hk.2)

lemma ofMembers_loads (source : String) (ms : Members) :
    Loads (fun k => ∃ t, Gives ms t ∧ k.SpelledBy t ∧ Fits (ms.get "public_key") k)
      (ofMembers source ms) := by
  have hgives : ∀ {t : String} {k : SecretKey}, k.SpelledBy t →
      ((ms.get "private_key").orElse (ms.get "secret_key") = .text t ↔ Gives ms t) :=
    fun h => Value.orElse_eq_text_iff h.ne_empty
  rw [ofMembers]
  split
  · rename_i t ht
    refine Loads.congr ((keyOfText_loads _ t).bind fun k =>
      checkDeclared_loads source (ms.get "public_key") k) fun k => ⟨?_, ?_⟩
    · rintro ⟨k, hk, rfl, hfits⟩
      exact ⟨t, (hgives hk).1 ht, hk, hfits⟩
    · rintro ⟨t', ht', hk, hfits⟩
      obtain rfl : t = t' := Value.text.inj (ht.symm.trans ((hgives hk).2 ht'))
      exact ⟨k, hk, rfl, hfits⟩
  · rename_i h
    refine .refusal (malformed_ofKind _) ?_
    rintro k ⟨t, ht, hk, -⟩
    exact h t ((hgives hk).2 ht)

/-- Text that the host can read is a record of just one key, or is refused as malformed. -/
lemma parse_loads {content : String} (h : Json.strain? content = none) (source : String) :
    Loads (Keeps content) (parse content source) := by
  rw [parse]
  cases hc : Json.parse content with
  | error e =>
    have hnone : ∀ k, ¬ Keeps content k := by
      rintro k ⟨ms, t, hms, -⟩
      cases hc.symm.trans hms
    rcases Json.parse_error hc with ⟨f, hf, rfl⟩ | rfl
    · cases h.symm.trans hf
    · exact .refusal ⟨_, _, _, rfl⟩ hnone
  | ok v =>
    cases v with
    | object ms =>
      refine (ofMembers_loads source ms).congr fun k => ⟨?_, ?_⟩
      · rintro ⟨t, hk⟩
        exact ⟨ms, t, hc, hk⟩
      · rintro ⟨ms', t, hms, hk⟩
        obtain rfl := Value.object.inj (Except.ok.inj (hc.symm.trans hms))
        exact ⟨t, hk⟩
    | _ =>
      refine .refusal (malformed_ofKind _) ?_
      rintro k ⟨ms, t, hms, -⟩
      cases hc.symm.trans hms

end Credential

/-! ### Keyrings -/

namespace KeyringEntry

lemma publicKey_of_make {network : String} {account key : Value} {e : KeyringEntry}
    (h : make network account key = .ok e) : PublicKey.ofValue key = .ok e.publicKey := by
  obtain ⟨a, -, h⟩ := of_bind_ok h
  obtain ⟨k, hk, h⟩ := of_bind_ok h
  cases h
  exact hk

/-- The texts of an account and a key can be asked for. -/
lemma make_text (network : String) (a : AccountId) (k : PublicKey) :
    ∃ e, make network (.text a.text) (.text k.text) = .ok e ∧ e.publicKey = k := by
  have haccount : AccountId.ofValue (.text a.text) = .ok a := AccountId.parse_text a
  have hkey : PublicKey.ofValue (.text k.text) = .ok k := PublicKey.faithful.parse_text k
  rw [make, haccount, hkey]
  exact ⟨_, rfl, rfl⟩

/-- Only a record whose key is the one that was asked for makes a signer. -/
lemma signer_eq_ok_iff {e : KeyringEntry} {answer : Except String (Option String)} {s : Signer} :
    e.signer answer = .ok s ↔ ∃ content k, answer = .ok (some content) ∧
      Credential.parse content ("keyring entry " ++ e.service) = .ok k ∧
      k.publicKey = e.publicKey ∧ s = Signer.ofKey e.account k .keyring := by
  constructor
  · intro h
    rcases answer with reason | _ | content
    · cases h
    · cases h
    · obtain ⟨k, hk, h⟩ := of_bind_ok h
      split at h
      · rename_i heq
        exact ⟨content, k, rfl, hk, heq, (Except.ok.inj h).symm⟩
      · cases h
  · rintro ⟨content, k, rfl, hk, heq, rfl⟩
    simp only [signer, hk, bind, Except.bind, if_pos heq]
    rfl

end KeyringEntry

namespace Signer

/-- A signer with one key has it at each turn. -/
lemma key_ofKey (account : AccountId) (k : SecretKey) (source : Source) (turn : Nat) :
    (ofKey account k source).key turn = KeyPair.ofSecret k := by
  simp [key, ofKey]

lemma ofKeyring_of_make {keyring : Keyring} {network : String} {account key : Value}
    {e : KeyringEntry} (h : KeyringEntry.make network account key = .ok e) :
    ofKeyring keyring network account key = e.signer (keyring e.service e.user) := by
  rw [ofKeyring, h]
  rfl

lemma ofKeyring_eq_ok {keyring : Keyring} {network : String} {account key : Value} {s : Signer}
    (h : ofKeyring keyring network account key = .ok s) :
    ∃ k, PublicKey.ofValue key = .ok k ∧
      ∀ turn, (s.key turn).publicKey = k ∧ (s.key turn).secret.publicKey = k := by
  obtain ⟨e, he, h⟩ := of_bind_ok h
  obtain ⟨-, k, -, -, hk, rfl⟩ := KeyringEntry.signer_eq_ok_iff.1 h
  refine ⟨e.publicKey, KeyringEntry.publicKey_of_make he, fun turn => ?_⟩
  rw [key_ofKey]
  exact ⟨hk, hk⟩

end Signer

/-- **No other key than the right one is loaded.** The records of a key are the texts that load as
it, every other text is refused as malformed, and just those texts that the host strains at end in
its fault. Whatever a keyring answers, a signer for what it holds signs with the key whose public
key was asked for. -/
theorem right_keys_loaded (content source : String) (keyring : Keyring) (network : String)
    (account key : Value) :
    (∀ k, Credential.parse content source = .ok k ↔ Credential.Keeps content k) ∧
    (Json.strain? content = none →
      ∀ e, Credential.parse content source = .error e → e.OfKind .keyFormat) ∧
    (∀ f, Json.strain? content = some f →
      Json.IsStrain f ∧ Credential.parse content source = .error (.host f)) ∧
    ∀ s, Signer.ofKeyring keyring network account key = .ok s →
      ∃ k, PublicKey.ofValue key = .ok k ∧
        ∀ turn, (s.key turn).publicKey = k ∧ (s.key turn).secret.publicKey = k := by
  refine ⟨fun k => ?_, fun h => (Credential.parse_loads h source).fault,
    fun f h => ⟨Json.strain?_isStrain h, Credential.parse_of_strain h source⟩,
    fun _ => Signer.ofKeyring_eq_ok⟩
  cases h : Json.strain? content with
  | none => exact (Credential.parse_loads h source).ok_iff k
  | some f =>
    rw [Credential.parse_of_strain h]
    refine ⟨fun hk => (by cases hk), ?_⟩
    -- there is nothing to keep in what is not read
    rintro ⟨ms, t, hms, -⟩
    cases hms.symm.trans (Json.parse_of_strain h)

/-- The key whose seed is zero. -/
def zeroKey : SecretKey := ⟨List.replicate 32 0, rfl⟩

def zeroKeyText : String := "ed25519:11111111111111111111111111111111"

/-- A record of it under the older name. -/
def zeroRecord : String :=
  "\x7b\"private_key\":null,\"secret_key\":\"" ++ zeroKeyText ++ "\"\x7d"

set_option maxRecDepth 4000 in
lemma parse?_zeroRecord : Json.parse? zeroRecord =
    some (.object [("private_key", .null), ("secret_key", .text zeroKeyText)]) := rfl

lemma zeroKey_spelledBy : zeroKey.SpelledBy zeroKeyText := by
  have hzero : Bytes.toNatBE (List.replicate 32 0) = 0 := rfl
  refine ⟨List.replicate 32 0, .inl rfl, rfl, [], by simp, ?_⟩
  rw [KeyText.join, Base58.encode, hzero, Positional.digits_zero]
  rfl

lemma zeroRecord_easy : Json.strain? zeroRecord = none :=
  Json.strain?_of_length_le (by decide)

lemma zeroRecord_keeps : Credential.Keeps zeroRecord zeroKey := by
  refine ⟨[("private_key", .null), ("secret_key", .text zeroKeyText)], zeroKeyText, ?_,
    .inr ⟨rfl, rfl⟩, zeroKey_spelledBy, .inl rfl⟩
  rw [Json.parse, zeroRecord_easy, parse?_zeroRecord]

theorem zeroKey_loaded : ∃ s, Json.strain? zeroRecord = none ∧
    Credential.parse zeroRecord "wallet" = .ok zeroKey ∧
    Signer.ofKeyring (fun _ _ => .ok (some zeroRecord)) "testnet" (.text "alice.test")
      (.text zeroKey.publicKey.text) = .ok s ∧
    ∃ k, PublicKey.ofValue (.text zeroKey.publicKey.text) = .ok k ∧
      ∀ turn, (s.key turn).publicKey = k ∧ (s.key turn).secret.publicKey = k := by
  let keyring : Keyring := fun _ _ => .ok (some zeroRecord)
  have hloaded (source : String) := right_keys_loaded zeroRecord source keyring "testnet"
    (.text "alice.test") (.text zeroKey.publicKey.text)
  have hload (source : String) : Credential.parse zeroRecord source = .ok zeroKey :=
    ((hloaded source).1 zeroKey).2 zeroRecord_keeps
  obtain ⟨e, he, hpublic⟩ :=
    KeyringEntry.make_text "testnet" ⟨"alice.test", by decide +kernel⟩ zeroKey.publicKey
  have hsigner : Signer.ofKeyring keyring "testnet" (.text "alice.test")
      (.text zeroKey.publicKey.text) = .ok (Signer.ofKey e.account zeroKey .keyring) := by
    rw [Signer.ofKeyring_of_make he]
    exact KeyringEntry.signer_eq_ok_iff.2 ⟨_, _, rfl, hload _, hpublic.symm, rfl⟩
  exact ⟨_, zeroRecord_easy, hload "wallet", hsigner, (hloaded "wallet").2.2.2 _ hsigner⟩

/-- Brackets alone are refused otherwise than as malformed, when there are enough of them. -/
theorem Credential.tower_trips :
    Credential.parse (Json.tower 100000) "wallet" = .error (.host (.tooDeep .readingList)) ∧
      ¬ (Error.host (.tooDeep .readingList)).OfKind .keyFormat :=
  ⟨parse_of_strain (Json.strain?_tower (by decide)) _, Error.not_ofKind_host _ _⟩

end LedgerClient
