import LedgerClient.Proofs.Account.Grammar
import LedgerClient.Proofs.Json.Progress
import LedgerClient.Proofs.Key.Refusal
import LedgerClient.Signer.Stored

/-!
The texts of secret keys in the errors of those who read them: of the key itself, of the
environment and of records. Behind a curve's name such a text is not shown unless it also stands
where it is no secret; without a colon it is shown.
-/

namespace LedgerClient

open Text SecretKey

variable {k : String} {back : List Char}

/-- Words that end with a blank and do not have a curve's name in front of a colon. -/
def Wording (words : String) : Prop :=
  words.toList.getLast? = some ' ' ∧ ∀ c ∈ Curve.all, ¬ c.name.toList ++ [':'] <:+: words.toList

instance (words : String) : Decidable (Wording words) :=
  inferInstanceAs (Decidable (words.toList.getLast? = some ' ' ∧
    ∀ c ∈ Curve.all, ¬ c.name.toList ++ [':'] <:+: words.toList))

/-- A key behind the name of its curve is not in the wording but in what follows. -/
lemma Wording.occurs {c : Curve} {words s : String} (hwords : Wording words)
    (hk : k.toList = c.name.toList ++ ':' :: back) (h : Occurs k (words ++ s)) : Occurs k s := by
  have hfront : c.name.toList ++ [':'] <+: k.toList := ⟨back, by simp [hk]⟩
  have hblank : ' ' ∉ c.name.toList ++ [':'] := by cases c <;> decide
  have hcurve : c ∈ Curve.all := by cases c <;> decide
  rw [Occurs, String.toList_append] at h
  exact infix_of_words hfront hblank (hwords.2 c hcurve) hwords.1 h

/-! ### Accounts -/

namespace AccountId

lemma wording_badCharacter (d : Char) :
    Wording ("Invalid character " ++ quoted (String.singleton d) ++ " in account ID: ") := by
  refine ⟨?_, fun c _ h => ?_⟩
  · rw [String.toList_append, List.getLast?_append_of_ne_nil _ (by decide)]
    decide
  · have hblank : ' ' ∉ c.name.toList ++ [':'] := by cases c <;> decide
    have hfront : ¬ c.name.toList ++ [':'] <:+: "Invalid character ".toList := by
      cases c <;> decide
    have hback : ¬ c.name.toList ++ [':'] <:+: "in account ID: ".toList := by cases c <;> decide
    rw [String.toList_append, String.toList_append, List.append_assoc] at h
    have h := infix_of_words List.prefix_rfl hblank hfront (by decide) h
    rcases infix_append_cons (b := "in account ID: ".toList) hblank h with h | h
    · exact name_not_infix_quoted c d h
    · exact hback h

lemma nameFault?_message {s : String} {f : Fault} (hf : nameFault? s = some f) :
    ∃ words, f.message = words ++ s ∧ Wording words := by
  rw [nameFault?] at hf
  split at hf
  · obtain rfl := Option.some.inj hf
    exact ⟨_, rfl, wording_badCharacter _⟩
  · obtain ⟨seg, -, hseg⟩ := List.exists_of_findSome?_eq_some hf
    rw [segmentFault?] at hseg
    split at hseg
    · split_ifs at hseg
      obtain rfl := Option.some.inj hseg
      exact ⟨_, rfl, by decide +kernel⟩
    · obtain rfl := Option.some.inj hseg
      exact ⟨_, rfl, by decide +kernel⟩

/-- Each fault of a text ends with the text. -/
lemma fault?_message {s : String} {f : Fault} (hf : fault? s = some f) :
    f = .empty ∨ ∃ words, f.message = words ++ s ∧ Wording words := by
  simp only [fault?] at hf
  split_ifs at hf
  · exact .inl (Option.some.inj hf).symm
  · obtain rfl := Option.some.inj hf
    exact .inr ⟨_, rfl, by decide +kernel⟩
  · obtain rfl := Option.some.inj hf
    exact .inr ⟨_, rfl, by decide +kernel⟩
  · obtain rfl := Option.some.inj hf
    exact .inr ⟨_, rfl, by decide +kernel⟩
  · obtain rfl := Option.some.inj hf
    exact .inr ⟨_, rfl, by decide +kernel⟩
  · exact .inr (nameFault?_message hf)

lemma occurs_of_fault? {c : Curve} {s : String} {f : Fault} (hf : fault? s = some f)
    (hk : k.toList = c.name.toList ++ ':' :: back) (hlen : 32 ≤ k.length)
    (h : Occurs k f.message) : Occurs k s := by
  rcases fault?_message hf with rfl | ⟨words, hmessage, hwords⟩
  · exact absurd (hlen.trans h.length_le) (by decide)
  · rw [hmessage] at h
    exact hwords.occurs hk h

end AccountId

/-! ### Refused keys -/

lemma ne_empty (hlen : 32 ≤ k.length) : k ≠ "" := by
  rintro rfl
  exact absurd hlen (by decide)

namespace Credential

/-- Either the text is read, behind the name of its curve, or its refusal causes another. -/
lemma keyOfText_cases (message k : String) :
    (∃ s back, keyOfText message k = .ok s ∧ SecretKey.parse k = .ok s ∧
      k.toList = Curve.ed25519.name.toList ++ ':' :: back) ∨
    ∃ m, keyOfText message k = .error (.client .keyFormat message [] (some (.plain .key m))) ∧
      Refused k m := by
  rw [keyOfText]
  rcases parse_cases k with ⟨back, bs, s, hparse, hk, -⟩ | ⟨m, hparse, hm⟩
  · rw [hparse]
    exact .inl ⟨s, back, rfl, rfl, hk⟩
  · rw [hparse]
    exact .inr ⟨m, rfl, hm⟩

lemma echoed_of_refused {message m : String} (hlen : 32 ≤ k.length) (hm : Refused k m)
    (h : Error.Reveals k (.client .keyFormat message [] (some (.plain .key m)))) :
    Echoed k ∨ Occurs k message := by
  rcases Error.reveals_client_iff.1 h with h | h | ⟨c, hc, h⟩
  · exact .inr h
  · exact absurd h (Error.not_shows_nil hlen)
  · cases hc
    exact .inl (hm.echoed hlen ((Error.reveals_plain_iff hlen).1 h))

end Credential

/-! ### The environment -/

namespace Signer

variable {environment : List (String × String)} {accountName keyName : String}

lemma setting_cases (environment : List (String × String)) (name : String) :
    (∃ v, environment.lookup name = some v ∧ setting environment name = .ok v) ∨
      setting environment name =
        .error (.plain .keyMissing ("Environment variable " ++ name ++ " not set")) := by
  rw [setting]
  split
  · exact .inr rfl
  · exact .inr rfl
  · rename_i v _ hv
    exact .inl ⟨v, hv, rfl⟩

lemma setting_of_lookup {name : String} (h : environment.lookup name = some k)
    (hlen : 32 ≤ k.length) : setting environment name = .ok k := by
  rw [setting, h]
  split
  · rename_i he
    exact absurd (Option.some.inj he) (ne_empty hlen)
  · rename_i he
    cases he
  · rename_i v he
    rw [Option.some.inj he]

lemma ofEnvironment_reveals {e : Error} (hlen : 32 ≤ k.length)
    (hkey : environment.lookup keyName = some k)
    (he : ofEnvironment environment accountName keyName = .error e) (h : e.Reveals k) :
    Echoed k ∨ Occurs k ("Environment variable " ++ accountName ++ " not set") ∨
      Occurs k ("Invalid key in environment variable " ++ keyName) ∨
      ∃ account, environment.lookup accountName = some account ∧ Occurs k account := by
  rw [ofEnvironment] at he
  rcases setting_cases environment accountName with ⟨account, hlookup, hset⟩ | hset
  · rw [hset, setting_of_lookup hkey hlen] at he
    rcases Credential.keyOfText_cases ("Invalid key in environment variable " ++ keyName) k with
      ⟨s, back, htext, -, hk⟩ | ⟨m, htext, hm⟩
    · -- the key is read, so that the account is at fault
      rcases AccountId.parse_cases account with ⟨_, ha⟩ | ⟨f, hf, ha⟩
      · simp [htext, ha, bind, Except.bind, pure, Except.pure] at he
      · obtain rfl : .plain .account f.message = e := by
          simpa [htext, ha, bind, Except.bind] using he
        have hmessage := (Error.reveals_plain_iff hlen).1 h
        exact .inr (.inr (.inr ⟨account, hlookup, AccountId.occurs_of_fault? hf hk hlen hmessage⟩))
    · have herror : e = .client .keyFormat ("Invalid key in environment variable " ++ keyName) []
          (some (.plain .key m)) := by
        simpa [htext, bind, Except.bind] using he.symm
      rw [herror] at h
      rcases Credential.echoed_of_refused hlen hm h with h | h
      · exact .inl h
      · exact .inr (.inr (.inl h))
  · rw [hset] at he
    obtain rfl := (Except.error.inj he).symm
    exact .inr (.inl ((Error.reveals_plain_iff hlen).1 h))

end Signer

/-! ### Records -/

namespace Credential

variable {s : SecretKey} {source content : String} {declared : Value} {ms : Members}

lemma plain_publicKey (k : PublicKey) : Plain k.text := by
  have hname : ∀ c : Curve, (c.name ++ ":").toList.all isPlainAscii = true := by
    rintro (_ | _)
    · decide
    · decide
  have halphabet : Base58.alphabet.all isPlainAscii = true := by decide
  refine plain_of_ascii ?_
  rw [PublicKey.text, KeyText.join, String.toList_append, List.all_append, hname, Bool.true_and]
  exact List.all_eq_true.2 fun d hd =>
    List.all_eq_true.1 halphabet d (Base58.mem_alphabet_of_mem_encode hd)

lemma literal_mismatch (declared derived : Value) :
    (Value.object [("declared", declared), ("derived", derived)]).literal.toList =
      ("\x7b'declared': " ++ declared.literal).toList ++
        ',' :: ((" 'derived': " ++ derived.literal).toList ++ '\x7d' :: []) := by
  have hdeclared : quoted "declared" = "'declared'" := by decide +kernel
  have hderived : quoted "derived" = "'derived'" := by decide +kernel
  simp [Value.literal, Value.literal.entries, hdeclared, hderived]

/-- Of a public key that is not the declared one, the record's and the right one are shown. -/
lemma shows_mismatch {t : String} (hlen : 32 ≤ k.length) (hparse : SecretKey.parse k = .ok s)
    (hk : k.toList = Curve.ed25519.name.toList ++ ':' :: back) (ht : Plain t)
    (h : (Value.object [("declared", declared), ("derived", .text t)]).Shows k) :
    declared.Shows k ∨ Occurs k t := by
  have hmark : ∀ c ∈ [',', '\x7d', '\''], c ∉ k.toList := by
    intro c hc hmem
    have hnot : ∀ c ∈ [',', '\x7d', '\''],
        ¬ (c ∈ "ed25519:".toList ∨ c ∈ Base58.alphabet ∨ isBlank c = true) :=
      List.all_iff_forall_prop.1 (by decide +kernel)
    exact hnot c hc (mem_of_parse hparse hmem)
  have hshort : ∀ w : String, w.length < 32 → ¬ Occurs k w := fun w hw h =>
    absurd (hlen.trans h.length_le) hw.not_ge
  obtain ⟨w, hw, h⟩ := h
  rcases List.mem_cons.1 hw with rfl | hw
  · rw [Occurs, literal_mismatch] at h
    rcases infix_append_cons (hmark ',' (by decide)) h with h | h
    · have hwords : Wording "\x7b'declared': " := by decide +kernel
      exact .inl ⟨_, List.mem_cons_self, hwords.occurs hk h⟩
    · have hwords : Wording " 'derived': " := by decide +kernel
      rcases infix_append_cons (hmark '\x7d' (by decide)) h with h | h
      · exact .inr (occurs_of_quoted ht (hmark '\'' (by decide)) (ne_empty hlen)
          (hwords.occurs hk h))
      · exact absurd h (hshort "" (by decide))
  · have htexts : (Value.object [("declared", declared), ("derived", .text t)]).texts =
        "declared" :: (declared.texts ++ ["derived", t]) := by
      simp [Value.texts, Value.texts.entries]
    rw [htexts] at hw
    simp only [List.mem_cons, List.mem_append, List.not_mem_nil, or_false] at hw
    rcases hw with rfl | hw | rfl | rfl
    · exact absurd h (hshort _ (by decide))
    · exact .inl ⟨w, List.mem_cons_of_mem _ hw, h⟩
    · exact absurd h (hshort _ (by decide))
    · exact .inr h

/-- What the host strains at is passed on. -/
lemma parse_of_strain {f : Fault} (h : Json.strain? content = some f) (source : String) :
    parse content source = .error (.host f) := by
  rw [parse, Json.parse_of_strain h]
  cases Json.strain?_isStrain h <;> rfl

/-- A record that is an object is read as one, unless the host strains at it. -/
lemma parse_of_object (hcontent : Json.parse? content = some (.object ms)) (source : String) :
    (∃ f, Json.strain? content = some f ∧ parse content source = .error (.host f)) ∨
      parse content source = ofMembers source ms := by
  cases hf : Json.strain? content with
  | some f => exact .inl ⟨f, rfl, parse_of_strain hf source⟩
  | none =>
    rw [parse, Json.parse, hf, hcontent]
    exact .inr rfl

/-- Of what is said of a strain, only the words on long numbers have a colon. -/
lemma echoed_of_strain {f : Fault} (hf : Json.IsStrain f) (h : Occurs k (Error.faultText f)) :
    Echoed k ∨ ∃ n, f = .badValue (unreadText n) := by
  cases hf with
  | deep d =>
    have hcolon : ':' ∉ (Error.faultText (.tooDeep d)).toList := by cases d <;> decide
    exact .inl (.inl fun hmem => hcolon (h.subset hmem))
  | @long n _ => exact .inr ⟨n, rfl⟩

lemma ofMembers_of_text (hlen : 32 ≤ k.length) (hkey : ms.get "private_key" = .text k)
    (source : String) : ofMembers source ms =
      (keyOfText ("Invalid key in credential " ++ source) k).bind
        (checkDeclared source (ms.get "public_key")) := by
  have htruthy : (Value.text k).isTruthy = true := by simp [Value.isTruthy, ne_empty hlen]
  rw [ofMembers, hkey, Value.orElse, if_pos htruthy]
  rfl

lemma parse_reveals {e : Error} (hlen : 32 ≤ k.length)
    (hcontent : Json.parse? content = some (.object ms)) (hkey : ms.get "private_key" = .text k)
    (he : parse content source = .error e) (h : e.Reveals k) :
    Echoed k ∨ Occurs k ("Invalid key in credential " ++ source) ∨
      Occurs k ("Public key mismatch in credential " ++ source) ∨
      (ms.get "public_key").Shows k ∨
      (∃ s, SecretKey.parse k = .ok s ∧ Occurs k s.publicKey.text) ∨
      ∃ n, Json.strain? content = some (.badValue (unreadText n)) ∧ Occurs k (unreadText n) := by
  rcases parse_of_object hcontent source with ⟨f, hf, hfault⟩ | hmembers
  · obtain rfl := Except.error.inj (hfault.symm.trans he)
    have hoccurs := (Error.reveals_host_iff hlen).1 h
    rcases echoed_of_strain (Json.strain?_isStrain hf) hoccurs with h | ⟨n, rfl⟩
    · exact .inl h
    · exact .inr (.inr (.inr (.inr (.inr ⟨n, hf, hoccurs⟩))))
  rw [hmembers, ofMembers_of_text hlen hkey] at he
  rcases keyOfText_cases ("Invalid key in credential " ++ source) k with
    ⟨s, back, htext, hparse, hk⟩ | ⟨m, htext, hm⟩
  · -- the key is read, so that it is not the declared one
    rw [htext] at he
    change checkDeclared source (ms.get "public_key") s = .error e at he
    rw [checkDeclared] at he
    split_ifs at he
    obtain rfl := Except.error.inj he
    rcases Error.reveals_client_iff.1 h with h | h | ⟨c, hc, -⟩
    · exact .inr (.inr (.inl h))
    · rcases shows_mismatch hlen hparse hk (plain_publicKey _) h with h | h
      · exact .inr (.inr (.inr (.inl h)))
      · exact .inr (.inr (.inr (.inr (.inl ⟨s, hparse, h⟩))))
    · cases hc
  · rw [htext] at he
    obtain rfl := Except.error.inj he
    rcases echoed_of_refused hlen hm h with h | h
    · exact .inl h
    · exact .inr (.inl h)

end Credential

/-- **Errors keep the texts of secret keys**, save one without a colon, which its refusal repeats,
and those made of the words of a refusal. The others are shown only where the text also stands in a
name that the error gives, in the account, in a public key, or in what the host says of a record
with a number that is too long. -/
theorem secret_texts_kept (k : String) (hlen : 32 ≤ k.length) :
    ((∀ e, SecretKey.parse k = .error e → e.Reveals k → Echoed k) ∧
      (Plain k → Echoed k → ∃ e, SecretKey.parse k = .error e ∧ e.Reveals k)) ∧
    (∀ environment accountName keyName e, environment.lookup keyName = some k →
      Signer.ofEnvironment environment accountName keyName = .error e → e.Reveals k →
      Echoed k ∨ Occurs k ("Environment variable " ++ accountName ++ " not set") ∨
        Occurs k ("Invalid key in environment variable " ++ keyName) ∨
        ∃ account, environment.lookup accountName = some account ∧ Occurs k account) ∧
    ∀ content source (ms : Members) e, Json.parse? content = some (.object ms) →
      ms.get "private_key" = .text k → Credential.parse content source = .error e → e.Reveals k →
      Echoed k ∨ Occurs k ("Invalid key in credential " ++ source) ∨
        Occurs k ("Public key mismatch in credential " ++ source) ∨
        (ms.get "public_key").Shows k ∨
        (∃ s, SecretKey.parse k = .ok s ∧ Occurs k s.publicKey.text) ∨
        ∃ n, Json.strain? content = some (.badValue (unreadText n)) ∧ Occurs k (unreadText n) := by
  refine ⟨⟨fun e he h => ?_, reveals_of_echoed hlen⟩, ?_, ?_⟩
  · rcases parse_cases k with ⟨back, bs, s, hparse, -⟩ | ⟨m, hparse, hm⟩
    · cases hparse.symm.trans he
    · obtain rfl := Except.error.inj (hparse.symm.trans he)
      exact hm.echoed hlen ((Error.reveals_plain_iff hlen).1 h)
  · intro environment accountName keyName e hkey he h
    exact Signer.ofEnvironment_reveals hlen hkey he h
  · intro content source ms e hcontent hkey he h
    exact Credential.parse_reveals hlen hcontent hkey he h

/-- A key behind the name of its curve, with a digit that base 58 leaves out. -/
def misspelledKey : String := "ed25519:000000000000000000000000"

def misspelledRecord : String := "\x7b\"private_key\":\"" ++ misspelledKey ++ "\"\x7d"

set_option maxRecDepth 4000 in
lemma parse_misspelledKey : SecretKey.parse misspelledKey =
    .error (.plain .key "Invalid base58: Invalid character '0'") := rfl

set_option maxRecDepth 4000 in
lemma parse?_misspelledRecord : Json.parse? misspelledRecord =
    some (.object [("private_key", .text misspelledKey)]) := rfl

lemma misspelledRecord_easy : Json.strain? misspelledRecord = none :=
  Json.strain?_of_length_le (by decide)

theorem misspelledKey_kept : 32 ≤ misspelledKey.length ∧
    (∃ e, SecretKey.parse misspelledKey = .error e ∧ ¬ e.Reveals misspelledKey) ∧
    (∃ e, Signer.ofEnvironment [("ID", "alice.test"), ("KEY", misspelledKey)] "ID" "KEY" =
        .error e ∧ ¬ e.Reveals misspelledKey) ∧
    ∃ e, Credential.parse misspelledRecord "alice.json" = .error e ∧
      ¬ e.Reveals misspelledKey := by
  have hlen : 32 ≤ misspelledKey.length := by decide
  have hnot : ¬ Echoed misspelledKey := by
    rintro (h | h)
    · exact absurd h (by decide)
    · exact absurd h (by decide)
  have hkey : ∀ message, Credential.keyOfText message misspelledKey =
      .error (.client .keyFormat message []
        (some (.plain .key "Invalid base58: Invalid character '0'"))) := fun message => by
    rw [Credential.keyOfText, parse_misspelledKey]
  have hset : Signer.ofEnvironment [("ID", "alice.test"), ("KEY", misspelledKey)] "ID" "KEY" =
      .error (.client .keyFormat "Invalid key in environment variable KEY" []
        (some (.plain .key "Invalid base58: Invalid character '0'"))) := by
    have hsetting : Signer.setting [("ID", "alice.test"), ("KEY", misspelledKey)] "KEY" =
        .ok misspelledKey := Signer.setting_of_lookup rfl hlen
    have haccount : Signer.setting [("ID", "alice.test"), ("KEY", misspelledKey)] "ID" =
        .ok "alice.test" := rfl
    simp only [Signer.ofEnvironment, hsetting, haccount, hkey, bind, Except.bind]
    rfl
  have hread : Credential.parse misspelledRecord "alice.json" =
      .error (.client .keyFormat "Invalid key in credential alice.json" []
        (some (.plain .key "Invalid base58: Invalid character '0'"))) := by
    rw [Credential.parse, Json.parse, misspelledRecord_easy, parse?_misspelledRecord]
    change Credential.ofMembers "alice.json" _ = _
    rw [Credential.ofMembers_of_text hlen rfl, hkey]
    rfl
  obtain ⟨⟨hkept, -⟩, henvironment, hrecord⟩ := secret_texts_kept misspelledKey hlen
  refine ⟨hlen, ⟨_, parse_misspelledKey, fun h => hnot (hkept _ parse_misspelledKey h)⟩,
    ⟨_, hset, fun h => ?_⟩, _, hread, fun h => ?_⟩
  · rcases henvironment _ "ID" "KEY" _ rfl hset h with h | h | h | ⟨account, haccount, h⟩
    · exact hnot h
    · exact absurd h (by decide)
    · exact absurd h (by decide)
    · obtain rfl : "alice.test" = account := Option.some.inj haccount
      exact absurd h (by decide)
  · have hshort : ¬ (Value.null).Shows misspelledKey := by
      rintro ⟨s, hs, h⟩
      obtain rfl := List.mem_singleton.1 hs
      exact absurd h (by decide)
    rcases hrecord _ "alice.json" _ _ parse?_misspelledRecord rfl hread h with
      h | h | h | h | ⟨s, hs, -⟩ | ⟨n, hn, -⟩
    · exact hnot h
    · exact absurd h (by decide)
    · exact absurd h (by decide)
    · exact hshort h
    · cases parse_misspelledKey.symm.trans hs
    · cases misspelledRecord_easy.symm.trans hn

/-- A key text without the name of its curve. -/
def bareKey : String := "DcA2MzgpJbrUATQLLceocVckhhAqrkingax4oJ9kZ847"

/-- Without a colon the text is repeated. -/
theorem bareKey_revealed : ¬ ∀ k : String, 32 ≤ k.length →
    (∀ e, SecretKey.parse k = .error e → ¬ e.Reveals k) ∧
    (∀ environment accountName keyName e, environment.lookup keyName = some k →
      Signer.ofEnvironment environment accountName keyName = .error e → ¬ e.Reveals k) ∧
    ∀ content source (ms : Members) e, Json.parse? content = some (.object ms) →
      ms.get "private_key" = .text k → Credential.parse content source = .error e →
      ¬ e.Reveals k := by
  intro h
  have hlen : 32 ≤ bareKey.length := by decide
  have hplain : Plain bareKey := plain_of_ascii (by decide)
  obtain ⟨e, he, hreveals⟩ := reveals_of_echoed hlen hplain (.inl (by decide))
  exact (h bareKey hlen).1 e he hreveals

end LedgerClient
