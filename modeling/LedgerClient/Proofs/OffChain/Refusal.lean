import LedgerClient.Proofs.Account.Grammar
import LedgerClient.Proofs.OffChain.Spelling
import LedgerClient.Proofs.View.Shape

/-!
What becomes of foreign JSON where a signed message is expected. It is read, or refused with the
faults of its members, or it trips the reader: a signature that is no text, or a nonce whose bytes
cannot be counted or added up, ends the reading as a value of the wrong kind.
-/

namespace LedgerClient

variable {α β : Type}

/-! ### Readings that a value of the wrong kind stops -/

namespace Reading

/-- A value of the wrong kind stops the reading in this case, and in no other one is it stopped. -/
def StopsIff (P : Prop) (r : Reading α) : Prop :=
  (P ∧ r = .stopped .wrongKind) ∨ (¬ P ∧ r.Plain)

variable {P Q : Prop}

lemma Plain.stopsIff {r : Reading α} (h : r.Plain) : r.StopsIff False := .inr ⟨id, h⟩

lemma StopsIff.congr {r : Reading α} (h : r.StopsIff P) (hpq : P ↔ Q) : r.StopsIff Q :=
  propext hpq ▸ h

lemma StopsIff.map {r : Reading α} (h : r.StopsIff P) (f : α → β) : (f <$> r).StopsIff P := by
  rcases h with ⟨hp, rfl⟩ | ⟨hp, h⟩
  · exact .inl ⟨hp, rfl⟩
  · exact .inr ⟨hp, h.map f⟩

/-- One part is enough to stop the whole. -/
lemma StopsIff.seq {r : Reading (α → β)} {s : Reading α} (hr : r.StopsIff P)
    (hs : s.StopsIff Q) : (r <*> s).StopsIff (P ∨ Q) := by
  rcases hr with ⟨hp, rfl⟩ | ⟨hp, hr⟩
  · exact .inl ⟨.inl hp, rfl⟩
  · rcases hs with ⟨hq, rfl⟩ | ⟨hq, hs⟩
    · refine .inl ⟨.inr hq, ?_⟩
      cases r with
      | stopped e => exact hr.elim
      | ok f | faulty is => rfl
    · exact .inr ⟨not_or.2 ⟨hp, hq⟩, hr.seq hs⟩

lemma StopsIff.under {r : Reading α} (h : r.StopsIff P) (s : Step) : (r.under s).StopsIff P := by
  rcases h with ⟨hp, rfl⟩ | ⟨hp, h⟩
  · exact .inl ⟨hp, rfl⟩
  · exact .inr ⟨hp, h.under s⟩

end Reading

namespace Shape

lemma required_stopsIff {s : Shape α} {P : Value → Prop} (ms : Members) (name : String)
    (h : ∀ v, (s v).StopsIff (P v)) :
    (required ms name s).StopsIff (∃ v ∈ ms.lookup name, P v) := by
  rw [required]
  cases ms.lookup name with
  | none =>
    have hplain : ((Reading.fault .missing : Reading α).under (.field name)).Plain := trivial
    exact hplain.stopsIff.congr (by simp)
  | some v => exact ((h v).under (.field name)).congr (by simp)

lemma record_stopsIff {f : Members → Reading α} {P : Members → Prop}
    (h : ∀ ms, (f ms).StopsIff (P ms)) (v : Value) :
    (record f v).StopsIff (∃ ms, v = .object ms ∧ P ms) := by
  cases v with
  | object ms => exact (h ms).congr (by simp)
  | _ =>
    have hplain : (Reading.fault .notModel : Reading α).Plain := trivial
    exact hplain.stopsIff.congr (by simp)

end Shape

/-! ### The members -/

/-- A rule complains about the kind of a value in this case, and otherwise about nothing but the
value itself. -/
def ComplainsIff (P : Prop) (r : Except Error α) : Prop :=
  (P ∧ r = .error .wrongKind) ∨ (¬ P ∧ ∀ e, r = .error e → e.isValueFault = true)

lemma ComplainsIff.of_fault {P : Prop} {e : Error} (hp : ¬ P) (he : e.isValueFault = true) :
    ComplainsIff P (.error e : Except Error α) := by
  refine .inr ⟨hp, ?_⟩
  rintro _ ⟨⟩
  exact he

lemma ComplainsIff.bind {P : Prop} {r : Except Error α} {f : α → Except Error β}
    (h : ComplainsIff P r) (hf : ∀ a e, f a = .error e → e.isValueFault = true) :
    ComplainsIff P (r.bind f) := by
  rcases h with ⟨hp, rfl⟩ | ⟨hp, h⟩
  · exact .inl ⟨hp, rfl⟩
  · refine .inr ⟨hp, fun e he => ?_⟩
    cases r with
    | ok a => exact hf a e he
    | error g =>
      obtain rfl : g = e := Except.error.inj he
      exact h g rfl

lemma OffChain.checked_stopsIff {f : Value → Except Error α} {v : Value} {P : Prop}
    (h : ComplainsIff P (f v)) : (checked f v).StopsIff P := by
  rw [checked]
  rcases h with ⟨hp, h⟩ | ⟨hp, h⟩
  · rw [h]
    exact .inl ⟨hp, rfl⟩
  · refine .inr ⟨hp, ?_⟩
    cases hv : f v with
    | ok a => trivial
    | error e =>
      simp only [h e hv, if_true]
      trivial

lemma AccountId.ofValue_complainsIff (v : Value) : ComplainsIff False (AccountId.ofValue v) := by
  refine .inr ⟨id, fun e h => ?_⟩
  cases v with
  | text s =>
    rcases AccountId.parse_cases s with ⟨_, hs⟩ | ⟨f, -, hs⟩
    · cases hs.symm.trans h
    · cases hs.symm.trans h
      rfl
  | _ =>
    cases h
    rfl

namespace KeyText

lemma split_isValueFault {s : String} {e : Error} (h : split s = .error e) :
    e.isValueFault = true := by
  simp only [split] at h
  split at h
  · cases h
    rfl
  · split at h
    · cases h
      rfl
    · split at h
      · cases h
      · cases h
        rfl

lemma splitValue_isValueFault {v : Value} {e : Error} (h : splitValue v = .error e) :
    e.isValueFault = true := by
  cases v with
  | text s => exact split_isValueFault h
  | _ =>
    cases h
    rfl

end KeyText

namespace PublicKey

lemma make_isValueFault {c : Curve} {bs : Bytes} {e : Error} (h : make c bs = .error e) :
    e.isValueFault = true := by
  rw [make] at h
  split_ifs at h
  all_goals
    cases h
    rfl

lemma ofValue_complainsIff (v : Value) : ComplainsIff False (PublicKey.ofValue v) := by
  have hsplit : ComplainsIff False (KeyText.splitValue v) :=
    .inr ⟨id, fun _ => KeyText.splitValue_isValueFault⟩
  exact hsplit.bind fun _ _ => make_isValueFault

end PublicKey

/-- Behind bytes only, an element that is no whole number. -/
def HasStray (vs : List Value) : Prop :=
  ∃ front v back, vs = front ++ v :: back ∧ v.whole? = none ∧
    ∀ w ∈ front, ∃ n, w.whole? = some n ∧ 0 ≤ n ∧ n < 256

lemma hasStray_cons {v : Value} {vs : List Value} : HasStray (v :: vs) ↔
    v.whole? = none ∨ (∃ n, v.whole? = some n ∧ 0 ≤ n ∧ n < 256) ∧ HasStray vs := by
  constructor
  · rintro ⟨front, w, back, heq, hw, hfront⟩
    cases front with
    | nil =>
      obtain ⟨rfl, -⟩ := List.cons.inj heq
      exact .inl hw
    | cons u front =>
      obtain ⟨rfl, rfl⟩ := List.cons.inj heq
      obtain ⟨hu, hfront⟩ := List.forall_mem_cons.1 hfront
      exact .inr ⟨hu, front, w, back, rfl, hw, hfront⟩
  · rintro (hv | ⟨hv, front, w, back, rfl, hw, hfront⟩)
    · exact ⟨[], v, vs, rfl, hv, by simp⟩
    · exact ⟨v :: front, w, back, rfl, hw, List.forall_mem_cons.2 ⟨hv, hfront⟩⟩

/-- The first element that is no byte decides. -/
lemma Digest.bytesOfList_complainsIff (noun : String) (vs : List Value) :
    ComplainsIff (HasStray vs) (bytesOfList noun vs) := by
  induction vs with
  | nil =>
    refine .inr ⟨?_, fun e h => nomatch h⟩
    rintro ⟨front, v, back, heq, -⟩
    simp at heq
  | cons v vs ih =>
    rw [bytesOfList]
    cases hv : v.whole? with
    | none => exact .inl ⟨hasStray_cons.2 (.inl hv), rfl⟩
    | some n =>
      by_cases hn : 0 ≤ n ∧ n < 256
      · have hcons : HasStray (v :: vs) ↔ HasStray vs := by
          rw [hasStray_cons, hv]
          simp [hn]
        simp only [hn, and_self, if_true]
        have hrest := ih.bind (f := fun bs => .ok (UInt8.ofNat n.toNat :: bs)) fun _ _ => nofun
        rw [hcons]
        exact hrest
      · simp only [hn, if_false]
        refine .of_fault ?_ rfl
        rw [hasStray_cons, hv]
        rintro (h | ⟨⟨m, hm, hrange⟩, -⟩)
        · cases h
        · exact hn (Option.some.inj hm ▸ hrange)

namespace OffChain

lemma signatureOf_complainsIff (v : Value) : ComplainsIff (v.text? = none) (signatureOf v) := by
  cases v with
  | text s =>
    refine .inr ⟨Option.some_ne_none s, fun e h => ?_⟩
    rw [signatureOf] at h
    rw [eq_noSpelling h]
    rfl
  | _ => exact .inl ⟨rfl, rfl⟩

/-- A nonce of which no bytes can be made: a single value that is no text, an object with as many
members as a nonce has bytes, or as many elements of which one is no whole number. -/
inductive NonceTrips : Value → Prop
  | single {v : Value} : v.text? = none → v.members? = none → (∀ vs, v ≠ .list vs) → NonceTrips v
  | members {ms : Members} : ms.length = nonceLength → NonceTrips (.object ms)
  | elements {vs : List Value} : vs.length = nonceLength → HasStray vs → NonceTrips (.list vs)

/-- Bytes are a nonce or have the wrong length; where none were made, that complaint counts. -/
lemma complainsIff_length {P : Prop} {r : Except Error Bytes} (hr : ComplainsIff P r) :
    ComplainsIff P (do
      let bs ← r
      if h : bs.length = nonceLength then
        return (⟨bs, h⟩ : { bs : Bytes // bs.length = nonceLength })
      else throw nonceOf.wrongLength) := by
  refine hr.bind fun bs e he => ?_
  split_ifs at he with hlen
  · cases he
  · cases he
    rfl

lemma nonceOf_complainsIff (v : Value) : ComplainsIff (NonceTrips v) (nonceOf v) := by
  cases v with
  | text s =>
    have htrips : ¬ NonceTrips (.text s) := by
      rintro (⟨ht, -, -⟩ | - | -)
      cases ht
    rw [nonceOf]
    cases Hex.decode? s with
    | some bs => exact complainsIff_length (.inr ⟨htrips, fun e he => nomatch he⟩)
    | none => exact complainsIff_length (.of_fault htrips rfl)
  | list vs =>
    rw [nonceOf]
    by_cases hlen : vs.length = nonceLength
    · have htrips : NonceTrips (.list vs) ↔ HasStray vs := by
        constructor
        · rintro (⟨-, -, hlist⟩ | - | ⟨-, hstray⟩)
          · exact absurd rfl (hlist vs)
          · exact hstray
        · exact .elements hlen
      simp only [hlen, if_true, htrips]
      exact complainsIff_length (Digest.bytesOfList_complainsIff "bytes" vs)
    · have htrips : ¬ NonceTrips (.list vs) := by
        rintro (⟨-, -, hlist⟩ | - | ⟨hlen', -⟩)
        · exact hlist vs rfl
        · exact hlen hlen'
      simp only [hlen, if_false]
      exact complainsIff_length (.of_fault htrips rfl)
  | object ms =>
    rw [nonceOf]
    by_cases hlen : ms.length = nonceLength
    · simp only [hlen, if_true]
      exact complainsIff_length (.inl ⟨.members hlen, rfl⟩)
    · have htrips : ¬ NonceTrips (.object ms) := by
        rintro (⟨-, hms, -⟩ | hlen' | -)
        · cases hms
        · exact hlen hlen'
      simp only [hlen, if_false]
      exact complainsIff_length (.of_fault htrips rfl)
  | _ => exact complainsIff_length (.inl ⟨.single rfl rfl (by simp), rfl⟩)

/-! ### The records -/

/-- A signature is given, and it is no text. -/
def SignedMessage.Trips (v : Value) : Prop :=
  ∃ ms, v = .object ms ∧ ∃ w ∈ ms.lookup "signature", w.text? = none

/-- The signed message inside trips the reader, or the nonce does. -/
def AuthPayload.Trips (v : Value) : Prop :=
  ∃ ms, v = .object ms ∧
    ((∃ w ∈ ms.lookup (spelling ms "signedMessage" "signed_message"), SignedMessage.Trips w) ∨
      ∃ w ∈ ms.lookup "nonce", NonceTrips w)

lemma SignedMessage.shape_stopsIff (v : Value) : (shape v).StopsIff (Trips v) := by
  refine Shape.record_stopsIff (fun ms => ?_) v
  have haccount := Shape.required_stopsIff ms (spelling ms "accountId" "account_id")
    fun w => checked_stopsIff (AccountId.ofValue_complainsIff w)
  have hkey := Shape.required_stopsIff ms (spelling ms "publicKey" "public_key")
    fun w => checked_stopsIff (PublicKey.ofValue_complainsIff w)
  have hsignature := Shape.required_stopsIff ms "signature"
    fun w => checked_stopsIff (signatureOf_complainsIff w)
  have hstate : (Shape.orElse ms "state" none (Shape.optional Shape.text)).StopsIff False :=
    Shape.text_plain.optional.orElse.stopsIff
  exact ((((haccount.map SignedMessage.mk).seq hkey).seq hsignature).seq hstate).congr (by simp)

lemma AuthPayload.shape_stopsIff (v : Value) : (shape v).StopsIff (Trips v) := by
  refine Shape.record_stopsIff (fun ms => ?_) v
  have hsigned := Shape.required_stopsIff ms (spelling ms "signedMessage" "signed_message")
    SignedMessage.shape_stopsIff
  have hnonce := Shape.required_stopsIff ms "nonce"
    fun w => checked_stopsIff (nonceOf_complainsIff w)
  have htext (name : String) : (Shape.required ms name Shape.text).StopsIff False :=
    Shape.text_plain.required.stopsIff
  have hcallback : (Shape.orElse ms (spelling ms "callbackUrl" "callback_url") none
      (Shape.optional Shape.text)).StopsIff False :=
    Shape.text_plain.optional.orElse.stopsIff
  exact (((((hsigned.map _).seq hnonce).seq (htext "message")).seq (htext "recipient")).seq
    hcallback).congr (by simp)

/-! ### Whole texts -/

/-- A value was read, or the faults of the text were found. -/
def isClean : Except Error α → Bool
  | .ok _ | .error (.host (.mismatch _)) => true
  | .error _ => false

lemma isClean_toExcept {r : Reading α} (h : r.Plain) : isClean r.toExcept = true := by
  cases r with
  | ok a | faulty is => rfl
  | stopped e => exact h.elim

lemma ofJson_cases {s : Shape α} {P : Value → Prop} (h : ∀ v, (s v).StopsIff (P v))
    (text : String) :
    ((∃ v ∈ Json.parseWith? .narrow text, P v) ∧ ofJson s text = .error .wrongKind) ∨
      (¬ (∃ v ∈ Json.parseWith? .narrow text, P v) ∧ isClean (ofJson s text) = true) := by
  rw [ofJson]
  cases Json.parseWith? .narrow text with
  | none => exact .inr ⟨by simp, rfl⟩
  | some v =>
    rcases h v with ⟨hp, hv⟩ | ⟨hp, hv⟩
    · refine .inl ⟨⟨v, rfl, hp⟩, ?_⟩
      simp only [hv]
      rfl
    · exact .inr ⟨by simpa using hp, isClean_toExcept hv⟩

/-- Foreign text is read, or refused with its faults, unless it trips the reader; then, and only
then, it ends as a value of the wrong kind. -/
theorem ofJson_refusal (text : String) :
    (((∃ v ∈ Json.parseWith? .narrow text, SignedMessage.Trips v) ∧
        SignedMessage.ofJson text = .error .wrongKind) ∨
      (¬ (∃ v ∈ Json.parseWith? .narrow text, SignedMessage.Trips v) ∧
        isClean (SignedMessage.ofJson text) = true)) ∧
    (((∃ v ∈ Json.parseWith? .narrow text, AuthPayload.Trips v) ∧
        AuthPayload.ofJson text = .error .wrongKind) ∨
      (¬ (∃ v ∈ Json.parseWith? .narrow text, AuthPayload.Trips v) ∧
        isClean (AuthPayload.ofJson text) = true)) :=
  ⟨ofJson_cases SignedMessage.shape_stopsIff text, ofJson_cases AuthPayload.shape_stopsIff text⟩

/-- A number where the signature is expected. -/
theorem numeric_signature_trips : ¬ ∀ text,
    isClean (SignedMessage.ofJson text) = true ∧ isClean (AuthPayload.ofJson text) = true := by
  intro h
  have hsignature : isClean (SignedMessage.ofJson ("\x7b\"accountId\":\"alice.test\",\"publicKey\":"
      ++ "\"ed25519:11111111111111111111111111111111\",\"signature\":5\x7d")) = false := by
    decide +kernel
  cases hsignature.symm.trans (h _).1

end OffChain

end LedgerClient
