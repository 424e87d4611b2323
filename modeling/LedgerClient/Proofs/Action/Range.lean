import LedgerClient.Proofs.Action.RoundTrip
import LedgerClient.Proofs.Wire.Canonical

/-!
What holds of every part of an action that has a binary form: numbers fit their widths, identifiers
and keys are valid, and maps ascend.
-/

namespace LedgerClient

open Encoding

def AccountId.InRange (a : AccountId) : Prop := fault? a.text = none

def PublicKey.InRange (k : PublicKey) : Prop := isValid k.curve k.bytes = true

def Signature.InRange (s : Signature) : Prop := s.bytes.length = s.curve.signatureLength

def Digest.InRange (d : Digest) : Prop := d.bytes.length = 32

def ByteMap.InRange (m : ByteMap) : Prop :=
  m.entries.Pairwise fun a b => Bytes.before a.1 b.1 = true

/-- Gas has 64 bits, and tokens have 128. -/
def Amount.InRange {m : Measure} (a : Amount m) : Prop := (width m).fits a.value = true

/-- A whole number of 64 bits. -/
def Counter.InRange : Counter → Prop
  | whole n => Width.u64.fits n = true
  | other _ => False

def Permission.InRange : Permission → Prop
  | functionCall receiver _ allowance => receiver.InRange ∧ ∀ a ∈ allowance, a.InRange
  | fullAccess => True

def AccessKey.InRange (k : AccessKey) : Prop := k.nonce.InRange ∧ k.permission.InRange

def ContractId.InRange : ContractId → Prop
  | codeHash d => d.InRange
  | publisher a => a.InRange

def StateInit.InRange (s : StateInit) : Prop := s.code.InRange ∧ s.data.InRange

def DirectAction.InRange : DirectAction → Prop
  | createAccount => True
  | deployContract _ => True
  | functionCall _ _ gas deposit => gas.InRange ∧ deposit.InRange
  | transfer deposit => deposit.InRange
  | stake amount key => amount.InRange ∧ key.InRange
  | addKey key access => key.InRange ∧ access.InRange
  | deleteKey key => key.InRange
  | deleteAccount beneficiary => beneficiary.InRange
  | deployGlobalContract _ _ => True
  | useGlobalContract id => id.InRange
  | stateInit init deposit => init.InRange ∧ deposit.InRange

/-- No action within is a delegated one. -/
def Delegate.InRange (d : Delegate) : Prop :=
  d.sender.InRange ∧ d.receiver.InRange ∧
  (∀ a ∈ d.actions, a.InRange ∧ (Action.direct a).isDelegated = false) ∧
  d.nonce.InRange ∧ d.maxBlockHeight.InRange ∧ d.publicKey.InRange

def SignedDelegate.InRange (s : SignedDelegate) : Prop :=
  s.delegate.InRange ∧ s.signature.InRange

def Action.InRange : Action → Prop
  | direct a => a.InRange
  | delegated s => s.InRange

/-! ### What is written is in range -/

lemma AccountId.inRange (a : AccountId) : a.InRange := a.valid

lemma PublicKey.inRange (k : PublicKey) : k.InRange := k.valid

lemma Amount.inRange {m : Measure} (a : Amount m) : a.InRange := by
  have := a.lt_width
  simp only [InRange, Width.fits, Bool.and_eq_true, decide_eq_true_eq]
  omega

lemma Counter.inRange {c : Counter} (h : c.encoding.Writable) : c.InRange := by
  obtain ⟨bs, h⟩ := h
  cases c with
  | whole n =>
    obtain ⟨h0, hlt, -⟩ := int_ok h
    simp only [InRange, Width.fits, Bool.and_eq_true, decide_eq_true_eq]
    exact ⟨h0, hlt⟩
  | other s => cases h

lemma Permission.inRange (p : Permission) : p.InRange := by
  cases p with
  | functionCall receiver methods allowance => exact ⟨receiver.inRange, fun a _ => a.inRange⟩
  | fullAccess => trivial

lemma AccessKey.inRange {k : AccessKey} (h : k.encoding.Writable) : k.InRange := by
  rw [encoding, writable_append] at h
  exact ⟨Counter.inRange h.1, k.permission.inRange⟩

lemma ContractId.inRange (i : ContractId) : i.InRange := by
  cases i with
  | codeHash d => exact d.length_eq
  | publisher a => exact a.inRange

lemma StateInit.inRange (s : StateInit) : s.InRange := ⟨s.code.inRange, s.data.ascending⟩

/-- Only the nonce of an access key can be out of range. -/
lemma DirectAction.inRange {a : DirectAction} (h : a.encoding.Writable) : a.InRange := by
  cases a with
  | createAccount => trivial
  | deployContract code => trivial
  | functionCall method args gas deposit => exact ⟨gas.inRange, deposit.inRange⟩
  | transfer deposit => exact deposit.inRange
  | stake amount key => exact ⟨amount.inRange, key.inRange⟩
  | addKey key access =>
    rw [encoding, writable_append] at h
    exact ⟨key.inRange, AccessKey.inRange h.2⟩
  | deleteKey key => exact key.inRange
  | deleteAccount beneficiary => exact beneficiary.inRange
  | deployGlobalContract code mode => trivial
  | useGlobalContract id => exact id.inRange
  | stateInit init deposit => exact ⟨init.inRange, deposit.inRange⟩

lemma Delegate.inRange {d : Delegate} (h : d.encoding.Writable) : d.InRange := by
  simp only [encoding, writable_append, writable_sequence] at h
  obtain ⟨⟨⟨-, -, hactions⟩, hnonce⟩, hheight⟩ := h.1
  exact ⟨d.sender.inRange, d.receiver.inRange,
    fun a ha => ⟨DirectAction.inRange (hactions a ha), rfl⟩,
    Counter.inRange hnonce, Counter.inRange hheight, d.publicKey.inRange⟩

lemma SignedDelegate.inRange {s : SignedDelegate} (h : s.encoding.Writable) : s.InRange := by
  rw [encoding, writable_append] at h
  exact ⟨Delegate.inRange h.1, s.signature.length_eq⟩

lemma Action.inRange {a : Action} (h : a.encoding.Writable) : a.InRange := by
  cases a with
  | direct a => exact DirectAction.inRange h
  | delegated s =>
    rw [encoding, writable_append] at h
    exact SignedDelegate.inRange h.2

end LedgerClient
