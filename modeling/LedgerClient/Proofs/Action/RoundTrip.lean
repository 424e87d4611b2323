import LedgerClient.Action.Basic
import LedgerClient.Proofs.Bytes.ByteMap
import LedgerClient.Proofs.Wire.Scalar

/-!
Actions are read back as they were written: access keys, published contracts, initial states, the
direct actions and the delegated ones. An action inside a delegated one is direct, so two levels of
reading suffice for every action that can be written.
-/

namespace LedgerClient

open Encoding

namespace Permission

lemma inverts : Inverts Permission.read Permission.encoding := by
  intro p bs h
  cases p with
  | functionCall receiver methods allowance =>
    simp only [encoding, append_assoc] at h
    refine Reads.andThen h (fun _ => reads_tag) fun _ h => ?_
    refine Reads.andThen h (inverts_option Amount.inverts _) fun _ h => ?_
    refine Reads.andThen h (AccountId.inverts _) fun _ h => ?_
    exact (inverts_sequence inverts_text _ _ h).map
  | fullAccess => exact (reads_tag h).last (Reads.pure _)

end Permission

lemma AccessKey.inverts : Inverts AccessKey.read AccessKey.encoding := by
  intro k bs h
  exact Reads.andThen h (Counter.inverts _) fun _ h => (Permission.inverts _ _ h).map

namespace DeployMode

@[simp] lemma ofTag_tag (m : DeployMode) : ofTag? m.tag = some m := by cases m <;> rfl

lemma inverts : Inverts DeployMode.read fun m => Encoding.tag m.tag := by
  intro m bs h
  refine (reads_tag h).last ?_
  rw [ofTag_tag]
  exact Reads.pure m

end DeployMode

lemma ContractId.inverts : Inverts ContractId.read ContractId.encoding := by
  intro i bs h
  cases i with
  | codeHash d =>
    exact Reads.andThen h (fun _ => reads_tag) fun _ h => (Digest.inverts _ _ h).map
  | publisher a =>
    exact Reads.andThen h (fun _ => reads_tag) fun _ h => (AccountId.inverts _ _ h).map

namespace StateInit

lemma inverts_pair : Inverts readPair pairEncoding := by
  intro p bs h
  exact Reads.andThen h (inverts_counted _) fun _ h => (inverts_counted _ _ h).map

/-- The pairs of a map ascend already, so making a map of them again changes nothing. -/
lemma inverts : Inverts StateInit.read StateInit.encoding := by
  intro s bs h
  rw [encoding, append_assoc] at h
  refine Reads.andThen h (fun _ => reads_tag) fun _ h => ?_
  refine Reads.andThen h (ContractId.inverts _) fun _ h => ?_
  have hm := (inverts_sequence inverts_pair _ _ h).map
    (g := fun ps => (⟨s.code, .ofPairs ps⟩ : StateInit))
  rwa [ByteMap.ofPairs_entries] at hm

end StateInit

namespace DirectAction

/-- The byte that names the kind. -/
def tag : DirectAction → Nat
  | createAccount => 0
  | deployContract .. => 1
  | functionCall .. => 2
  | transfer .. => 3
  | stake .. => 4
  | addKey .. => 5
  | deleteKey .. => 6
  | deleteAccount .. => 7
  | deployGlobalContract .. => 9
  | useGlobalContract .. => 10
  | stateInit .. => 11

/-- What is written behind the tag. -/
def fields : DirectAction → Encoding
  | createAccount => ∅
  | deployContract code => counted code
  | functionCall method args gas deposit =>
    text method ++ counted args ++ gas.encoding ++ deposit.encoding
  | transfer deposit => deposit.encoding
  | stake amount key => amount.encoding ++ key.encoding
  | addKey key access => key.encoding ++ access.encoding
  | deleteKey key => key.encoding
  | deleteAccount beneficiary => beneficiary.encoding
  | deployGlobalContract code mode => counted code ++ Encoding.tag mode.tag
  | useGlobalContract id => id.encoding
  | stateInit init deposit => init.encoding ++ deposit.encoding

lemma encoding_eq (a : DirectAction) : a.encoding = Encoding.tag a.tag ++ a.fields := by
  cases a <;> simp only [encoding, tag, fields, append_assoc, append_empty]

lemma reads_fields {a : DirectAction} {bs : Bytes} (h : a.fields.toBytes = .ok bs) :
    Reads (readFields a.tag) bs a := by
  cases a with
  | createAccount =>
    cases h
    exact Reads.pure _
  | deployContract code => exact (inverts_counted _ _ h).map
  | functionCall method args gas deposit =>
    simp only [fields, append_assoc] at h
    refine Reads.andThen h (inverts_text _) fun _ h => ?_
    refine Reads.andThen h (inverts_counted _) fun _ h => ?_
    exact Reads.andThen h (Amount.inverts _) fun _ h => (Amount.inverts _ _ h).map
  | transfer deposit => exact (Amount.inverts _ _ h).map
  | stake amount key =>
    exact Reads.andThen h (Amount.inverts _) fun _ h => (PublicKey.inverts _ _ h).map
  | addKey key access =>
    exact Reads.andThen h (PublicKey.inverts _) fun _ h => (AccessKey.inverts _ _ h).map
  | deleteKey key => exact (PublicKey.inverts _ _ h).map
  | deleteAccount beneficiary => exact (AccountId.inverts _ _ h).map
  | deployGlobalContract code mode =>
    exact Reads.andThen h (inverts_counted _) fun _ h => (DeployMode.inverts _ _ h).map
  | useGlobalContract id => exact (ContractId.inverts _ _ h).map
  | stateInit init deposit =>
    exact Reads.andThen h (StateInit.inverts _) fun _ h => (Amount.inverts _ _ h).map

end DirectAction

/-- A reader of actions that takes back direct ones. -/
def InvertsDirect (readAction : Reader Action) : Prop :=
  ∀ (a : DirectAction) bs, a.encoding.toBytes = .ok bs → Reads readAction bs (.direct a)

namespace Delegate

variable {readAction : Reader Action}

lemma reads_readDirect {a : DirectAction} {bs : Bytes} (h : Reads readAction bs (.direct a)) :
    Reads (readDirect readAction) bs a := h.last (Reads.pure a)

/-- The actions of the delegation are all that its reader is needed for. -/
lemma reads_readWith {d : Delegate} {bs : Bytes}
    (hr : ∀ a ∈ d.actions, ∀ bs, a.encoding.toBytes = .ok bs → Reads readAction bs (.direct a))
    (h : d.encoding.toBytes = .ok bs) : Reads (readWith readAction) bs d := by
  simp only [encoding, append_assoc] at h
  refine Reads.andThen h (AccountId.inverts _) fun _ h => ?_
  refine Reads.andThen h (AccountId.inverts _) fun _ h => ?_
  refine Reads.andThen h (fun _ => reads_sequence fun a ha bs hbs =>
    reads_readDirect (hr a ha bs hbs)) fun _ h => ?_
  refine Reads.andThen h (Counter.inverts _) fun _ h => ?_
  exact Reads.andThen h (Counter.inverts _) fun _ h => (PublicKey.inverts _ _ h).map

end Delegate

lemma SignedDelegate.reads_readWith {readAction : Reader Action} {s : SignedDelegate} {bs : Bytes}
    (hr : ∀ a ∈ s.delegate.actions, ∀ bs, a.encoding.toBytes = .ok bs →
      Reads readAction bs (.direct a))
    (h : s.encoding.toBytes = .ok bs) : Reads (SignedDelegate.readWith readAction) bs s :=
  Reads.andThen h (fun _ => Delegate.reads_readWith hr) fun _ h => (Signature.inverts _ _ h).map

lemma SignedDelegate.inverts_readWith {readAction : Reader Action}
    (hr : InvertsDirect readAction) :
    Inverts (SignedDelegate.readWith readAction) SignedDelegate.encoding :=
  fun _ _ => reads_readWith fun a _ => hr a

namespace Action

lemma invertsDirect_readWithin (n : Nat) : InvertsDirect (readWithin (n + 1)) := by
  intro a bs h
  rw [DirectAction.encoding_eq] at h
  refine Reads.andThen h (fun _ => reads_tag) fun y hy => ?_
  have hf := (DirectAction.reads_fields hy).map (g := Action.direct)
  cases a <;> exact hf

/-- Two levels read every action, the second one what a delegated action carries. -/
lemma inverts_readWithin (n : Nat) : Inverts (readWithin (n + 2)) Action.encoding := by
  intro a bs h
  cases a with
  | direct a => exact invertsDirect_readWithin (n + 1) a bs h
  | delegated s =>
    refine Reads.andThen h (fun _ => reads_tag) fun y hy => ?_
    exact (SignedDelegate.inverts_readWith (invertsDirect_readWithin n) _ _ hy).map

theorem inverts : Inverts Action.read Action.encoding := inverts_readWithin (depthLimit - 2)

end Action

/-- A signed delegation stands on its own, too. -/
theorem SignedDelegate.inverts : Inverts SignedDelegate.read SignedDelegate.encoding :=
  SignedDelegate.inverts_readWith fun a => Action.inverts (.direct a)

end LedgerClient
