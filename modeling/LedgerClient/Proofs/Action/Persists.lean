import LedgerClient.Action.Basic
import LedgerClient.Proofs.Wire.Persists

/-!
The readers of actions persist: of access keys, published contracts, initial states, direct actions
and delegated ones, at every depth of these.
-/

namespace LedgerClient

lemma Permission.persists : Persists Permission.read := by
  refine persists_tag.bind fun n => ?_
  split
  · refine (persists_option Amount.persists).bind fun _ => AccountId.persists.bind fun _ => ?_
    exact (persists_sequence persists_text).map
  · exact Persists.pure _
  · exact persists_refuse _

lemma AccessKey.persists : Persists AccessKey.read :=
  Counter.persists.bind fun _ => Permission.persists.map

lemma DeployMode.persists : Persists DeployMode.read := by
  refine persists_tag.bind fun n => ?_
  split
  · exact Persists.pure _
  · exact persists_refuse _

lemma ContractId.persists : Persists ContractId.read := by
  refine persists_tag.bind fun n => ?_
  split
  · exact Digest.persists.map
  · exact AccountId.persists.map
  · exact persists_refuse _

lemma StateInit.persists_readPair : Persists StateInit.readPair :=
  persists_counted.bind fun _ => persists_counted.map

lemma StateInit.persists : Persists StateInit.read := by
  refine persists_tag.bind fun n => ?_
  split
  · exact ContractId.persists.bind fun _ => (persists_sequence persists_readPair).map
  · exact persists_refuse _

/-- One case for each tag, and one for those that name nothing. -/
lemma DirectAction.persists (n : Nat) : Persists (DirectAction.readFields n) := by
  unfold readFields
  split
  · exact Persists.pure _
  · exact persists_counted.map
  · refine persists_text.bind fun _ => persists_counted.bind fun _ => ?_
    exact Amount.persists.bind fun _ => Amount.persists.map
  · exact Amount.persists.map
  · exact Amount.persists.bind fun _ => PublicKey.persists.map
  · exact PublicKey.persists.bind fun _ => AccessKey.persists.map
  · exact PublicKey.persists.map
  · exact AccountId.persists.map
  · exact persists_counted.bind fun _ => DeployMode.persists.map
  · exact ContractId.persists.map
  · exact StateInit.persists.bind fun _ => Amount.persists.map
  · exact persists_refuse _

section Delegated

variable {readAction : Reader Action} (hr : Persists readAction)

include hr

/-- A delegated action is refused where it ends, so what stands behind it makes no difference. -/
lemma Delegate.persists_readDirect : Persists (Delegate.readDirect readAction) := by
  refine hr.bind fun a => ?_
  split
  · exact Persists.pure _
  · exact persists_refuse _

lemma Delegate.persists_readWith : Persists (Delegate.readWith readAction) := by
  refine AccountId.persists.bind fun _ => AccountId.persists.bind fun _ => ?_
  refine (persists_sequence (persists_readDirect hr)).bind fun _ => ?_
  exact Counter.persists.bind fun _ => Counter.persists.bind fun _ => PublicKey.persists.map

lemma SignedDelegate.persists_readWith : Persists (SignedDelegate.readWith readAction) :=
  (Delegate.persists_readWith hr).bind fun _ => Signature.persists.map

end Delegated

/-- By induction on the levels that the stack has room for. -/
lemma Action.persists_readWithin (n : Nat) : Persists (Action.readWithin n) := by
  induction n with
  | zero => exact Persists.fail _
  | succ n ih =>
    refine persists_tag.bind fun t => ?_
    split
    · exact (SignedDelegate.persists_readWith ih).map
    · exact (DirectAction.persists _).map

lemma Action.persists : Persists Action.read := persists_readWithin depthLimit

lemma SignedDelegate.persists : Persists SignedDelegate.read := persists_readWith Action.persists

end LedgerClient
