import LedgerClient.Proofs.Action.RoundTrip
import LedgerClient.Proofs.Wire.Yields

/-!
Delegations within one another. They have no value, but they can be spelled, and they are refused at
any depth: the innermost one inside another is named as the fault if the stack holds them all, and
otherwise the stack is used up before that is seen.
-/

namespace LedgerClient

open Encoding

namespace SignedDelegate

/-- The delegation with nothing to do. -/
def bare (s : SignedDelegate) : SignedDelegate := ⟨{ s.delegate with actions := [] }, s.signature⟩

/-- The delegation of a delegation and so on, so many times, of nothing at last. -/
def nest (s : SignedDelegate) : Nat → Encoding
  | 0 => s.bare.encoding
  | n + 1 => s.delegate.sender.encoding ++ (s.delegate.receiver.encoding ++ (int .u32 1 ++
      ((Encoding.tag 8 ++ nest s n) ++ (s.delegate.nonce.encoding ++
        s.delegate.maxBlockHeight.encoding ++ s.delegate.publicKey.encoding
        ++ s.signature.encoding))))

variable {s : SignedDelegate}

/-- Nested delegations have no value and can be spelled all the same. -/
lemma writable_nest (h : s.bare.encoding.Writable) (n : Nat) : (s.nest n).Writable := by
  have hs := h
  simp only [encoding, Delegate.encoding, bare, writable_append] at hs
  obtain ⟨⟨⟨⟨⟨⟨hsender, hreceiver⟩, -⟩, hnonce⟩, hheight⟩, hkey⟩, hsignature⟩ := hs
  have htag : (Encoding.tag 8).Writable := ⟨_, rfl⟩
  have hcount : (int .u32 1).Writable := ⟨_, rfl⟩
  induction n with
  | zero => exact h
  | succ n ih =>
    simp only [nest, writable_append]
    exact ⟨hsender, hreceiver, hcount, ⟨htag, ih⟩, ⟨⟨hnonce, hheight⟩, hkey⟩, hsignature⟩

lemma reads_bare (readAction : Reader Action) {bs : Bytes} (h : (s.nest 0).toBytes = .ok bs) :
    Reads (SignedDelegate.readWith readAction) bs s.bare :=
  reads_readWith (fun _ ha => absurd ha List.not_mem_nil) h

/-- An action that is refused within a delegation makes it refused, for the same reason. -/
lemma failsOn_readWith {readAction : Reader Action} {x : Error} {n : Nat} {bs : Bytes}
    (hbs : (s.nest (n + 1)).toBytes = .ok bs)
    (hx : ∀ y, (Encoding.tag 8 ++ s.nest n).toBytes = .ok y →
      FailsOn (Delegate.readDirect readAction) y x) :
    FailsOn (SignedDelegate.readWith readAction) bs x := by
  refine FailsOn.first ?_
  refine FailsOn.andThen hbs (AccountId.inverts _) fun _ h => ?_
  refine FailsOn.andThen h (AccountId.inverts _) fun _ h => FailsOn.first ?_
  refine FailsOn.andThen h (fun _ => reads_int) fun _ h => FailsOn.first ?_
  obtain ⟨y, z, hy, -, rfl⟩ := toBytes_append_ok h
  exact (hx y hy).append z

/-- What is wrong with a delegation within another, read with room for `m` levels. -/
def nestFault (m n : Nat) : Error :=
  if n < m then .plain .encoding "Delegate actions cannot be nested" else .host (.tooDeep .calling)

/-- Each level that is read leaves room for one level less. -/
lemma failsOn_readWithin (m n : Nat) {bs : Bytes}
    (hbs : (Encoding.tag 8 ++ s.nest n).toBytes = .ok bs) :
    FailsOn (Delegate.readDirect (Action.readWithin m)) bs (nestFault m n) := by
  induction m generalizing n bs with
  | zero => exact FailsOn.first fun _ _ => rfl
  | succ m ih =>
    cases n with
    | zero =>
      -- The innermost delegation has a value, which is refused where it stands.
      obtain ⟨y, z, hy, hz, rfl⟩ := toBytes_append_ok hbs
      have hread : Reads (Action.readWithin (m + 1)) (y ++ z) (.delegated s.bare) :=
        (reads_tag hy).bind (reads_bare _ hz).map
      rw [← List.append_nil (y ++ z)]
      exact FailsOn.second hread fun _ _ => rfl
    | succ n =>
      have hf : nestFault (m + 1) (n + 1) = nestFault m n := by
        simp only [nestFault, Nat.add_lt_add_iff_right]
      rw [hf]
      refine FailsOn.first ?_
      refine FailsOn.andThen hbs (fun _ => reads_tag) fun y hy => FailsOn.first ?_
      exact failsOn_readWith hy fun z hz => ih n hz

/-- **Nested delegations are refused**, as such if there are at most as many of them within one
another as the stack holds, and else for want of stack. -/
theorem ofBytes_nest (s : SignedDelegate) (n : Nat) {bs : Bytes}
    (h : (s.nest (n + 1)).toBytes = .ok bs) :
    ofBytes bs = .error (nestFault Action.depthLimit n) :=
  (failsOn_readWith h fun _ hy => failsOn_readWithin Action.depthLimit n hy).whole

end SignedDelegate

end LedgerClient
