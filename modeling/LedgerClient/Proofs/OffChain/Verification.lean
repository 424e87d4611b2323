import LedgerClient.OffChain.Freshness
import LedgerClient.Proofs.Dialogue.Moves
import LedgerClient.Proofs.OffChain.Transport
import LedgerClient.Proofs.Wire.Yields
import LedgerClient.Signer.Holder
import Mathlib.Tactic.NormNum

/-!
A message that was signed, carried as text and read again is what was signed, and its signature is
accepted as long as its nonce is neither from the future nor too old.
-/

namespace LedgerClient

open Dialogue Encoding

variable {δ : Type}

namespace OffChain

/-! ### What can be signed -/

namespace Params

variable {p : Params}

/-- The texts that are signed are short enough for a count of four bytes. -/
def Countable (p : Params) : Prop :=
  (Utf8.encode p.message).length < Nat.pow 256 4 ∧
    (Utf8.encode p.recipient).length < Nat.pow 256 4 ∧
    ∀ u ∈ p.callbackUrl, (Utf8.encode u).length < Nat.pow 256 4

lemma digest_ok_iff : (∃ d, p.digest = .ok d) ↔ p.Countable := by
  have hdigest : (∃ d, p.digest = .ok d) ↔ p.encoding.Writable := by
    rw [digest, preimage, Encoding.Writable]
    cases p.encoding.toBytes with
    | error e => exact ⟨fun ⟨_, h⟩ => (nomatch h), fun ⟨_, h⟩ => (nomatch h)⟩
    | ok bs => exact ⟨fun _ => ⟨bs, rfl⟩, fun _ => ⟨Digest.of bs, rfl⟩⟩
  have htag : (Encoding.int .u32 tag).Writable := ⟨_, rfl⟩
  rw [hdigest]
  simp only [encoding, writable_append, writable_option, Encoding.text, writable_counted,
    writable_ofBytes, htag, true_and, and_true, Countable, and_assoc]

end Params

/-! ### What is accepted -/

/-- Not from the future and not older than the limit, in seconds. Without a limit any time will
do. -/
def IsTimely (t : Nat) (now : Int) (limit : Option Rat) : Prop :=
  ∀ s ∈ limit, (t : Int) ≤ now ∧ ((now - t : Int) : Rat) ≤ 1000 * s

/-- The time is compared exactly, with milliseconds on both sides. -/
lemma isFresh_exact {nonce : Bytes} {now : Int} {limit : Option Rat} :
    (limit.map AgeLimit.exact).all (isFresh nonce now) = true ↔
      IsTimely (timestamp nonce) now limit := by
  cases limit with
  | none => simp [IsTimely]
  | some s => simp [IsTimely, isFresh, AgeLimit.admits, Rat.mul_comm]

variable {m : SignedMessage} {p : Params} {d : Digest}

lemma verifySignature_exact (hd : p.digest = .ok d)
    (hv : m.publicKey.verify d.bytes m.signature = .ok true) (now : Int) (limit : Option Rat) :
    ∃ b, verifySignature m p now (limit.map .exact) = .ok b ∧
      (b = true ↔ IsTimely (timestamp p.nonce) now limit) := by
  refine ⟨(limit.map AgeLimit.exact).all (isFresh p.nonce now), ?_, isFresh_exact⟩
  rw [verifySignature, hd]
  split
  · rename_i hfresh
    rw [hfresh]
    exact hv
  · rename_i hstale
    rw [Bool.not_eq_true] at hstale
    rw [hstale]

end OffChain

open OffChain

/-! ### Signing, carrying and checking -/

namespace Signer

/-- The keys verify what they sign for these parameters. -/
def VerifiesFor (s : Signer) (p : Params) : Prop :=
  ∀ d, p.digest = .ok d → ∀ k ∈ s.keys, k.publicKey.verify d.bytes (k.sign d.bytes) = .ok true

lemma signMessage_of_digest {p : Params} {d : Digest} (h : p.digest = .ok d) (s : Signer)
    (turn : Nat) : s.signMessage turn p =
      .ok ⟨s.account, (s.key turn).publicKey, (s.key turn).sign d.bytes, p.state⟩ := by
  rw [signMessage, h]
  rfl

end Signer

namespace Holder

lemma signMessage_run (h : Holder) {p : Params} {d : Digest} (hd : p.digest = .ok d) :
    (h.signMessage p : Act Shared δ SignedMessage).run =
      .step (·.nextTurn h.seat) fun s => .done (h.signer.signMessage (s.turn h.seat) p) := by
  rw [signMessage, hd]
  rfl

lemma signMessage_run_error (h : Holder) {p : Params} {e : Error} (hd : p.digest = .error e) :
    (h.signMessage p : Act Shared δ SignedMessage).run = .done (.error e) := by
  rw [signMessage, hd]
  rfl

/-- **Signing succeeds exactly where the texts can be counted. The signed message then comes
through its text together with the parameters, and if the key verifies what it signs, the check
without a node accepts it exactly as long as the nonce is timely.** -/
theorem signMessage_verifies (h : Holder) (p : Params) {ms : List (Move Shared δ)}
    {r : Except Error SignedMessage} (hrun : (h.signMessage p).run.Runs ms (.done r)) :
    ((∃ m, r = .ok m) ↔ p.Countable) ∧ ∀ m, r = .ok m → ∃ q,
      AuthPayload.ofJson (AuthPayload.ofSigned m p).toJson = .ok q ∧
      q.toParams = p ∧ q.signed = m ∧
      (h.signer.VerifiesFor p → ∀ now limit, ∃ b,
        verifySignature q.signed q.toParams now (limit.map .exact) = .ok b ∧
          (b = true ↔ IsTimely (timestamp p.nonce) now limit)) := by
  rw [← Params.digest_ok_iff]
  cases hd : p.digest with
  | error e =>
    rw [signMessage_run_error h hd] at hrun
    obtain ⟨-, hr⟩ := runs_done hrun
    cases hr
    simp
  | ok d =>
    rw [signMessage_run h hd] at hrun
    rcases runs_step hrun with ⟨-, hr⟩ | ⟨s, ms', -, hr⟩
    · cases hr
    obtain ⟨-, hr⟩ := runs_done hr
    rw [Signer.signMessage_of_digest hd] at hr
    cases hr
    refine ⟨⟨fun _ => ⟨d, rfl⟩, fun _ => ⟨_, rfl⟩⟩, fun m hm => ?_⟩
    cases hm
    refine ⟨_, AuthPayload.ofJson_toJson rfl, rfl, rfl, fun hv now limit => ?_⟩
    exact verifySignature_exact hd (hv d hd _ (List.get_mem _ _)) now limit

end Holder

namespace Greeting

def host : Holder :=
  ⟨Signer.ofKey ⟨"host.test", by decide +kernel⟩ ⟨List.replicate 32 5, by decide⟩ .memory, 0⟩

/-- Made in the thousandth millisecond, with quotation marks and a line break in it. -/
def params : Params where
  message := "say \"hello\"\n"
  recipient := "guest.test"
  nonce := Bytes.ofNatBE 8 1000 ++ List.replicate 24 9
  callbackUrl := some "https://guest.test"
  state := some "pending"
  length_eq := by decide

lemma verifiesFor : host.signer.VerifiesFor params := by
  intro d hd k hk
  obtain rfl : Digest.of params.encoding.bytes = d := Except.ok.inj hd
  obtain rfl := List.mem_singleton.1 hk
  refine congrArg Except.ok (?_ : Ed25519.verify _ _ _ = true)
  decide +kernel

end Greeting

open Greeting in
/-- A greeting that is accepted for one millisecond after it was made, and no longer in the next. -/
theorem greeting_verifies : ∃ (ms : List (Move Shared Nat)) (m : SignedMessage) (q : AuthPayload),
    (host.signMessage params).run.Runs ms (.done (.ok m)) ∧
    AuthPayload.ofJson (AuthPayload.ofSigned m params).toJson = .ok q ∧
    verifySignature q.signed q.toParams 1001 (some (.exact (1 / 1000))) = .ok true ∧
    verifySignature q.signed q.toParams 1002 (some (.exact (1 / 1000))) = .ok false := by
  have hrun : (host.signMessage params : Act Shared Nat _).run.Runs
      [.change (·.nextTurn host.seat) .empty]
      (.done (host.signer.signMessage (Shared.empty.turn host.seat) params)) :=
    .cons (.change ..) (.nil _)
  obtain ⟨hsigned, hverifies⟩ := host.signMessage_verifies params hrun
  obtain ⟨m, hm⟩ := hsigned.2 (Params.digest_ok_iff.1 ⟨_, rfl⟩)
  obtain ⟨q, hq, -, -, hcheck⟩ := hverifies m hm
  have htime : timestamp params.nonce = 1000 := by decide
  rw [htime] at hcheck
  refine ⟨_, m, q, hm ▸ hrun, hq, ?_, ?_⟩
  · obtain ⟨b, hb, hiff⟩ := hcheck verifiesFor 1001 (some (1 / 1000))
    have htimely : IsTimely 1000 1001 (some (1 / 1000)) := by norm_num [IsTimely]
    obtain rfl := hiff.2 htimely
    exact hb
  · obtain ⟨b, hb, hiff⟩ := hcheck verifiesFor 1002 (some (1 / 1000))
    have hlate : ¬ IsTimely 1000 1002 (some (1 / 1000)) := by norm_num [IsTimely]
    obtain rfl : b = false := (Bool.not_eq_true b).mp (mt hiff.1 hlate)
    exact hb

end LedgerClient
