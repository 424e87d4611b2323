import LedgerClient.Proofs.Action.RoundTrip
import LedgerClient.Proofs.Wire.Length
import LedgerClient.Proofs.Wire.Spelling

/-!
Which byte strings are read as an action. All parts of an action have one spelling but the data of
an initial state, where pairs may come in any order and a key more than once. Besides, a stack that
is used up while an action is read needs delegated actions within one another, of 17 bytes each.
-/

namespace LedgerClient

open Encoding

variable {d : Nat}

/-! ### Spellings -/

/-- The data of an initial state is spelled by any pairs that come to it. -/
def ByteMap.Spelled : Spelling ByteMap := fun m ls e =>
  ∃ ps, m = .ofPairs ps ∧ ls = [ps] ∧ e = Encoding.sequence StateInit.pairEncoding ps

def StateInit.Spelled : Spelling StateInit :=
  ByteMap.Spelled.Between StateInit.data (fun s => Encoding.tag 0 ++ s.code.encoding) fun _ => ∅

def DirectAction.hasMap : DirectAction → Bool
  | stateInit _ _ => true
  | _ => false

/-- An initial state with the deposit behind it. -/
def StateInit.Funded : Spelling (StateInit × Token) :=
  StateInit.Spelled.Between Prod.fst (fun _ => Encoding.tag 11) fun p => p.2.encoding

inductive DirectAction.Spelled : Spelling DirectAction
  | plain {a : DirectAction} : a.hasMap = false → Spelled a [] a.encoding
  | stateInit {init : StateInit} {deposit : Token} {ls : List Listing} {e : Encoding} :
    StateInit.Funded (init, deposit) ls e → Spelled (.stateInit init deposit) ls e

namespace Delegate

def front (d : Delegate) : Encoding :=
  d.sender.encoding ++ d.receiver.encoding ++ int .u32 d.actions.length

def back (d : Delegate) : Encoding :=
  d.nonce.encoding ++ d.maxBlockHeight.encoding ++ d.publicKey.encoding

def Spelled : Spelling Delegate := (Spelling.Each DirectAction.Spelled).Between actions front back

end Delegate

def SignedDelegate.Spelled : Spelling SignedDelegate :=
  Delegate.Spelled.Between SignedDelegate.delegate (fun _ => ∅) fun s => s.signature.encoding

/-- Behind the tag of a delegated action. -/
def SignedDelegate.Tagged : Spelling SignedDelegate :=
  SignedDelegate.Spelled.Between id (fun _ => Encoding.tag 8) fun _ => ∅

inductive Action.Spelled : Spelling Action
  | direct {a : DirectAction} {ls : List Listing} {e : Encoding} :
    DirectAction.Spelled a ls e → Spelled (.direct a) ls e
  | delegated {s : SignedDelegate} {ls : List Listing} {e : Encoding} :
    SignedDelegate.Tagged s ls e → Spelled (.delegated s) ls e

/-! ### What the readers accept -/

lemma Permission.canonical : Canonical Permission.read Permission.encoding := by
  intro d
  refine canonical_tag.bind fun n => ?_
  split
  · refine (canonical_option Amount.canonical).bind fun allowance => ?_
    refine AccountId.canonical.bind fun receiver => ?_
    exact (canonical_sequence canonical_text).last fun methods => by
      simp only [encoding, append_assoc]
  · exact .pure (append_empty _)
  · exact .refuse

lemma AccessKey.canonical : Canonical AccessKey.read AccessKey.encoding :=
  fun _ => Counter.canonical.bind fun _ => Permission.canonical.last fun _ => rfl

lemma DeployMode.canonical : Canonical DeployMode.read fun m => Encoding.tag m.tag := by
  intro d
  refine canonical_tag.bind fun n => ?_
  match n with
  | 0 => exact .pure (append_empty _)
  | 1 => exact .pure (append_empty _)
  | n + 2 => exact .refuse

lemma ContractId.canonical : Canonical ContractId.read ContractId.encoding := by
  intro d
  refine canonical_tag.bind fun n => ?_
  split
  · exact Digest.canonical.last fun _ => rfl
  · exact AccountId.canonical.last fun _ => rfl
  · exact .refuse

namespace StateInit

lemma canonical_pair : Canonical readPair pairEncoding :=
  fun _ => canonical_counted.bind fun _ => canonical_counted.last fun _ => rfl

lemma yields_read : Yields d Spelled.Any StateInit.read := by
  refine canonical_tag.bind fun n => ?_
  split
  · refine ContractId.canonical.bind fun code => ?_
    refine (canonical_sequence canonical_pair).last fun ps => ?_
    refine ⟨[ps], _, ⟨ps, rfl, rfl, rfl⟩, ?_⟩
    simp only [append_empty, append_assoc]
  · exact .refuse

end StateInit

namespace DirectAction

lemma any_plain {a : DirectAction} {e : Encoding} (h : a.hasMap = false) (he : e = a.encoding) :
    Spelled.Any a e := ⟨[], he ▸ .plain h⟩

/-- Each kind of action has its fields read in the order in which they are written. -/
lemma yields_readFields (t : Nat) :
    Yields d (fun a e => Spelled.Any a (Encoding.tag t ++ e)) (readFields t) := by
  unfold readFields
  split
  · exact .pure (any_plain rfl (append_empty _))
  · exact canonical_counted.last fun code => any_plain rfl rfl
  · refine canonical_text.bind fun method => canonical_counted.bind fun args => ?_
    refine Amount.canonical.bind fun gas => Amount.canonical.last fun deposit => ?_
    exact any_plain rfl (by simp only [encoding, append_assoc])
  · exact Amount.canonical.last fun deposit => any_plain rfl rfl
  · refine Amount.canonical.bind fun amount => PublicKey.canonical.last fun key => ?_
    exact any_plain rfl (by simp only [encoding, append_assoc])
  · refine PublicKey.canonical.bind fun key => AccessKey.canonical.last fun access => ?_
    exact any_plain rfl (by simp only [encoding, append_assoc])
  · exact PublicKey.canonical.last fun key => any_plain rfl rfl
  · exact AccountId.canonical.last fun beneficiary => any_plain rfl rfl
  · refine canonical_counted.bind fun code => DeployMode.canonical.last fun mode => ?_
    exact any_plain rfl (by simp only [encoding, append_assoc])
  · exact ContractId.canonical.last fun id => any_plain rfl rfl
  · refine StateInit.yields_read.bind ?_
    rintro init e ⟨ls, he⟩
    exact Amount.canonical.last fun deposit => ⟨ls, .stateInit ⟨e, he, rfl⟩⟩
  · exact .refuse

end DirectAction

namespace Delegate

variable {readAction : Reader Action}

lemma yields_readDirect (h : Yields d Action.Spelled.Any readAction) :
    Yields d DirectAction.Spelled.Any (readDirect readAction) := by
  refine h.bind ?_
  rintro a e ⟨ls, hs⟩
  cases hs with
  | direct ha => exact .pure ⟨ls, by rwa [append_empty]⟩
  | delegated hs => exact .refuse

/-- Two identifiers and a count stand before the first action. -/
lemma yields_readWith (h : Yields d Action.Spelled.Any readAction) :
    Yields (d + 16) Spelled.Any (readWith readAction) := by
  have hid (a : AccountId) (bs : Bytes) (hbs : a.encoding.toBytes = .ok bs) : 6 ≤ bs.length :=
    (AccountId.length_encoding hbs).1
  refine AccountId.canonical.bind_after (d := d + 10) hid fun sender => ?_
  refine AccountId.canonical.bind_after (d := d + 4) hid fun receiver => ?_
  refine (yields_sequence (yields_readDirect h)).bind ?_
  rintro actions e ⟨e', hrow, he⟩
  obtain ⟨ls, hrow⟩ := Spelling.any_each hrow
  refine Counter.canonical.bind fun nonce => Counter.canonical.bind fun maxBlockHeight => ?_
  refine PublicKey.canonical.last fun publicKey => ⟨ls, e', hrow, ?_⟩
  simp only [he, front, back, append_assoc]

end Delegate

lemma SignedDelegate.yields_readWith {readAction : Reader Action}
    (h : Yields d Action.Spelled.Any readAction) :
    Yields (d + 16) Spelled.Any (SignedDelegate.readWith readAction) := by
  refine (Delegate.yields_readWith h).bind ?_
  rintro delegate e ⟨ls, hd⟩
  exact Signature.canonical.last fun signature => ⟨ls, e, hd, rfl⟩

namespace Action

/-- Every delegated action within another takes 17 bytes, its tag among them. -/
lemma yields_readWithin (n : Nat) : Yields (17 * n) Spelled.Any (readWithin n) := by
  induction n with
  | zero =>
    constructor
    · intro c c' a h
      cases h
    · intro c c' x h
      cases h
      exact .inr ⟨rfl, Nat.zero_le _⟩
  | succ n ih =>
    rw [Nat.mul_succ]
    refine canonical_tag.bind_after (d := 17 * n + 16) (k := 1) ?_ fun t => ?_
    · intro t bs hbs
      obtain ⟨-, -, rfl⟩ := int_ok hbs
      exact Nat.le_of_eq (Bytes.length_ofNatLE 1 _).symm
    · split
      · refine (SignedDelegate.yields_readWith ih).map ?_
        rintro s e ⟨ls, hs⟩
        exact ⟨ls, .delegated ⟨e, hs, by rw [append_empty]⟩⟩
      · refine (DirectAction.yields_readFields t).map ?_
        rintro a e ⟨ls, ha⟩
        exact ⟨ls, .direct ha⟩

theorem yields_read : Yields (17 * depthLimit) Spelled.Any Action.read :=
  yields_readWithin depthLimit

end Action

theorem SignedDelegate.yields_read :
    Yields (17 * Action.depthLimit) Spelled.Any SignedDelegate.read :=
  (yields_readWith Action.yields_read).mono (Nat.le_add_right _ 16)

/-! ### Spellings differ in listings only -/

namespace ByteMap

/-- Putting pairs one after the other leaves no more of them, and none from elsewhere. -/
lemma length_putEntry (k v : Bytes) (es : Listing) :
    (putEntry k v es).length ≤ es.length + 1 := by
  induction es with
  | nil => exact Nat.le_refl 1
  | cons e r ih =>
    rw [putEntry]
    split_ifs <;> simp only [List.length_cons] <;> omega

lemma foldl_put (ps : Listing) (m : ByteMap) :
    let r := ps.foldl (fun m p => m.put p.1 p.2) m
    r.entries.length ≤ m.entries.length + ps.length ∧ ∀ p ∈ r.entries, p ∈ m.entries ∨ p ∈ ps := by
  induction ps generalizing m with
  | nil => exact ⟨Nat.le_refl _, fun p => .inl⟩
  | cons q l ih =>
    obtain ⟨hlen, hmem⟩ := ih (m.put q.1 q.2)
    have hput := length_putEntry q.1 q.2 m.entries
    refine ⟨?_, fun p hp => ?_⟩
    · simp only [List.foldl_cons, List.length_cons, put] at hlen ⊢
      omega
    · rcases hmem p hp with hm | hl
      · rcases mem_putEntry hm with rfl | hm
        · exact .inr List.mem_cons_self
        · exact .inl hm
      · exact .inr (List.mem_cons_of_mem _ hl)

lemma length_ofPairs (ps : Listing) : (ofPairs ps).entries.length ≤ ps.length := by
  have := (foldl_put ps empty).1
  rwa [show empty.entries = [] from rfl, List.length_nil, Nat.zero_add] at this

lemma mem_ofPairs {ps : Listing} {p : Bytes × Bytes} (h : p ∈ (ofPairs ps).entries) : p ∈ ps :=
  ((foldl_put ps empty).2 p h).resolve_left List.not_mem_nil

lemma reorders :
    Spelled.Reorders fun m => Encoding.sequence StateInit.pairEncoding m.entries where
  own m := ⟨[m.entries], List.forall_mem_singleton.2 m.ascending,
    m.entries, (ofPairs_entries m).symm, rfl, rfl⟩
  ascending := by
    rintro m ls e ⟨ps, hm, rfl, he⟩ hls
    rw [he, hm, entries_ofPairs (List.forall_mem_singleton.1 hls)]
  writable := by
    rintro m ls e ⟨ps, hm, rfl, he⟩ hw
    rw [he, writable_sequence] at hw
    rw [hm, writable_sequence]
    exact ⟨Nat.lt_of_le_of_lt (length_ofPairs ps) hw.1, fun p hp => hw.2 p (mem_ofPairs hp)⟩
  unique := by
    rintro m _ _ _ _ x y u v ⟨ps, -, rfl, he⟩ ⟨ps', -, rfl, he'⟩ hx hy huv
    rw [he] at hx
    rw [he'] at hy
    have hp := inverts_sequence StateInit.inverts_pair
    obtain ⟨rfl, huv⟩ := (hp _ _ hx).unique (hp _ _ hy) huv
    exact ⟨rfl, huv⟩

end ByteMap

lemma StateInit.reorders : Spelled.Reorders StateInit.encoding :=
  (ByteMap.reorders.between _ _ _).congr fun s => by rw [encoding, append_empty]

namespace DirectAction

lemma reorders : Spelled.Reorders DirectAction.encoding := by
  have hf : StateInit.Funded.Reorders fun p => (stateInit p.1 p.2).encoding :=
    (StateInit.reorders.between _ _ _).congr fun p => by rw [encoding, append_assoc]
  constructor
  · intro a
    cases a with
    | stateInit init deposit =>
      obtain ⟨ls, hls, h⟩ := hf.own (init, deposit)
      exact ⟨ls, hls, .stateInit h⟩
    | _ => exact ⟨[], fun _ hp => absurd hp List.not_mem_nil, .plain rfl⟩
  · rintro a ls e (_ | h) hls
    · rfl
    · exact (hf.ascending h hls :)
  · rintro a ls e (_ | h) hw
    · exact hw
    · exact (hf.writable h hw :)
  · rintro a ls ls' e e' x y u v (ha | h) (ha' | h') hx hy huv
    · obtain rfl := Except.ok.inj (hx.symm.trans hy)
      exact ⟨rfl, List.append_cancel_left huv⟩
    · cases ha
    · cases ha'
    · exact hf.unique h h' hx hy huv

end DirectAction

lemma Delegate.reorders : Spelled.Reorders Delegate.encoding :=
  (DirectAction.reorders.each.between _ _ _).congr fun d => by
    simp only [front, back, encoding, Encoding.sequence, append_assoc]

lemma SignedDelegate.reorders : Spelled.Reorders SignedDelegate.encoding :=
  (Delegate.reorders.between _ _ _).congr fun s => by rw [encoding, empty_append]

lemma SignedDelegate.reorders_tagged :
    Tagged.Reorders fun s => (Action.delegated s).encoding :=
  (SignedDelegate.reorders.between _ _ _).congr fun s => by
    rw [Action.encoding, append_empty, id]

lemma Action.reorders : Spelled.Reorders Action.encoding where
  own a := by
    cases a with
    | direct a =>
      obtain ⟨ls, hls, h⟩ := DirectAction.reorders.own a
      exact ⟨ls, hls, .direct h⟩
    | delegated s =>
      obtain ⟨ls, hls, h⟩ := SignedDelegate.reorders_tagged.own s
      exact ⟨ls, hls, .delegated h⟩
  ascending := by
    rintro a ls e (h | h) hls
    · exact DirectAction.reorders.ascending h hls
    · exact SignedDelegate.reorders_tagged.ascending h hls
  writable := by
    rintro a ls e (h | h) hw
    · exact DirectAction.reorders.writable h hw
    · exact SignedDelegate.reorders_tagged.writable h hw
  unique := by
    rintro a ls ls' e e' x y u v (h | h) h' hx hy huv
    · cases h' with
      | direct h' => exact DirectAction.reorders.unique h h' hx hy huv
    · cases h' with
      | delegated h' => exact SignedDelegate.reorders_tagged.unique h h' hx hy huv

end LedgerClient
