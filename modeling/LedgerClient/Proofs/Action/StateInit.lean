import LedgerClient.Proofs.Account.Grammar
import LedgerClient.Proofs.Action.RoundTrip
import LedgerClient.Proofs.Wire.Length

/-!
The initial state of an account depends on its code and on the mapping that its data denote, and on
nothing else in the way these were given. So do the binary form and the account's name, which
always is a name of 42 characters.
-/

namespace LedgerClient

open Encoding

/-! ### Names in hexadecimal digits -/

namespace AccountId

/-- A character of names that neither separates nor joins. -/
def isPlainChar (c : Char) : Bool := isNameChar c && !isSeparator c && c != '.'

/-- A single segment that has no separators is a name, if it is not taken for something else. -/
lemma fault?_eq_none_of_plain {s : String} (hmin : 2 ≤ s.toList.length)
    (hmax : s.toList.length < 64) (hstart : startsHex s.toList = false)
    (hplain : ∀ c ∈ s.toList, isPlainChar c = true) : fault? s = none := by
  have hname : ∀ c ∈ s.toList, isNameChar c = true ∧ isSeparator c = false ∧ c ≠ '.' := by
    intro c hc
    have := hplain c hc
    simpa [isPlainChar, and_assoc] using this
  have hne : s.toList ≠ [] := List.ne_nil_of_length_pos (by omega)
  have htight : IsTight s.toList :=
    ⟨_, List.head?_eq_some_head hne, _, List.getLast?_eq_some_getLast hne,
      (hname _ (List.head_mem hne)).2.1, (hname _ (List.getLast_mem hne)).2.1⟩
  have hsegment : IsSegment s.toList := ⟨htight, fun c hc =>
    (isNameChar_iff.1 (hname c hc).1).resolve_right (hname c hc).2.2⟩
  have hstart' : ¬ "0x".toList <+: s.toList := fun h => by simp [startsHex_iff.2 h] at hstart
  refine fault?_eq_none_iff_written.2 (.inl (.name ⟨hmin, hmax.le, hstart', [s.toList], ?_⟩))
  exact ⟨by simp, by simpa using hsegment, List.intercalate_singleton.symm⟩

end AccountId

namespace Hex

lemma length_encode (bs : Bytes) : (encode bs).toList.length = 2 * bs.length := by
  rw [encode, String.toList_ofList]
  induction bs with
  | nil => rfl
  | cons b bs ih =>
    rw [List.flatMap_cons, List.length_append, ih, List.length_cons]
    simp only [Text.hexDigits, List.nil_append, List.length_append, List.length_singleton]
    omega

lemma isPlainChar_of_mem_encode {bs : Bytes} {c : Char} (h : c ∈ (encode bs).toList) :
    AccountId.isPlainChar c = true := by
  have hdigit : ∀ n : Fin 16, AccountId.isPlainChar (Text.hexDigitChar n) = true := by
    decide +kernel
  rw [encode, String.toList_ofList, List.mem_flatMap] at h
  obtain ⟨b, -, h⟩ := h
  simp only [Text.hexDigits, List.nil_append, List.mem_append, List.mem_singleton] at h
  rcases h with rfl | rfl
  · exact hdigit ⟨_, Nat.mod_lt _ (by decide)⟩
  · exact hdigit ⟨_, Nat.mod_lt _ (by decide)⟩

end Hex

/-- Twenty bytes name an account. -/
lemma AccountId.parse_derived {bs : Bytes} (h : bs.length = 20) :
    ∃ a : AccountId, parse ("0s" ++ Hex.encode bs) = .ok a ∧ a.text = "0s" ++ Hex.encode bs ∧
      a.text.length = 42 ∧ a.isNamed = true := by
  have hchars : ("0s" ++ Hex.encode bs).toList = '0' :: 's' :: (Hex.encode bs).toList := by
    rw [String.toList_append]
    rfl
  have hlength : ("0s" ++ Hex.encode bs).toList.length = 42 := by
    rw [hchars, List.length_cons, List.length_cons, Hex.length_encode, h]
  have hstart : startsHex ("0s" ++ Hex.encode bs).toList = false := by
    rw [hchars]
    rfl
  have hvalid : fault? ("0s" ++ Hex.encode bs) = none := by
    refine fault?_eq_none_of_plain (by omega) (by omega) hstart ?_
    rw [hchars]
    refine List.forall_mem_cons.2 ⟨by decide, List.forall_mem_cons.2 ⟨by decide, ?_⟩⟩
    exact fun c hc => Hex.isPlainChar_of_mem_encode hc
  have himplicit : isHexName ("0s" ++ Hex.encode bs).toList = false := by
    rw [isHexName, hlength]
    rfl
  refine ⟨⟨_, hvalid⟩, ?_, rfl, by rw [← String.length_toList, hlength], ?_⟩
  · rcases parse_cases ("0s" ++ Hex.encode bs) with ⟨_, hparse⟩ | ⟨f, hf, -⟩
    · exact hparse
    · cases hvalid.symm.trans hf
  · rw [isNamed, isImplicit, isEvmImplicit, chars, himplicit, hstart]
    rfl

/-! ### Initial states -/

lemma ContractId.writable (i : ContractId) : i.encoding.Writable := by
  cases i with
  | codeHash d => exact writable_append.2 ⟨⟨_, rfl⟩, _, rfl⟩
  | publisher a => exact writable_append.2 ⟨⟨_, rfl⟩, a.writable⟩

namespace StateInit

variable {s : StateInit} {bs : Bytes}

/-- The pairs and the bytes of each one can be counted with four bytes. -/
def Countable (s : StateInit) : Prop :=
  s.data.entries.length < Nat.pow 256 4 ∧
    ∀ p ∈ s.data.entries, p.1.length < Nat.pow 256 4 ∧ p.2.length < Nat.pow 256 4

instance (s : StateInit) : Decidable s.Countable := inferInstanceAs (Decidable (_ ∧ ∀ p ∈ _, _))

lemma toBytes_ok_iff : (∃ bs, s.toBytes = .ok bs) ↔ s.Countable := by
  have hversion : (Encoding.tag 0).Writable := ⟨_, rfl⟩
  change s.encoding.Writable ↔ _
  simp only [encoding, writable_append, hversion, s.code.writable, true_and, writable_sequence,
    pairEncoding, writable_counted, Countable]

lemma account_of_toBytes (h : s.toBytes = .ok bs) : ∃ a, s.account = .ok a ∧
    a.text = "0s" ++ Hex.encode ((Keccak.digest bs).drop 12) ∧ a.text.length = 42 ∧
    a.isNamed = true := by
  have hlength : ((Keccak.digest bs).drop 12).length = 20 := by
    rw [List.length_drop, Keccak.length_digest]
  obtain ⟨a, ha, hname⟩ := AccountId.parse_derived hlength
  exact ⟨a, by rw [account, h]; exact ha, hname⟩

lemma eq_of_toBytes {t : StateInit} (h : s.toBytes = .ok bs) (h' : t.toBytes = .ok bs) : s = t := by
  obtain ⟨heq, -⟩ := (StateInit.inverts s bs h).unique (StateInit.inverts t bs h') (u := []) rfl
  exact heq

/-- **An initial state is its code and the mapping that its data denote.** Whatever pairs the data
are given as (those of a mapping have each key once), the state keeps the last one of each key,
in ascending order. Pairs that denote the same mapping make the same state, with the same binary
form and the same account. The binary form exists exactly where its parts can be counted; then it
is read back as the state, tells the code and the mapping, and leads to a name of 42 characters. -/
theorem determined_by_mapping (code : ContractId) (ps : List (Bytes × Bytes)) :
    let s := StateInit.mk code (.ofPairs ps)
    s.data.entries.Pairwise (fun p q => p.1 < q.1) ∧
    (∀ k v, (k, v) ∈ s.data.entries ↔ ByteMap.lastValue? ps k = some v) ∧
    (∀ qs, (∀ k, ByteMap.lastValue? qs k = ByteMap.lastValue? ps k) →
      let t := StateInit.mk code (.ofPairs qs)
      t = s ∧ t.toBytes = s.toBytes ∧ t.account = s.account) ∧
    ((∃ bs, s.toBytes = .ok bs) ↔ s.Countable) ∧
    ∀ bs, s.toBytes = .ok bs →
      Reads StateInit.read bs s ∧
      (∀ code' qs, StateInit.toBytes ⟨code', .ofPairs qs⟩ = .ok bs →
        code' = code ∧ ∀ k, ByteMap.lastValue? qs k = ByteMap.lastValue? ps k) ∧
      ∃ a, s.account = .ok a ∧ a.text = "0s" ++ Hex.encode ((Keccak.digest bs).drop 12) ∧
        a.text.length = 42 ∧ a.isNamed = true := by
  intro s
  refine ⟨?_, fun k v => ?_, fun qs h => ?_, toBytes_ok_iff, fun bs hbs => ⟨?_, ?_, ?_⟩⟩
  · exact s.data.ascending.imp Bytes.before_iff_lt.1
  · rw [ByteMap.mem_entries_iff, ByteMap.get?_ofPairs]
  · have hmap : ByteMap.ofPairs qs = .ofPairs ps := ByteMap.ofPairs_eq_iff.2 h
    exact ⟨by rw [hmap], by rw [hmap], by rw [hmap]⟩
  · exact StateInit.inverts s bs hbs
  · intro code' qs h
    obtain ⟨hcode, hdata⟩ := StateInit.mk.inj (eq_of_toBytes h hbs)
    exact ⟨hcode, ByteMap.ofPairs_eq_iff.1 hdata⟩
  · exact account_of_toBytes hbs

/-- Gives the key `2` a value that a later pair replaces. -/
def rewrittenPairs : List (Bytes × Bytes) := [([2], [1]), ([1], [7]), ([2], [9])]

/-- Gives each key its last value, in another order. -/
def settledPairs : List (Bytes × Bytes) := [([2], [9]), ([1], [7])]

theorem rewritten_settled :
    let code : ContractId := .publisher ⟨"founder.test", by decide +kernel⟩
    let s := StateInit.mk code (.ofPairs rewrittenPairs)
    let t := StateInit.mk code (.ofPairs settledPairs)
    t = s ∧ ∃ bs, t.toBytes = .ok bs ∧ s.toBytes = .ok bs ∧ Reads StateInit.read bs s ∧
      ∃ a, s.account = .ok a ∧ a.text.length = 42 ∧ a.isNamed = true := by
  intro code s t
  obtain ⟨-, -, hsame, hcountable, hbytes⟩ := determined_by_mapping code rewrittenPairs
  have hlast : ∀ k, ByteMap.lastValue? settledPairs k = ByteMap.lastValue? rewrittenPairs k := by
    intro k
    simp only [ByteMap.lastValue?, settledPairs, rewrittenPairs, List.reverse_cons,
      List.reverse_nil, List.nil_append, List.cons_append, ByteMap.lookup_cons_ite]
    grind
  obtain ⟨hts, htoBytes, -⟩ := hsame settledPairs hlast
  obtain ⟨bs, hbs⟩ := hcountable.2 (by decide +kernel : s.Countable)
  obtain ⟨hreads, -, a, ha, -, hlength, hnamed⟩ := hbytes bs hbs
  exact ⟨hts, bs, htoBytes.trans hbs, hbs, hreads, a, ha, hlength, hnamed⟩

end StateInit

end LedgerClient
