import LedgerClient.Text.Numeral

/-!
Nonces for signing, one line of them per account and key. The cache holds the next nonce of each
line; a line that it does not hold is asked of the ledger first. Every operation is one
indivisible step, and between the two steps of a call others may run.
-/

namespace LedgerClient

structure NonceCache where
  entries : List (String × Int)

namespace NonceCache

def empty : NonceCache := ⟨[]⟩

/-- The line of nonces for an account and a key. -/
def line (account key : String) : String := account ++ ":" ++ key

def next? (c : NonceCache) (l : String) : Option Int := c.entries.lookup l

def has (c : NonceCache) (l : String) : Bool := (c.next? l).isSome

def forget (c : NonceCache) (l : String) : NonceCache := ⟨c.entries.filter (·.1 != l)⟩

/-- Hands out a nonce, so that its successor is the next one. -/
def issue (c : NonceCache) (l : String) (n : Int) : Int × NonceCache :=
  (n, ⟨(l, n + 1) :: (c.forget l).entries⟩)

/-- The first step of a call: a nonce, where the line is known. -/
def take (c : NonceCache) (l : String) : Option Int × NonceCache :=
  match c.next? l with
  | some n =>
    let (m, c') := c.issue l (max n 0)
    (some m, c')
  | none => (none, c)

/-- The second step of a call, with what the ledger answered. Others may have made the line known
in between. -/
def settle (c : NonceCache) (l : String) (fetched : Int) : Int × NonceCache :=
  match c.next? l with
  | some n => c.issue l (max n (fetched + 1))
  | none => c.issue l (fetched + 1)

/-- A nonce above the one that a rejection named, and above all that were handed out. Going on to a
nonce is put on record first, so that one which is too long for that is not handed out. -/
def reconcile (c : NonceCache) (l : String) (authoritative : Int) : Option Int × NonceCache :=
  let candidate := authoritative + 1
  if (c.next? l).all (· < candidate) then
    if Text.isOverlong candidate then (none, c)
    else
      let (m, c') := c.issue l candidate
      (some m, c')
  else c.take l

theorem next?_forget_self (c : NonceCache) (l : String) : (c.forget l).next? l = none := by
  simp only [next?, forget, List.lookup_eq_none_iff]
  intro p hp
  have h := (List.mem_filter.1 hp).2
  simpa [bne, BEq.comm] using h

theorem next?_issue_self (c : NonceCache) (l : String) (n : Int) :
    (c.issue l n).2.next? l = some (n + 1) := by
  simp [issue, next?]

/-- One step of one of several calls that share a cache. -/
inductive Step where
  | take (line : String)
  | settle (line : String) (fetched : Int)
  | reconcile (line : String) (authoritative : Int)
  | forget (line : String)
  | clear

/-- The nonce that a step hands out, if any, and the cache behind it. -/
def run (c : NonceCache) : Step → Option Int × NonceCache
  | .take l => c.take l
  | .settle l n => let (m, c') := c.settle l n; (some m, c')
  | .reconcile l n => c.reconcile l n
  | .forget l => (none, c.forget l)
  | .clear => (none, empty)

end NonceCache

end LedgerClient
