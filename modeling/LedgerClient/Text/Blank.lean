/-!
Characters by their numbers: sets of them given by closed ranges, with which the tables of this
folder are stated, hexadecimal digits, and blanks. `strip` removes blanks from both ends of a text,
`fields` keeps the parts between them. No part is empty and none holds a blank.
-/

namespace LedgerClient.Text

def inRanges (t : List (Nat × Nat)) (c : Nat) : Bool := t.any fun r => r.1 ≤ c && c ≤ r.2

theorem inRanges_iff (t : List (Nat × Nat)) (c : Nat) :
    inRanges t c = true ↔ ∃ r ∈ t, r.1 ≤ c ∧ c ≤ r.2 := by
  simp [inRanges]

/-- The value of a lowercase or uppercase hexadecimal digit. -/
def hexDigit? (c : Char) : Option Nat :=
  if '0' ≤ c ∧ c ≤ '9' then some (c.toNat - 48)
  else if 'a' ≤ c ∧ c ≤ 'f' then some (c.toNat - 87)
  else if 'A' ≤ c ∧ c ≤ 'F' then some (c.toNat - 55)
  else none

/-- Reads hexadecimal digits from the front; other characters count as zero. -/
def hexValue (cs : List Char) : Nat := cs.foldl (fun n c => n * 16 + (hexDigit? c).getD 0) 0

def blankRanges : List (Nat × Nat) :=
  [(0x9, 0xD), (0x1C, 0x20), (0x85, 0x85), (0xA0, 0xA0), (0x1680, 0x1680), (0x2000, 0x200A),
   (0x2028, 0x2029), (0x202F, 0x202F), (0x205F, 0x205F), (0x3000, 0x3000)]

def isBlank (c : Char) : Bool := inRanges blankRanges c.toNat

/-- The blanks of ASCII proper: tab to carriage return, and the space. -/
def isAsciiBlank (c : Char) : Bool := c == ' ' || (9 ≤ c.toNat && c.toNat ≤ 13)

def trimEnd (cs : List Char) : List Char := (cs.reverse.dropWhile isBlank).reverse

def trim (cs : List Char) : List Char := trimEnd (cs.dropWhile isBlank)

def strip (s : String) : String := String.ofList (trim s.toList)

/-- The parts between separators, empty ones included; a text without separators is one part. -/
def splitOn (sep : Char → Bool) : List Char → List (List Char)
  | [] => [[]]
  | c :: r =>
    if sep c then [] :: splitOn sep r
    else match splitOn sep r with
      | [] => [[c]]
      | p :: ps => (c :: p) :: ps

def fields (s : String) : List String :=
  ((splitOn isBlank s.toList).filter (!·.isEmpty)).map String.ofList

theorem splitOn_ne_nil (sep : Char → Bool) (cs : List Char) : splitOn sep cs ≠ [] := by
  cases cs with
  | nil => simp [splitOn]
  | cons c r =>
    rw [splitOn]
    split
    · simp
    · split <;> simp

theorem splitOn_no_sep (sep : Char → Bool) (cs : List Char) :
    ∀ p ∈ splitOn sep cs, ∀ c ∈ p, sep c = false := by
  induction cs with
  | nil => simp [splitOn]
  | cons a r ih =>
    rw [splitOn]
    split
    · rintro p (_ | ⟨_, hp⟩) c hc
      · simp at hc
      · exact ih p hp c hc
    · rename_i ha
      cases hr : splitOn sep r with
      | nil => exact absurd hr (splitOn_ne_nil sep r)
      | cons q qs =>
        rw [hr] at ih
        rintro p (_ | ⟨_, hp⟩) c hc
        · rcases List.mem_cons.1 hc with rfl | hc
          · simpa using ha
          · exact ih q (by simp) c hc
        · exact ih p (List.mem_cons_of_mem _ hp) c hc

end LedgerClient.Text
