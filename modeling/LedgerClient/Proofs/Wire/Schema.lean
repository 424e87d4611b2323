import LedgerClient.Proofs.Text.Numeral
import LedgerClient.Proofs.Wire.Canonical
import LedgerClient.Proofs.Wire.Confined
import LedgerClient.Wire.Schema

/-!
Writing and reading by a schema are inverse to each other. `Schema.Holds` says which values have the
shape of a schema. A written value is read back whatever follows, what is read is what would be
written for it, and on bytes that spell no value the reader stops within them. In an option within
an option the empty value would not say which of the two is empty; `Schema.Separated` rules this
out.

All this is shown of writers and readers that never run out of calls, and then carried over:
`Schema.Strains` says what else may end the reading of bytes by a schema that is nested very much,
or has a size of very many digits.
-/

namespace LedgerClient

open Encoding

namespace Schema

def isOption : Schema → Bool
  | option _ => true
  | _ => false

/-- No option stands right within another. -/
def Separated : Schema → Prop
  | option s => s.isOption = false ∧ s.Separated
  | vec s => s.Separated
  | int _ | bytes | fixed _ | text => True

/-- The values of a shape. Whether a number or a count fits its width is left to the writer. -/
inductive Holds : Schema → Value → Prop
  | int (w : Width) (n : Int) : Holds (int w) (.int n)
  | bytes (bs : Bytes) : Holds bytes (.bytes bs)
  | fixed {n : Int} {bs : Bytes} (h : bs.length = n) : Holds (fixed n) (.bytes bs)
  | text (s : String) : Holds text (.text s)
  | absent (s : Schema) : Holds (option s) .null
  | present {s : Schema} {v : Value} (h : Holds s v) : Holds (option s) v
  | vec {s : Schema} {xs : List Value} (h : ∀ v ∈ xs, Holds s v) : Holds (vec s) (.list xs)

variable {s : Schema} {v : Value} {bs : Bytes} {free : Nat}

/-- Only an option can be empty. -/
lemma Holds.ne_null (h : s.Holds v) (hs : s.isOption = false) : v ≠ .null := by
  cases h with
  | absent | present => cases hs
  | _ => exact Value.noConfusion

/-! ### Writers and readers with calls to spare -/

/-- Writes whatever the nesting. -/
def plainWrite : Schema → Value → Encoding
  | int w => writeInt w
  | bytes => writeCounted
  | fixed _ => writeRaw
  | text => writeText
  | option s => writeOption s.plainWrite
  | vec s => writeVec s.plainWrite

/-- Reads whatever the nesting, and any number of bytes. -/
def plainRead : Schema → Reader Value
  | int w => do return .int (← Reader.int w)
  | bytes => do return .bytes (← Reader.counted)
  | fixed n => do return .bytes (← Reader.take n (Text.intText n ++ " bytes"))
  | text => do return .text (← Reader.text)
  | option s => readOption s.plainRead
  | vec s => readVec s.plainRead

lemma writeInt_int (w : Width) (n : Int) : writeInt w (.int n) =
    if w.fits n then Encoding.int w n else .fail (misfit w n (Value.int n).display) := rfl

lemma writeOption_present {write : Value → Encoding} (h : v ≠ .null) :
    writeOption write v = tag 1 ++ write v := by
  cases v with
  | null => exact absurd rfl h
  | _ => rfl

/-- A number is written by its schema only where it fits, and then as such. -/
lemma int_of_write {w : Width} {n : Int} (h : (writeInt w (.int n)).toBytes = .ok bs) :
    (Encoding.int w n).toBytes = .ok bs := by
  rw [writeInt_int] at h
  split at h
  · exact h
  · cases h

/-! ### Written values are read back -/

lemma reads_plainWrite (hs : s.Separated) (h : s.Holds v)
    (hw : (s.plainWrite v).toBytes = .ok bs) : Reads s.plainRead bs v := by
  induction h generalizing bs with
  | int w n =>
    have hn := int_of_write hw
    have hr := (reads_int hn).map (g := fun k : Nat => Value.int k)
    rwa [Int.toNat_of_nonneg (int_ok hn).1] at hr
  | bytes v => exact (inverts_counted v bs hw).map
  | fixed hlen =>
    obtain rfl := Except.ok.inj hw
    exact (reads_take _ hlen).map
  | text t => exact (inverts_text t bs hw).map
  | absent s =>
    have hw : (tag 0).toBytes = .ok bs := hw
    have hr : Reads (Reader.option s.plainRead) bs none :=
      (reads_tag hw).last (Reads.pure none)
    exact hr.map (g := fun o : Option Value => o.getD .null)
  | @present s v h ih =>
    rw [plainWrite, writeOption_present (h.ne_null hs.1)] at hw
    have hr : Reads (Reader.option s.plainRead) bs (some v) :=
      Reads.andThen hw (fun _ => reads_tag) fun y hy => (ih hs.2 hy).map
    exact hr.map (g := fun o : Option Value => o.getD .null)
  | vec h ih => exact (reads_sequence (fun v hv bs => ih v hv hs) hw).map

/-! ### What is read would be written -/

/-- The elements of a row have the shape, and the row is what is written for all of them. -/
lemma row_write {xs : List Value} {e : Encoding}
    (h : Row (fun v e => s.Holds v ∧ e = s.plainWrite v) xs e) :
    (∀ v ∈ xs, s.Holds v) ∧ e = all s.plainWrite xs := by
  induction h with
  | nil => exact ⟨fun _ hv => absurd hv List.not_mem_nil, rfl⟩
  | cons ha _ ih => exact ⟨List.forall_mem_cons.2 ⟨ha.1, ih.1⟩, by rw [ha.2, ih.2, all]⟩

lemma yields_plainRead (hs : s.Separated) (d : Nat) :
    Yields d (fun v e => s.Holds v ∧ e = s.plainWrite v) s.plainRead := by
  induction s generalizing d with
  | int w =>
    refine (yields_int w).map ?_
    rintro n _ ⟨rfl, hlt⟩
    have hfits : w.fits n = true := by
      simp only [Width.fits, Bool.and_eq_true, decide_eq_true_eq]
      omega
    exact ⟨.int w n, by rw [plainWrite, writeInt_int, if_pos hfits]⟩
  | bytes => exact canonical_counted.last fun bs => ⟨.bytes bs, rfl⟩
  | fixed n =>
    refine (yields_take _ _).map ?_
    rintro bs _ ⟨rfl, hlen⟩
    exact ⟨.fixed hlen, rfl⟩
  | text => exact canonical_text.last fun t => ⟨.text t, rfl⟩
  | option s ih =>
    have hoption : Yields d (fun o e => (option s).Holds (o.getD .null) ∧
        e = (option s).plainWrite (o.getD .null)) (Reader.option s.plainRead) := by
      refine canonical_tag.bind fun n => ?_
      split
      · exact .pure ⟨.absent s, append_empty _⟩
      · refine (ih hs.2 d).map ?_
        rintro v _ ⟨hv, rfl⟩
        exact ⟨.present hv, (writeOption_present (hv.ne_null hs.1)).symm⟩
      · exact .refuse
    exact hoption.map fun _ _ h => h
  | vec s ih =>
    refine ((yields_sequence (ih hs d)).mono (Nat.le_add_right d 4)).map ?_
    rintro xs e ⟨e', hrow, he⟩
    obtain ⟨hxs, hall⟩ := row_write hrow
    exact ⟨.vec hxs, by rw [he, hall]; rfl⟩

/-! ### Where readers stop -/

lemma confined_plainRead (s : Schema) : Confined s.plainRead := by
  induction s with
  | int w => exact (confined_int w).map
  | bytes => exact confined_counted.map
  | fixed n => exact (confined_take n _).map
  | text => exact confined_text.map
  | option s ih => exact (confined_option ih).map
  | vec s ih => exact (confined_sequence ih).map

/-! ### Calls within one another -/

/-- Calls within one another that reading by the schema may take. -/
def calls : Schema → Nat
  | option s => s.calls + 2
  | vec s => s.calls + 3
  | int _ | bytes | fixed _ | text => reserve

/-- No size has too many digits to be written down. -/
def Sizable : Schema → Prop
  | fixed n => Text.isOverlong n = false
  | option s | vec s => s.Sizable
  | int _ | bytes | text => True

/-- What ends the reading by a schema without a fault of the bytes. -/
inductive Strains (free : Nat) (s : Schema) : Error → Prop
  | deep : free < s.calls → Strains free s tooDeep
  | long : ¬ s.Sizable → Strains free s .unwritten

lemma reserve_le_calls (s : Schema) : reserve ≤ s.calls := by
  induction s with
  | option s ih | vec s ih => exact ih.trans (Nat.le_add_right _ _)
  | _ => exact le_rfl

/-- A part of a schema strains at nothing else. -/
lemma Strains.outer {t : Schema} {k : Nat} {x : Error} (h : s.Strains (free - k) x)
    (hc : t.calls = s.calls + k) (hz : t.Sizable → s.Sizable) : t.Strains free x := by
  cases h with
  | deep hd => exact .deep (by omega)
  | long hl => exact .long fun ht => hl (hz ht)

lemma curtails_readOn {r p : Reader Value} (h : Curtails (s.Strains free) r p) :
    Curtails (s.Strains free) (readOn free r) p := by
  rw [readOn]
  split
  · rename_i hfree
    exact .fail (.deep (Nat.lt_of_lt_of_le hfree s.reserve_le_calls)) p
  · exact h

/-- Reading goes as if there were calls to spare, or ends before. -/
lemma curtails_readFrom (s : Schema) (free : Nat) :
    Curtails (s.Strains free) (s.readFrom free) s.plainRead := by
  induction s generalizing free with
  | int w => exact curtails_readOn (.refl _)
  | bytes => exact curtails_readOn (.refl _)
  | text => exact curtails_readOn (.refl _)
  | fixed n =>
    refine curtails_readOn (Curtails.map ?_ (confined_take n _))
    rw [Reader.raw]
    split
    · rename_i hn
      exact .fail (.long fun h => absurd (hn.symm.trans h) (by decide)) _
    · exact .refl _
  | option s ih =>
    have h := (ih (free - 2)).imp (Q := (option s).Strains free) fun x hx => hx.outer rfl id
    exact curtails_readOn ((h.option (confined_plainRead s)).map
      (confined_option (confined_plainRead s)))
  | vec s ih =>
    have h := (ih (free - 3)).imp (Q := (vec s).Strains free) fun x hx => hx.outer rfl id
    exact curtails_readOn ((h.sequence (confined_plainRead s)).map
      (confined_sequence (confined_plainRead s)))

lemma writeOn_toBytes {e : Encoding} (h : (writeOn free e).toBytes = .ok bs) :
    e.toBytes = .ok bs := by
  rw [writeOn] at h
  split at h
  · cases h
  · exact h

lemma all_toBytes {w p : Value → Encoding} {xs : List Value}
    (h : ∀ x ∈ xs, ∀ bs, (w x).toBytes = .ok bs → (p x).toBytes = .ok bs)
    (hb : (all w xs).toBytes = .ok bs) : (all p xs).toBytes = .ok bs := by
  induction xs generalizing bs with
  | nil => exact hb
  | cons x xs ih =>
    obtain ⟨hx, hxs⟩ := List.forall_mem_cons.1 h
    obtain ⟨y, z, hy, hz, rfl⟩ := toBytes_append_ok hb
    exact toBytes_append (hx y hy) (ih hxs hz)

/-- What is written is what would be written with calls to spare. -/
lemma plainWrite_of_writeFrom (h : (s.writeFrom free v).toBytes = .ok bs) :
    (s.plainWrite v).toBytes = .ok bs := by
  induction s generalizing free v bs with
  | int w | bytes | fixed n | text => exact writeOn_toBytes h
  | option s ih =>
    have h := writeOn_toBytes h
    by_cases hv : v = .null
    · subst hv
      exact h
    · rw [writeOption_present hv] at h
      obtain ⟨y, z, hy, hz, rfl⟩ := toBytes_append_ok h
      rw [plainWrite, writeOption_present hv]
      exact toBytes_append hy (ih hz)
  | vec s ih =>
    have h := writeOn_toBytes h
    rw [writeVec] at h
    rw [plainWrite, writeVec]
    split at h
    · obtain ⟨y, z, hy, hz, rfl⟩ := toBytes_append_ok h
      exact toBytes_append hy (all_toBytes (fun x _ bs => ih) hz)
    · exact h

lemma readFrom_of_lt (h : free < reserve) : s.readFrom free = Reader.fail tooDeep := by
  cases s <;> exact if_pos h

lemma readOn_ok {r : Reader Value} {c c' : Cursor} (h : readOn free r c = (.ok v, c')) :
    reserve ≤ free ∧ r c = (.ok v, c') := by
  rw [readOn] at h
  split at h
  · cases h
  · rename_i hfree
    exact ⟨Nat.le_of_not_lt hfree, h⟩

lemma mem_of_times {r : Reader Value} {n : Nat} {xs : List Value} {c c' : Cursor}
    (h : Reader.times r n c = (.ok xs, c')) : ∀ x ∈ xs, ∃ c₁ c₂, r c₁ = (.ok x, c₂) := by
  induction n generalizing xs c with
  | zero =>
    cases h
    simp
  | succ n ih =>
    obtain ⟨a, c₁, ha, h⟩ := Reader.of_bind_ok h
    obtain ⟨l, c₂, hl, h⟩ := Reader.of_bind_ok h
    cases h
    exact List.forall_mem_cons.2 ⟨⟨c, c₁, ha⟩, ih hl⟩

lemma all_congr {w p : Value → Encoding} {xs : List Value} (h : ∀ x ∈ xs, w x = p x) :
    all w xs = all p xs := by
  induction xs with
  | nil => rfl
  | cons x xs ih =>
    obtain ⟨hx, hxs⟩ := List.forall_mem_cons.1 h
    rw [all, all, hx, ih hxs]

/-- Writing takes no more calls than reading: what could be read can be written. -/
lemma writeFrom_of_readFrom {free' : Nat} (hfree : free ≤ free') {c c' : Cursor}
    (h : s.readFrom free c = (.ok v, c')) : s.writeFrom free' v = s.plainWrite v := by
  induction s generalizing free free' c c' v with
  | int w | bytes | fixed n | text =>
    obtain ⟨hr, -⟩ := readOn_ok h
    exact if_neg (by omega)
  | option s ih =>
    obtain ⟨hr, h⟩ := readOn_ok h
    have hon : (option s).writeFrom free' v = writeOption (s.writeFrom (free' - 2)) v :=
      if_neg (by omega)
    obtain ⟨o, c₁, ho, h⟩ := Reader.of_bind_ok h
    obtain ⟨rfl, -⟩ : o.getD .null = v ∧ c₁ = c' := by simpa using h
    rw [hon]
    by_cases hv : o.getD .null = .null
    · rw [hv]
      rfl
    · obtain ⟨n, c₂, -, ho⟩ := Reader.of_bind_ok ho
      split at ho
      · cases ho
        exact absurd rfl hv
      · obtain ⟨v, c₃, hv', ho⟩ := Reader.of_bind_ok ho
        cases ho
        rw [plainWrite, writeOption_present hv, writeOption_present hv]
        exact congrArg _ (ih (by omega) hv')
      · cases ho
  | vec s ih =>
    obtain ⟨hr, h⟩ := readOn_ok h
    have hon : (vec s).writeFrom free' v = writeVec (s.writeFrom (free' - 2)) v :=
      if_neg (by omega)
    obtain ⟨xs, c₁, hxs, h⟩ := Reader.of_bind_ok h
    obtain ⟨rfl, -⟩ : .list xs = v ∧ c₁ = c' := by simpa using h
    obtain ⟨n, c₂, -, htimes⟩ := Reader.of_bind_ok hxs
    rw [hon]
    refine congrArg (Encoding.int .u32 xs.length ++ ·) (all_congr fun x hx => ?_)
    obtain ⟨c₃, c₄, hx⟩ := mem_of_times htimes x hx
    exact ih (by omega) hx

/-- Where nothing strains, what is written is read back. -/
lemma reads_write (hs : s.Separated) (hcalls : s.calls ≤ stackLimit) (hsize : s.Sizable)
    (h : s.Holds v) (hw : (s.write v).toBytes = .ok bs) : Reads s.read bs v := by
  intro size rest
  rcases curtails_readFrom s stackLimit ⟨size, bs ++ rest⟩ with hc | ⟨x, -, -, hx, -⟩
  · exact hc.trans (reads_plainWrite hs h (plainWrite_of_writeFrom hw) size rest)
  · cases hx with
    | deep hd => exact absurd hd (Nat.not_lt.2 hcalls)
    | long hl => exact absurd hsize hl

/-- **Writing and reading by a schema are inverse to each other.** By a schema that the stack has
room for and whose sizes can be written down, what is written of a value is read back from the front
of any bytes, and just this is taken. By any schema, whatever is read is a value of the shape, and
the bytes that were taken are what is written for it. Where reading fails, it is for the encoding,
unless the schema itself asks for too much, and the reader has gone no further than to the end of
the bytes. -/
theorem read_inverts_write (s : Schema) (hs : s.Separated) :
    (s.calls ≤ stackLimit → s.Sizable → ∀ v bs, s.Holds v → (s.write v).toBytes = .ok bs →
      Reads s.read bs v) ∧
    (∀ c c' v, s.read c = (.ok v, c') → s.Holds v ∧ Spells (s.write v) c c') ∧
    ∀ c c' e, s.read c = (.error e, c') →
      (e.OfKind .encoding ∨ stackLimit < s.calls ∧ e = tooDeep ∨ ¬ s.Sizable ∧ e = .unwritten) ∧
      c'.size = c.size ∧ c'.rest <:+ c.rest := by
  have hcurtails := curtails_readFrom s stackLimit
  refine ⟨fun hcalls hsize v bs h hw => reads_write hs hcalls hsize h hw, fun c c' v h => ?_,
    fun c c' e h => ?_⟩
  · rcases hcurtails c with hc | ⟨x, c₁, hc, -⟩
    · obtain ⟨_, ⟨hv, rfl⟩, hspells⟩ := (yields_plainRead hs 0).value (hc.symm.trans h)
      rw [write, writeFrom_of_readFrom le_rfl h]
      exact ⟨hv, hspells⟩
    · cases hc.symm.trans h
  · rcases hcurtails c with hc | ⟨x, c₁, hc, hx, ho⟩
    · have hplain := hc.symm.trans h
      have honward := (confined_plainRead s).onward hplain
      exact ⟨.inl ((confined_plainRead s).fault hplain), honward.size_eq, honward.suffix⟩
    · obtain ⟨rfl, rfl⟩ : x = e ∧ c₁ = c' := by simpa using hc.symm.trans h
      refine ⟨.inr ?_, ho.size_eq, ho.suffix⟩
      cases hx with
      | deep hd => exact .inl ⟨hd, rfl⟩
      | long hl => exact .inr ⟨hl, rfl⟩

/-- Lists of texts, each of which may be missing. -/
def lists : Schema := vec (option (vec text))

def missingAndPair : Value := .list [.null, .list [.text "né", .text ""]]

theorem lists_read_inverts_write : ∃ bs, lists.Separated ∧ lists.calls ≤ stackLimit ∧
    lists.Sizable ∧ lists.Holds missingAndPair ∧
    (lists.write missingAndPair).toBytes = .ok bs ∧ Reads lists.read bs missingAndPair ∧
    lists.read ⟨bs.length, bs⟩ = (.ok missingAndPair, ⟨bs.length, []⟩) ∧
    Spells (lists.write missingAndPair) ⟨bs.length, bs⟩ ⟨bs.length, []⟩ := by
  have hs : lists.Separated := ⟨rfl, trivial⟩
  have hcalls : lists.calls ≤ stackLimit := by decide
  have htexts : (vec text).Holds (.list [.text "né", .text ""]) :=
    .vec (List.forall_mem_cons.2 ⟨.text _, List.forall_mem_singleton.2 (.text _)⟩)
  have hv : lists.Holds missingAndPair :=
    .vec (List.forall_mem_cons.2 ⟨.absent _, List.forall_mem_singleton.2 (.present htexts)⟩)
  have hw : (lists.write missingAndPair).toBytes =
      .ok [2, 0, 0, 0, 0, 1, 2, 0, 0, 0, 3, 0, 0, 0, 110, 195, 169, 0, 0, 0, 0] := rfl
  have hr := (read_inverts_write lists hs).1 hcalls trivial _ _ hv hw
  have hback := hr 21 []
  exact ⟨_, hs, hcalls, trivial, hv, hw, hr, hback,
    ((read_inverts_write lists hs).2.1 _ _ _ hback).2⟩

-- an option within an option: what was read of two bytes is written as one
example : (option (option text)).read ⟨2, [1, 0]⟩ = (.ok .null, ⟨2, []⟩) ∧
    ((option (option text)).write .null).toBytes = .ok [0] := ⟨rfl, rfl⟩

/-! ### Schemas that ask for too much -/

/-- Lists within one another around one number. -/
def pile : Nat → Schema
  | 0 => int .u8
  | n + 1 => vec (pile n)

def pileValue : Nat → Value
  | 0 => .int 0
  | n + 1 => .list [pileValue n]

def pileBytes : Nat → Bytes
  | 0 => [0]
  | n + 1 => [1, 0, 0, 0] ++ pileBytes n

lemma pile_separated (n : Nat) : (pile n).Separated := by
  induction n with
  | zero => trivial
  | succ n ih => exact ih

lemma pile_holds (n : Nat) : (pile n).Holds (pileValue n) := by
  induction n with
  | zero => exact .int .u8 0
  | succ n ih => exact .vec (List.forall_mem_singleton.2 ih)

/-- Writing takes two calls for each list. -/
lemma pile_writeFrom {n : Nat} (h : reserve + 2 * n ≤ free) :
    ((pile n).writeFrom free (pileValue n)).toBytes = .ok (pileBytes n) := by
  induction n generalizing free with
  | zero =>
    have hon : (pile 0).writeFrom free (pileValue 0) = writeInt .u8 (.int 0) :=
      if_neg (by omega)
    rw [hon]
    rfl
  | succ n ih =>
    have hon : (pile (n + 1)).writeFrom free (pileValue (n + 1)) =
        Encoding.int .u32 1 ++ ((pile n).writeFrom (free - 2) (pileValue n) ++ ∅) :=
      if_neg (by omega)
    rw [hon, append_empty]
    exact toBytes_append rfl (ih (by omega))

lemma pile_write {n : Nat} (h : reserve + 2 * n ≤ stackLimit) :
    ((pile n).write (pileValue n)).toBytes = .ok (pileBytes n) := pile_writeFrom h

/-- Reading takes three. -/
lemma failsOn_readFrom_pile {n : Nat} (h : free < reserve + 3 * n) :
    FailsOn ((pile n).readFrom free) (pileBytes n) tooDeep := by
  have hreserve : 0 < reserve := by decide
  induction n generalizing free with
  | zero =>
    rw [readFrom_of_lt h]
    exact fun _ _ => rfl
  | succ n ih =>
    by_cases hfree : free < reserve
    · rw [readFrom_of_lt hfree]
      exact fun _ _ => rfl
    · have hon : (pile (n + 1)).readFrom free = readVec ((pile n).readFrom (free - 3)) :=
        if_neg hfree
      have hcount : Reads (Reader.int .u32) [1, 0, 0, 0] 1 := reads_int (n := 1) rfl
      have hpart : FailsOn ((pile n).readFrom (free - 3)) (pileBytes n) tooDeep := ih (by omega)
      rw [hon]
      exact FailsOn.first (FailsOn.second hcount hpart.first)

lemma failsOn_pile {n : Nat} (h : stackLimit < reserve + 3 * n) :
    FailsOn (pile n).read (pileBytes n) tooDeep := failsOn_readFrom_pile h

lemma read_overlong {n : Int} (h : Text.isOverlong n = true) (c : Cursor) :
    (fixed n).read c = (.error .unwritten, c) := by
  have hroom : ¬ stackLimit < reserve := by decide
  have hraw : Reader.raw n = Reader.fail .unwritten := if_pos h
  rw [read, readFrom, readOn, if_neg hroom, hraw]
  rfl

/-- Bytes are written as the list that they are, and read back as a list of numbers. Lists may be
nested so deeply that they are written and not read back, and a size may have so many digits that
nothing is read. -/
theorem pile_unread :
    ((vec (int .u8)).write (.bytes [97, 98])).toBytes = .ok [2, 0, 0, 0, 97, 98] ∧
    Reads (vec (int .u8)).read [2, 0, 0, 0, 97, 98] (.list [.int 97, .int 98]) ∧
    (pile 400).Separated ∧ (pile 400).Holds (pileValue 400) ∧
    ((pile 400).write (pileValue 400)).toBytes = .ok (pileBytes 400) ∧
    FailsOn (pile 400).read (pileBytes 400) tooDeep ∧ ¬ tooDeep.OfKind .encoding ∧
    (∀ c, (fixed (10 ^ Text.digitLimit)).read c = (.error .unwritten, c)) ∧
    ¬ Error.unwritten.OfKind .encoding := by
  have hpair : (vec (int .u8)).Holds (.list [.int 97, .int 98]) :=
    .vec (List.forall_mem_cons.2 ⟨.int _ _, List.forall_mem_singleton.2 (.int _ _)⟩)
  have hreads : Reads (vec (int .u8)).read [2, 0, 0, 0, 97, 98] (.list [.int 97, .int 98]) :=
    reads_write trivial (by decide) trivial hpair rfl
  exact ⟨rfl, hreads, pile_separated 400, pile_holds 400, pile_write (by decide),
    failsOn_pile (by decide), Error.not_ofKind_host _ _,
    read_overlong (Text.isOverlong_pow le_rfl), Error.not_ofKind_host _ _⟩

end Schema

end LedgerClient
