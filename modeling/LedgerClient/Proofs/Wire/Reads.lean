import LedgerClient.Wire.Reader
import Mathlib.Tactic.Common

/-!
Readers that take back what was written. `Reads r bs a` says that `r` takes exactly `bs` off the
front of any buffer, whatever follows, and returns `a`; readers put together by `bind` take the
concatenation. `Inverts` ties a reader to a writer, and `FailsOn` says of bytes that they are
refused, whatever follows.
-/

namespace LedgerClient

open Encoding

variable {α β : Type}

/-- The reader takes exactly these bytes, whatever stands behind them. -/
def Reads (r : Reader α) (bs : Bytes) (a : α) : Prop :=
  ∀ size rest, r ⟨size, bs ++ rest⟩ = (.ok a, ⟨size, rest⟩)

/-- What the writer writes without a fault, the reader reads back. -/
def Inverts (r : Reader α) (w : α → Encoding) : Prop :=
  ∀ a bs, (w a).toBytes = .ok bs → Reads r bs a

/-- What a result is made from, where there is one. -/
lemma of_map_ok {x : Except Error α} {f : α → β} {b : β} (h : x.map f = .ok b) :
    ∃ a, x = .ok a ∧ f a = b := by
  cases x with
  | error e => cases h
  | ok a => exact ⟨a, rfl, Except.ok.inj h⟩

/-- What comes out of two steps, has come out of each. -/
lemma of_bind_ok {x : Except Error α} {f : α → Except Error β} {b : β} (h : x >>= f = .ok b) :
    ∃ a, x = .ok a ∧ f a = .ok b := by
  cases x with
  | error e => cases h
  | ok a => exact ⟨a, rfl, h⟩

/-! ### Written bytes -/

namespace Encoding

@[simp] lemma toBytes_ofBytes (bs : Bytes) : (ofBytes bs).toBytes = .ok bs := rfl

lemma toBytes_append {a b : Encoding} {x y : Bytes} (ha : a.toBytes = .ok x)
    (hb : b.toBytes = .ok y) : (a ++ b).toBytes = .ok (x ++ y) := by
  obtain ⟨u, _ | f⟩ := a
  · obtain ⟨v, _ | g⟩ := b
    · simp only [toBytes, Except.ok.injEq] at ha hb
      simp [append, toBytes, ha, hb]
    · simp [toBytes] at hb
  · simp [toBytes] at ha

/-- A number is written only where it fits, in as many bytes as its width says. -/
lemma int_ok {w : Width} {n : Int} {bs : Bytes} (h : (int w n).toBytes = .ok bs) :
    0 ≤ n ∧ n < Nat.pow 256 w.size ∧ bs = Bytes.ofNatLE w.size n.toNat := by
  rw [int] at h
  split at h
  · rename_i hf
    simp only [Width.fits, Bool.and_eq_true, decide_eq_true_eq] at hf
    simp only [toBytes_ofBytes, Except.ok.injEq] at h
    exact ⟨hf.1, hf.2, h.symm⟩
  · simp [fail, toBytes] at h

@[simp] lemma append_empty (a : Encoding) : a ++ ∅ = a := by
  obtain ⟨x, _ | f⟩ := a
  · simp [append, EmptyCollection.emptyCollection, ofBytes]
  · simp [append]

lemma int_toBytes {w : Width} {n : Nat} (h : n < Nat.pow 256 w.size) :
    (int w n).toBytes = .ok (Bytes.ofNatLE w.size n) := by
  have hf : w.fits n = true := by
    simp only [Width.fits, Bool.and_eq_true, decide_eq_true_eq]
    omega
  rw [int, if_pos hf]
  rfl

end Encoding

/-! ### Readers put together -/

namespace Reads

variable {r : Reader α} {f : α → Reader β} {a : α} {b : β} {x y bs : Bytes}

lemma pure (a : α) : Reads (Pure.pure a) [] a := fun _ _ => rfl

lemma bind (h : Reads r x a) (k : Reads (f a) y b) : Reads (r >>= f) (x ++ y) b := by
  intro size rest
  rw [List.append_assoc, Reader.bind_ok (h size (y ++ rest))]
  exact k size rest

/-- What was written in two parts is read in two parts. -/
lemma andThen {v w : Encoding} (h : (v ++ w).toBytes = .ok bs)
    (hr : ∀ x, v.toBytes = .ok x → Reads r x a) (hk : ∀ y, w.toBytes = .ok y → Reads (f a) y b) :
    Reads (r >>= f) bs b := by
  obtain ⟨x, y, hx, hy, rfl⟩ := toBytes_append_ok h
  exact (hr x hx).bind (hk y hy)

lemma lift {e : Except Error α} (h : e = .ok a) : Reads (Reader.lift e) [] a := by
  intro size rest
  rw [h]
  rfl

/-- A reader followed by a step that takes no bytes. -/
lemma last (h : Reads r bs a) (k : Reads (f a) [] b) : Reads (r >>= f) bs b := by
  have := h.bind k
  rwa [List.append_nil] at this

lemma map {g : α → β} (h : Reads r bs a) :
    Reads (do return g (← r)) bs (g a) := h.last (Reads.pure (g a))

/-- What a reader takes and returns follows from the bytes. -/
lemma unique {b : α} {u v : Bytes} (h : Reads r x a) (g : Reads r y b) (huv : x ++ u = y ++ v) :
    a = b ∧ u = v := by
  have hu := h 0 u
  rw [huv, g 0 v] at hu
  obtain ⟨hb, hv⟩ : b = a ∧ v = u := by simpa using hu
  exact ⟨hb.symm, hv.symm⟩

/-- A whole buffer holds one value and nothing behind it. -/
theorem whole (h : Reads r bs a) : Reader.whole r bs = .ok a := by
  have hr : r (Cursor.ofBytes bs) = (.ok a, ⟨bs.length, []⟩) := by
    have := h bs.length []
    rwa [List.append_nil] at this
  rw [Reader.whole, Reader.bind_ok hr]
  rfl

end Reads

/-! ### Bytes that are refused -/

/-- Whatever stands behind these bytes, the reader ends on them with this error. -/
def FailsOn (r : Reader α) (bs : Bytes) (x : Error) : Prop :=
  ∀ size rest, (r ⟨size, bs ++ rest⟩).1 = .error x

namespace FailsOn

variable {r : Reader α} {f : α → Reader β} {bs : Bytes} {x : Error}

lemma first (h : FailsOn r bs x) : FailsOn (r >>= f) bs x := by
  intro size rest
  have hr := h size rest
  rcases hc : r ⟨size, bs ++ rest⟩ with ⟨z, c⟩
  rw [hc] at hr
  obtain rfl : z = .error x := hr
  rw [Reader.bind_error hc]

lemma second {a : α} {y : Bytes} (h : Reads r bs a) (k : FailsOn (f a) y x) :
    FailsOn (r >>= f) (bs ++ y) x := by
  intro size rest
  rw [List.append_assoc, Reader.bind_ok (h size (y ++ rest))]
  exact k size rest

lemma append (h : FailsOn r bs x) (y : Bytes) : FailsOn r (bs ++ y) x := by
  intro size rest
  rw [List.append_assoc]
  exact h size (y ++ rest)

/-- The first part of what was written is read, and the second one is not. -/
lemma andThen {a : α} {v w : Encoding} (h : (v ++ w).toBytes = .ok bs)
    (hr : ∀ y, v.toBytes = .ok y → Reads r y a) (hk : ∀ y, w.toBytes = .ok y → FailsOn (f a) y x) :
    FailsOn (r >>= f) bs x := by
  obtain ⟨y, z, hy, hz, rfl⟩ := toBytes_append_ok h
  exact second (hr y hy) (hk z hz)

theorem whole (h : FailsOn r bs x) : Reader.whole r bs = .error x := by
  have hr := h.first (f := fun a => (do Reader.expectEnd; return a : Reader α)) bs.length []
  rwa [List.append_nil] at hr

end FailsOn

/-! ### Primitives -/

lemma reads_take {n : Int} {bs : Bytes} (what : String) (h : bs.length = n) :
    Reads (Reader.take n what) bs bs := by
  intro size rest
  have hn : n.toNat = bs.length := by omega
  rw [Reader.take, if_neg (by simp only [List.length_append]; omega), hn]
  simp

lemma reads_int {w : Width} {n : Int} {bs : Bytes} (h : (int w n).toBytes = .ok bs) :
    Reads (Reader.int w) bs n.toNat := by
  obtain ⟨h0, hlt, rfl⟩ := int_ok h
  have hv : Bytes.toNatLE (Bytes.ofNatLE w.size n.toNat) = n.toNat := by
    rw [Bytes.toNatLE_ofNatLE, Nat.mod_eq_of_lt (by omega)]
  have ht := reads_take (n := w.size) w.name (congrArg _ (Bytes.length_ofNatLE w.size n.toNat))
  have hm := ht.map (g := Bytes.toNatLE)
  rwa [hv] at hm

lemma reads_tag {n : Nat} {bs : Bytes} (h : (tag n).toBytes = .ok bs) : Reads Reader.tag bs n :=
  reads_int h

lemma raw_eq {n : Int} (h : Text.isOverlong n = false) :
    Reader.raw n = Reader.take n (Text.intText n ++ " bytes") := by
  rw [Reader.raw, h]
  rfl

lemma reads_raw {n : Nat} {bs : Bytes} (hn : Text.isOverlong n = false) (h : bs.length = n) :
    Reads (Reader.raw n) bs bs := by
  rw [raw_eq hn]
  exact reads_take _ (congrArg _ h)

lemma inverts_counted : Inverts Reader.counted counted := by
  intro v bs h
  refine Reads.andThen h (fun _ => reads_int) fun y hy => ?_
  obtain rfl : v = y := by simpa using hy
  exact reads_take _ rfl

lemma inverts_text : Inverts Reader.text text := by
  intro s bs h
  refine (inverts_counted _ _ h).last ?_
  rw [Utf8.decode_encode]
  exact Reads.pure s

lemma inverts_option {r : Reader α} {w : α → Encoding} (h : Inverts r w) :
    Inverts (Reader.option r) (option w) := by
  intro o bs ho
  cases o with
  | none => exact (reads_tag ho).last (Reads.pure none)
  | some a =>
    exact Reads.andThen ho (fun _ => reads_tag) fun y hy => (h a y hy).map

/-- As many elements as were written. -/
lemma reads_times {r : Reader α} {w : α → Encoding} :
    ∀ {xs : List α} {bs : Bytes}, (∀ a ∈ xs, ∀ bs, (w a).toBytes = .ok bs → Reads r bs a) →
      (all w xs).toBytes = .ok bs → Reads (Reader.times r xs.length) bs xs := by
  intro xs
  induction xs with
  | nil =>
    intro bs _ h
    cases h
    exact Reads.pure []
  | cons a l ih =>
    intro bs hr h
    refine Reads.andThen h (hr a List.mem_cons_self) fun y hy => ?_
    exact (ih (fun b hb => hr b (List.mem_cons_of_mem _ hb)) hy).map

lemma reads_sequence {r : Reader α} {w : α → Encoding} {xs : List α} {bs : Bytes}
    (hr : ∀ a ∈ xs, ∀ bs, (w a).toBytes = .ok bs → Reads r bs a)
    (h : (sequence w xs).toBytes = .ok bs) : Reads (Reader.sequence r) bs xs :=
  Reads.andThen h (fun _ => reads_int) fun _ => reads_times hr

lemma inverts_sequence {r : Reader α} {w : α → Encoding} (h : Inverts r w) :
    Inverts (Reader.sequence r) (sequence w) :=
  fun _ _ hs => reads_sequence (fun a _ => h a) hs

end LedgerClient
