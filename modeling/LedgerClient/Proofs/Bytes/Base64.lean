import LedgerClient.Wire.Reader
import Mathlib.Tactic.Common

/-!
Base 64 text gives back the bytes it was made of. Where it has to be exact, no other text does, but
for the bits of the last digit that belong to no byte.
-/

namespace LedgerClient.Base64

/-- The characters of the alphabet stand for their places in it, and `=` is none of them. -/
lemma sextetChar_spec (n : Nat) (h : n < 64) :
    sextet? (sextetChar n) = some n ∧ sextetChar n ≠ '=' ∧ (sextetChar n).toNat < 128 := by
  have hall : ∀ m : Fin 64, sextet? (sextetChar m) = some m.val ∧ sextetChar m ≠ '=' ∧
      (sextetChar m).toNat < 128 := by
    decide +kernel
  exact hall ⟨n, h⟩

section Group

variable {n : Nat} (h : n < 64) (pads bits : Nat) (r : List Char)
include h

lemma decodeFrom_sextet (group : Nat) :
    decodeFrom group pads bits (sextetChar n :: r) = match group with
      | 0 => decodeFrom 1 0 n r
      | 1 => (decodeFrom 2 0 (n % 16) r).map (UInt8.ofNat (bits * 4 + n / 16) :: ·)
      | 2 => (decodeFrom 3 0 (n % 4) r).map (UInt8.ofNat (bits * 16 + n / 4) :: ·)
      | _ => (decodeFrom 0 0 0 r).map (UInt8.ofNat (bits * 64 + n) :: ·) := by
  obtain ⟨hs, he, -⟩ := sextetChar_spec n h
  match group with
  | 0 | 1 | 2 | _ + 3 => simp only [decodeFrom.eq_3 _ _ _ _ _ he, hs]

lemma decodeFrom_first : decodeFrom 0 pads bits (sextetChar n :: r) = decodeFrom 1 0 n r :=
  decodeFrom_sextet h pads bits r 0

lemma decodeFrom_second : decodeFrom 1 pads bits (sextetChar n :: r) =
    (decodeFrom 2 0 (n % 16) r).map (UInt8.ofNat (bits * 4 + n / 16) :: ·) :=
  decodeFrom_sextet h pads bits r 1

lemma decodeFrom_third : decodeFrom 2 pads bits (sextetChar n :: r) =
    (decodeFrom 3 0 (n % 4) r).map (UInt8.ofNat (bits * 16 + n / 4) :: ·) :=
  decodeFrom_sextet h pads bits r 2

lemma decodeFrom_fourth : decodeFrom 3 pads bits (sextetChar n :: r) =
    (decodeFrom 0 0 0 r).map (UInt8.ofNat (bits * 64 + n) :: ·) :=
  decodeFrom_sextet h pads bits r 3

end Group

lemma ofNat_of_eq {n : Nat} {b : UInt8} (h : n = b.toNat) : UInt8.ofNat n = b := by
  rw [h, UInt8.ofNat_toNat]

lemma decodeFrom_encodeChars (bs : Bytes) : decodeFrom 0 0 0 (encodeChars bs) = .ok bs := by
  fun_induction encodeChars bs with
  | case1 => rfl
  | case2 a n =>
    have ha : a.toNat < 256 := a.toNat_lt
    rw [decodeFrom_first (by omega), decodeFrom_second (by omega)]
    have h1 : UInt8.ofNat (n / 64 * 4 + n % 64 / 16) = a := ofNat_of_eq (by omega)
    rw [h1]
    rfl
  | case3 a b n =>
    have ha : a.toNat < 256 := a.toNat_lt
    have hb : b.toNat < 256 := b.toNat_lt
    rw [decodeFrom_first (by omega), decodeFrom_second (by omega), decodeFrom_third (by omega)]
    have h1 : UInt8.ofNat (n / 4096 * 4 + n / 64 % 64 / 16) = a := ofNat_of_eq (by omega)
    have h2 : UInt8.ofNat (n / 64 % 64 % 16 * 16 + n % 64 / 4) = b := ofNat_of_eq (by omega)
    rw [h1, h2]
    rfl
  | case4 a b c r n ih =>
    have ha : a.toNat < 256 := a.toNat_lt
    have hb : b.toNat < 256 := b.toNat_lt
    have hc : c.toNat < 256 := c.toNat_lt
    rw [decodeFrom_first (by omega), decodeFrom_second (by omega), decodeFrom_third (by omega),
      decodeFrom_fourth (by omega)]
    have h1 : UInt8.ofNat (n / 262144 * 4 + n / 4096 % 64 / 16) = a := ofNat_of_eq (by omega)
    have h2 : UInt8.ofNat (n / 4096 % 64 % 16 * 16 + n / 64 % 64 / 4) = b :=
      ofNat_of_eq (by omega)
    have h3 : UInt8.ofNat (n / 64 % 64 % 4 * 64 + n % 64) = c := ofNat_of_eq (by omega)
    rw [h1, h2, h3, ih]
    rfl

lemma ascii_encodeChars (bs : Bytes) : ∀ c ∈ encodeChars bs, c.toNat < 128 := by
  have hs : ∀ n < 64, (sextetChar n).toNat < 128 := fun n h => (sextetChar_spec n h).2.2
  have he : '='.toNat < 128 := by decide
  fun_induction encodeChars bs with
  | case1 => simp
  | case2 a n =>
    have ha : a.toNat < 256 := a.toNat_lt
    simp only [List.mem_cons, List.not_mem_nil, or_false, forall_eq_or_imp, forall_eq]
    exact ⟨hs _ (by omega), hs _ (by omega), he, he⟩
  | case3 a b n =>
    have ha : a.toNat < 256 := a.toNat_lt
    have hb : b.toNat < 256 := b.toNat_lt
    simp only [List.mem_cons, List.not_mem_nil, or_false, forall_eq_or_imp, forall_eq]
    exact ⟨hs _ (by omega), hs _ (by omega), hs _ (by omega), he⟩
  | case4 a b c r n ih =>
    have ha : a.toNat < 256 := a.toNat_lt
    have hb : b.toNat < 256 := b.toNat_lt
    have hc : c.toNat < 256 := c.toNat_lt
    simp only [List.mem_cons, forall_eq_or_imp]
    exact ⟨hs _ (by omega), hs _ (by omega), hs _ (by omega), hs _ (by omega), ih⟩

theorem decode_encode (bs : Bytes) : decode (encode bs) = .ok bs := by
  have ha : (encodeChars bs).all (·.toNat < 128) = true := by
    simpa using ascii_encodeChars bs
  rw [decode, encode, String.toList_ofList, if_pos ha, decodeFrom_encodeChars]

lemma bytes_encode (bs : Bytes) : bytes (encode bs) = .ok bs := by
  rw [bytes, decode_encode, Except.mapError]

/-! ### Whole groups -/

section Group

variable {x y z w : Nat} (hx : x < 64) (hy : y < 64)
include hx hy

lemma lastGroup_one :
    lastGroup? (sextetChar x) (sextetChar y) '=' '=' = some [UInt8.ofNat (x * 4 + y / 16)] := by
  simp [lastGroup?, (sextetChar_spec x hx).1, (sextetChar_spec y hy).1]

variable (hz : z < 64)
include hz

lemma lastGroup_two : lastGroup? (sextetChar x) (sextetChar y) (sextetChar z) '=' =
    some [UInt8.ofNat (x * 4 + y / 16), UInt8.ofNat (y % 16 * 16 + z / 4)] := by
  obtain ⟨hs, he, -⟩ := sextetChar_spec z hz
  simp [lastGroup?, (sextetChar_spec x hx).1, (sextetChar_spec y hy).1, hs, he]

variable (hw : w < 64)
include hw

/-- A group without padding, at the end or before another one. -/
lemma decodeExactChars_group (r : List Char) :
    decodeExactChars (sextetChar x :: sextetChar y :: sextetChar z :: sextetChar w :: r) =
      (decodeExactChars r).map fun bs => UInt8.ofNat (x * 4 + y / 16)
        :: UInt8.ofNat (y % 16 * 16 + z / 4) :: UInt8.ofNat (z % 4 * 64 + w) :: bs := by
  obtain ⟨hsx, -, -⟩ := sextetChar_spec x hx
  obtain ⟨hsy, -, -⟩ := sextetChar_spec y hy
  obtain ⟨hsz, hez, -⟩ := sextetChar_spec z hz
  obtain ⟨hsw, hew, -⟩ := sextetChar_spec w hw
  cases r with
  | nil => simp [decodeExactChars, lastGroup?, hsx, hsy, hsz, hsw, hez, hew]
  | cons c r =>
    simp only [decodeExactChars, hsx, hsy, hsz, hsw, bind, Option.bind]
    cases decodeExactChars (c :: r) <;> rfl

end Group

section Bytes

variable {a b : UInt8} {n : Nat} (hn : n < 64)
include hn

/-- One byte, whatever stands in the lowest bits of the second digit. -/
lemma lastGroup_byte (h : a.toNat * 16 % 64 / 16 = n / 16) :
    lastGroup? (sextetChar (a.toNat * 16 / 64)) (sextetChar n) '=' '=' = some [a] := by
  have ha : a.toNat < 256 := a.toNat_lt
  have h1 : UInt8.ofNat (a.toNat * 16 / 64 * 4 + n / 16) = a := ofNat_of_eq (by omega)
  rw [lastGroup_one (by omega) hn, h1]

lemma lastGroup_bytes (h : (a.toNat * 256 + b.toNat) * 4 % 64 / 4 = n / 4) :
    lastGroup? (sextetChar ((a.toNat * 256 + b.toNat) * 4 / 4096))
      (sextetChar ((a.toNat * 256 + b.toNat) * 4 / 64 % 64)) (sextetChar n) '=' = some [a, b] := by
  have ha : a.toNat < 256 := a.toNat_lt
  have hb : b.toNat < 256 := b.toNat_lt
  generalize hv : (a.toNat * 256 + b.toNat) * 4 = v at h
  have h1 : UInt8.ofNat (v / 4096 * 4 + v / 64 % 64 / 16) = a := ofNat_of_eq (by omega)
  have h2 : UInt8.ofNat (v / 64 % 64 % 16 * 16 + n / 4) = b := ofNat_of_eq (by omega)
  rw [lastGroup_two (by omega) (by omega) hn, h1, h2]

end Bytes

lemma decodeExactChars_bytes {a b c : UInt8} {v : Nat}
    (hv : v = (a.toNat * 256 + b.toNat) * 256 + c.toNat) (t : List Char) :
    decodeExactChars (sextetChar (v / 262144) :: sextetChar (v / 4096 % 64)
        :: sextetChar (v / 64 % 64) :: sextetChar (v % 64) :: t) =
      (decodeExactChars t).map fun bs => a :: b :: c :: bs := by
  have ha : a.toNat < 256 := a.toNat_lt
  have hb : b.toNat < 256 := b.toNat_lt
  have hc : c.toNat < 256 := c.toNat_lt
  have h1 : UInt8.ofNat (v / 262144 * 4 + v / 4096 % 64 / 16) = a := ofNat_of_eq (by omega)
  have h2 : UInt8.ofNat (v / 4096 % 64 % 16 * 16 + v / 64 % 64 / 4) = b := ofNat_of_eq (by omega)
  have h3 : UInt8.ofNat (v / 64 % 64 % 4 * 64 + v % 64) = c := ofNat_of_eq (by omega)
  rw [decodeExactChars_group (by omega) (by omega) (by omega) (by omega), h1, h2, h3]

lemma decodeExactChars_encodeChars (bs : Bytes) :
    decodeExactChars (encodeChars bs) = some bs := by
  fun_induction encodeChars bs with
  | case1 => rfl
  | case2 a => exact lastGroup_byte (Nat.mod_lt _ (by decide)) rfl
  | case3 a b => exact lastGroup_bytes (Nat.mod_lt _ (by decide)) rfl
  | case4 a b c r n ih => rw [decodeExactChars_bytes rfl, ih, Option.map_some]

theorem decodeExact_encode (bs : Bytes) : decodeExact? (encode bs) = some bs := by
  rw [decodeExact?, encode, String.toList_ofList, decodeExactChars_encodeChars]

/-! ### Every text that is accepted -/

/-- Two digits that agree apart from their lowest bits. -/
def Agree (unused : Nat) (c d : Char) : Prop :=
  ∃ x y, sextet? c = some x ∧ sextet? d = some y ∧ x >>> unused = y >>> unused

/-- The text of the bytes, in which the last digit may have any bits in the places that belong to
no byte: two places for each `=` that follows. -/
inductive Spells (bs : Bytes) : List Char → Prop
  | exactly : Spells bs (encodeChars bs)
  | loosely {front : List Char} {c d : Char} {pads : Nat} :
    encodeChars bs = front ++ c :: List.replicate pads '=' → Agree (2 * pads) c d →
    Spells bs (front ++ d :: List.replicate pads '=')

lemma sextetChar_of_sextet? {c : Char} {n : Nat} (h : sextet? c = some n) :
    n < 64 ∧ sextetChar n = c := by
  have hall : ∀ m : Fin 128, ∀ k ∈ sextet? (Char.ofNat m),
      k < 64 ∧ sextetChar k = Char.ofNat m := by
    decide +kernel
  have hc : c.toNat < 128 := by
    simp only [sextet?] at h
    split_ifs at h <;> omega
  have := hall ⟨c.toNat, hc⟩ n
  rw [Char.ofNat_toNat] at this
  exact this h

section Group

variable {x y z w : Nat} (hx : x < 64) (hy : y < 64)
include hx hy

lemma encodeChars_one : encodeChars [UInt8.ofNat (x * 4 + y / 16)] =
    [sextetChar x] ++ sextetChar (y / 16 * 16) :: List.replicate 2 '=' := by
  have hb : (UInt8.ofNat (x * 4 + y / 16)).toNat = x * 4 + y / 16 :=
    UInt8.toNat_ofNat_of_lt' (by omega : _ < 256)
  have h1 : (x * 4 + y / 16) * 16 / 64 = x := by omega
  have h2 : (x * 4 + y / 16) * 16 % 64 = y / 16 * 16 := by omega
  simp only [encodeChars, hb, h1, h2]
  rfl

variable (hz : z < 64)
include hz

lemma encodeChars_two :
    encodeChars [UInt8.ofNat (x * 4 + y / 16), UInt8.ofNat (y % 16 * 16 + z / 4)] =
    [sextetChar x, sextetChar y] ++ sextetChar (z / 4 * 4) :: List.replicate 1 '=' := by
  have hb : (UInt8.ofNat (x * 4 + y / 16)).toNat = x * 4 + y / 16 :=
    UInt8.toNat_ofNat_of_lt' (by omega : _ < 256)
  have hb' : (UInt8.ofNat (y % 16 * 16 + z / 4)).toNat = y % 16 * 16 + z / 4 :=
    UInt8.toNat_ofNat_of_lt' (by omega : _ < 256)
  generalize hn : ((x * 4 + y / 16) * 256 + (y % 16 * 16 + z / 4)) * 4 = n
  have h1 : n / 4096 = x := by omega
  have h2 : n / 64 % 64 = y := by omega
  have h3 : n % 64 = z / 4 * 4 := by omega
  simp only [encodeChars, hb, hb', hn, h1, h2, h3]
  rfl

variable (hw : w < 64)
include hw

lemma encodeChars_group (r : Bytes) :
    encodeChars (UInt8.ofNat (x * 4 + y / 16) :: UInt8.ofNat (y % 16 * 16 + z / 4)
      :: UInt8.ofNat (z % 4 * 64 + w) :: r) =
      [sextetChar x, sextetChar y, sextetChar z, sextetChar w] ++ encodeChars r := by
  have hb : (UInt8.ofNat (x * 4 + y / 16)).toNat = x * 4 + y / 16 :=
    UInt8.toNat_ofNat_of_lt' (by omega : _ < 256)
  have hb' : (UInt8.ofNat (y % 16 * 16 + z / 4)).toNat = y % 16 * 16 + z / 4 :=
    UInt8.toNat_ofNat_of_lt' (by omega : _ < 256)
  have hb'' : (UInt8.ofNat (z % 4 * 64 + w)).toNat = z % 4 * 64 + w :=
    UInt8.toNat_ofNat_of_lt' (by omega : _ < 256)
  generalize hn : ((x * 4 + y / 16) * 256 + (y % 16 * 16 + z / 4)) * 256 + (z % 4 * 64 + w) = n
  have h1 : n / 262144 = x := by omega
  have h2 : n / 4096 % 64 = y := by omega
  have h3 : n / 64 % 64 = z := by omega
  have h4 : n % 64 = w := by omega
  simp only [encodeChars, hb, hb', hb'', hn, h1, h2, h3, h4]
  rfl

end Group

/-- The last digit of a text is where the padding begins. -/
lemma last_digit_unique (front : List Char) (k : Nat) {front' : List Char} {c c' : Char} {k' : Nat}
    (hc : c ≠ '=') (hc' : c' ≠ '=')
    (h : front ++ c :: List.replicate k '=' = front' ++ c' :: List.replicate k' '=') :
    front = front' ∧ c = c' ∧ k = k' := by
  have hrev : List.replicate k '=' ++ c :: front.reverse =
      List.replicate k' '=' ++ c' :: front'.reverse := by
    simpa using congrArg List.reverse h
  clear h
  induction k generalizing k' with
  | zero =>
    cases k' with
    | zero => simpa [and_comm] using hrev
    | succ k' => simp [List.replicate_succ, hc] at hrev
  | succ k ih =>
    cases k' with
    | zero => simp [List.replicate_succ, hc'.symm] at hrev
    | succ k' =>
      have hrest : List.replicate k '=' ++ c :: front.reverse =
          List.replicate k' '=' ++ c' :: front'.reverse := by
        simpa [List.replicate_succ] using hrev
      obtain ⟨hf, hcc, rfl⟩ := ih hrest
      exact ⟨hf, hcc, rfl⟩

/-- Padding makes up for bytes that are missing from the last group of three. -/
lemma exists_last_digit {bs : Bytes} (h : bs ≠ []) : ∃ front n k, n < 64 ∧
    (bs.length + k) % 3 = 0 ∧ encodeChars bs = front ++ sextetChar n :: List.replicate k '=' := by
  fun_induction encodeChars bs with
  | case1 => exact absurd rfl h
  | case2 a n => exact ⟨[_], _, 2, Nat.mod_lt _ (by decide), by simp, rfl⟩
  | case3 a b n => exact ⟨[_, _], _, 1, Nat.mod_lt _ (by decide), by simp, rfl⟩
  | case4 a b c r n ih =>
    by_cases hr : r = []
    · subst hr
      exact ⟨[_, _, _], _, 0, Nat.mod_lt _ (by decide), by simp, rfl⟩
    · obtain ⟨front, m, k, hm, hk, he⟩ := ih hr
      refine ⟨_ :: _ :: _ :: _ :: front, m, k, hm, ?_, by rw [he]; rfl⟩
      simp only [List.length_cons]
      omega

/-- The digit that a character stands for agrees with any one of the same upper bits. -/
lemma agree_sextetChar {m n k : Nat} (hm : m < 64) (hn : n < 64) (h : m >>> k = n >>> k) :
    Agree k (sextetChar m) (sextetChar n) :=
  ⟨m, n, (sextetChar_spec m hm).1, (sextetChar_spec n hn).1, h⟩

lemma Spells.group {x y z w : Nat} (hx : x < 64) (hy : y < 64) (hz : z < 64) (hw : w < 64)
    {bs : Bytes} {t : List Char} (h : Spells bs t) :
    Spells (UInt8.ofNat (x * 4 + y / 16) :: UInt8.ofNat (y % 16 * 16 + z / 4)
      :: UInt8.ofNat (z % 4 * 64 + w) :: bs)
      (sextetChar x :: sextetChar y :: sextetChar z :: sextetChar w :: t) := by
  have hgroup := encodeChars_group hx hy hz hw bs
  simp only [List.cons_append, List.nil_append] at hgroup
  cases h with
  | exactly =>
    rw [← hgroup]
    exact .exactly
  | @loosely front c d k he hagree =>
    rw [he] at hgroup
    exact @loosely _ (sextetChar x :: sextetChar y :: sextetChar z :: sextetChar w :: front) _ _ _
      hgroup hagree

/-- By the number of `=` in the group. -/
lemma lastGroup_spells {a b c d : Char} {bs : Bytes} (h : lastGroup? a b c d = some bs) :
    Spells bs [a, b, c, d] := by
  have hfull : decodeExactChars [a, b, c, d] = some bs := h
  simp only [lastGroup?, Option.bind_eq_bind, Option.bind_eq_some_iff] at h
  obtain ⟨x, hsx, y, hsy, h⟩ := h
  obtain ⟨hx, rfl⟩ := sextetChar_of_sextet? hsx
  obtain ⟨hy, rfl⟩ := sextetChar_of_sextet? hsy
  split_ifs at h with hpads hpad
  · obtain ⟨rfl, rfl⟩ := hpads
    obtain rfl := Option.some.inj h
    exact .loosely (encodeChars_one hx hy) (agree_sextetChar (by omega) hy (by omega))
  · subst hpad
    obtain ⟨z, hsz, -⟩ := Option.bind_eq_some_iff.1 h
    obtain ⟨hz, rfl⟩ := sextetChar_of_sextet? hsz
    obtain rfl := Option.some.inj ((lastGroup_two hx hy hz).symm.trans hfull)
    exact .loosely (encodeChars_two hx hy hz) (agree_sextetChar (by omega) hz (by omega))
  · obtain ⟨z, hsz, h⟩ := Option.bind_eq_some_iff.1 h
    obtain ⟨w, hsw, -⟩ := Option.bind_eq_some_iff.1 h
    obtain ⟨hz, rfl⟩ := sextetChar_of_sextet? hsz
    obtain ⟨hw, rfl⟩ := sextetChar_of_sextet? hsw
    rw [decodeExactChars_group hx hy hz hw, decodeExactChars, Option.map_some] at hfull
    obtain rfl := Option.some.inj hfull
    have hend : Spells [] [] := .exactly
    exact hend.group hx hy hz hw

theorem decodeExactChars_spells {t : List Char} {bs : Bytes} (h : decodeExactChars t = some bs) :
    Spells bs t := by
  fun_induction decodeExactChars t generalizing bs with
  | case1 =>
    obtain rfl := Option.some.inj h
    exact .exactly
  | case2 a b c d => exact lastGroup_spells h
  | case3 a b c d r _ ih =>
    simp only [Option.bind_eq_bind, Option.bind_eq_some_iff] at h
    obtain ⟨x, hsx, y, hsy, z, hsz, w, hsw, rest, hrest, h⟩ := h
    obtain ⟨hx, rfl⟩ := sextetChar_of_sextet? hsx
    obtain ⟨hy, rfl⟩ := sextetChar_of_sextet? hsy
    obtain ⟨hz, rfl⟩ := sextetChar_of_sextet? hsz
    obtain ⟨hw, rfl⟩ := sextetChar_of_sextet? hsw
    obtain rfl := Option.some.inj h
    exact (ih hrest).group hx hy hz hw
  | case4 => cases h

/-- The padding tells which digit is the last one, so the text differs from that of the bytes in
nothing else; by induction on the groups in front of it. -/
lemma decodeExactChars_loosely {bs : Bytes} {front : List Char} {c d : Char} {pads : Nat}
    (he : encodeChars bs = front ++ c :: List.replicate pads '=') (hagree : Agree (2 * pads) c d) :
    decodeExactChars (front ++ d :: List.replicate pads '=') = some bs := by
  obtain ⟨m, n, hc, hd, hmn⟩ := hagree
  obtain ⟨hm, rfl⟩ := sextetChar_of_sextet? hc
  obtain ⟨hn, rfl⟩ := sextetChar_of_sextet? hd
  have hne : ∀ k < 64, sextetChar k ≠ '=' := fun k hk => (sextetChar_spec k hk).2.1
  have hinj : ∀ k < 64, sextetChar k = sextetChar m → k = m := fun k hk h => by
    have := (sextetChar_spec k hk).1
    rw [h, hc] at this
    exact (Option.some.inj this).symm
  fun_induction encodeChars bs generalizing front with
  | case1 => simp at he
  | case2 a =>
    obtain ⟨rfl, hlast, rfl⟩ := last_digit_unique [sextetChar (a.toNat * 16 / 64)] 2
      (hne (a.toNat * 16 % 64) (by omega)) (hne m hm) he
    obtain rfl := hinj _ (by omega) hlast
    exact lastGroup_byte hn (by omega)
  | case3 a b =>
    set v := (a.toNat * 256 + b.toNat) * 4
    obtain ⟨rfl, hlast, rfl⟩ := last_digit_unique
      [sextetChar (v / 4096), sextetChar (v / 64 % 64)] 1
      (hne (v % 64) (by omega)) (hne m hm) he
    obtain rfl := hinj _ (by omega) hlast
    exact lastGroup_bytes hn (by omega)
  | case4 a b c r v =>
    rename_i ih
    by_cases hr : r = []
    · subst hr
      obtain ⟨rfl, hlast, rfl⟩ := last_digit_unique
        [sextetChar (v / 262144), sextetChar (v / 4096 % 64), sextetChar (v / 64 % 64)] 0
        (hne (v % 64) (by omega)) (hne m hm) he
      obtain rfl : m = n := by simpa using hmn
      rw [← hinj _ (by omega) hlast]
      exact decodeExactChars_bytes rfl []
    · obtain ⟨front', l, k, hl, -, hrest⟩ := exists_last_digit hr
      rw [hrest] at he
      obtain ⟨rfl, hlast, rfl⟩ := last_digit_unique
        (sextetChar (v / 262144) :: sextetChar (v / 4096 % 64) :: sextetChar (v / 64 % 64)
          :: sextetChar (v % 64) :: front') k (hne l hl) (hne m hm) he
      rw [hlast] at hrest
      simp only [List.cons_append]
      rw [decodeExactChars_bytes rfl, ih hrest, Option.map_some]

theorem decodeExactChars_eq_some_iff {t : List Char} {bs : Bytes} :
    decodeExactChars t = some bs ↔ Spells bs t := by
  refine ⟨decodeExactChars_spells, ?_⟩
  rintro (_ | ⟨he, hagree⟩)
  · exact decodeExactChars_encodeChars bs
  · exact decodeExactChars_loosely he hagree

/-- **Base 64 has one spelling of each byte string, apart from bits that belong to no byte.** -/
theorem decodeExact?_eq_some_iff {s : String} {bs : Bytes} :
    decodeExact? s = some bs ↔ Spells bs s.toList := decodeExactChars_eq_some_iff

/-- Where the bytes do not fill the last group, padding can be seen. -/
lemma Spells.pad_mem {bs : Bytes} {t : List Char} (h : Spells bs t) (hbs : bs.length % 3 ≠ 0) :
    '=' ∈ t := by
  have hne : bs ≠ [] := by
    rintro rfl
    exact hbs rfl
  obtain ⟨front, n, k, hn, hk, he⟩ := exists_last_digit hne
  obtain ⟨k, rfl⟩ : ∃ j, k = j + 1 := ⟨k - 1, by omega⟩
  cases h with
  | exactly => simp [he, List.replicate_succ]
  | loosely he' hagree =>
    obtain ⟨x, -, hsx, -⟩ := hagree
    obtain ⟨hx, rfl⟩ := sextetChar_of_sextet? hsx
    obtain ⟨-, -, rfl⟩ := last_digit_unique _ _ (sextetChar_spec n hn).2.1
      (sextetChar_spec x hx).2.1 (he.symm.trans he')
    simp [List.replicate_succ]

end LedgerClient.Base64
