import LedgerClient.Json.Parser
import LedgerClient.Json.Printer
import LedgerClient.Proofs.Bytes.Hex
import Mathlib.Tactic.Common

/-!
What the compact printer writes is read back. A value is spelled by a text when the printer gives
that text, the lexer cuts it into lexemes that the machine puts together again, and the nesting is
bounded; texts are spelled so, and objects of values that are.
-/

namespace LedgerClient.Json

variable {half : Option Char}

/-! ### Characters -/

section Step

variable {l m : Lexer} {c : Char}

lemma run_step (h : l.step half c = some (m, [])) (cs : List Char) :
    l.run half (c :: cs) = m.run half cs := by
  simp only [Lexer.run, h, Option.bind_eq_bind, Option.bind_some]
  cases m.run half cs <;> rfl

lemma run_emit {t : Token} (h : l.step half c = some (m, [t])) (cs : List Char) :
    l.run half (c :: cs) = (m.run half cs).map (t :: ·) := by
  simp only [Lexer.run, h, Option.bind_eq_bind, Option.bind_some]
  cases m.run half cs <;> rfl

end Step

lemma run_escape {c d : Char} (hu : c ≠ 'u') (h : escaped? c = some d) (read cs : List Char) :
    (Lexer.inText read).run half ('\\' :: c :: cs) = (Lexer.inText (d :: read)).run half cs := by
  rw [run_step (m := .escape read) rfl, run_step (m := .inText (d :: read))]
  rw [Lexer.step, if_neg hu, h]
  rfl

lemma run_unicode {n d : Nat} {digits value : Nat} (hd : d < 16) (h3 : digits ≠ 3)
    (hn : value * 16 + d = n) (high : Option Nat) (read cs : List Char) :
    (Lexer.unicode read digits value high).run half (Text.hexDigitChar d :: cs)
      = (Lexer.unicode read (digits + 1) n high).run half cs := by
  refine run_step ?_ cs
  simp only [Lexer.step, Text.hexDigit?_hexDigitChar hd, Option.bind_eq_bind, Option.bind_some,
    if_neg h3, hn]
  rfl

/-- The digits of an escape give the number of a character outside the surrogates. -/
lemma run_unicodeEscape {n : Nat} (hn : n < 0xD800) (read cs : List Char) :
    (Lexer.inText read).run half (unicodeEscape n ++ cs)
      = (Lexer.inText (Char.ofNat n :: read)).run half cs := by
  have hlast : (Lexer.unicode read 3 (n / 16) none).step half (Text.hexDigitChar (n % 16))
      = some (.inText (Char.ofNat n :: read), []) := by
    have hdiv : n / 16 * 16 + n % 16 = n := Nat.div_add_mod' n 16
    have hend : endUnicode half read n none = some (.inText (Char.ofNat n :: read)) := by
      rw [endUnicode, if_neg (by omega), if_neg (by omega)]
    simp only [Lexer.step, Text.hexDigit?_hexDigitChar (Nat.mod_lt n (by decide : 16 > 0)),
      Option.bind_eq_bind, Option.bind_some, if_pos, hdiv, hend]
    rfl
  rw [unicodeEscape, Text.hexDigits_four, Text.hexDigits_two, Text.hexDigits_two]
  simp only [List.cons_append, List.nil_append]
  rw [run_step (m := .escape read) rfl, run_step (m := .unicode read 0 0 none) rfl,
    run_unicode (n := n / 4096) (by omega) (by decide) (by omega),
    run_unicode (n := n / 256) (by omega) (by decide) (by omega),
    run_unicode (n := n / 16) (by omega) (by decide) (by omega), run_step hlast]

/-- A character is read back, escaped or not. -/
lemma run_escapeChar (c : Char) (read cs : List Char) :
    (Lexer.inText read).run half (escapeChar false c ++ cs)
      = (Lexer.inText (c :: read)).run half cs := by
  have hc : Char.ofNat c.toNat = c := Char.ofNat_toNat c
  simp only [escapeChar, Bool.not_false, Bool.true_or, if_true]
  split_ifs with hq hn hr ht hb hf h32
  · rcases hq with rfl | rfl
    · exact run_escape (by decide) rfl read cs
    · exact run_escape (by decide) rfl read cs
  · subst hn
    exact run_escape (by decide) rfl read cs
  · subst hr
    exact run_escape (by decide) rfl read cs
  · subst ht
    exact run_escape (by decide) rfl read cs
  · rw [← hc, hb]
    exact run_escape (by decide) rfl read cs
  · rw [← hc, hf]
    exact run_escape (by decide) rfl read cs
  · rw [run_unicodeEscape (by omega), hc]
  · obtain ⟨hq, hb⟩ := not_or.1 hq
    exact run_step (by rw [Lexer.step, fromText, if_neg hq, if_neg hb, if_neg h32]) cs

lemma run_escapeChars (s read cs : List Char) :
    (Lexer.inText read).run half (s.flatMap (escapeChar false) ++ cs)
      = (Lexer.inText (s.reverse ++ read)).run half cs := by
  induction s generalizing read with
  | nil => rfl
  | cons c s ih =>
    rw [List.flatMap_cons, List.append_assoc, run_escapeChar, ih, List.reverse_cons,
      List.append_assoc, List.singleton_append]

/-- Quoted text is one lexeme. -/
lemma run_printText (s : String) (cs : List Char) :
    Lexer.between.run half ((printText compactUnicode s).toList ++ cs)
      = (Lexer.between.run half cs).map (.text s :: ·) := by
  have hend : (Lexer.inText (s.toList.reverse ++ [])).step half '"'
      = some (.between, [.text s]) := by
    rw [Lexer.step, fromText, if_pos rfl, List.append_nil, List.reverse_reverse,
      String.ofList_toList]
  rw [printText, String.toList_ofList, List.cons_append, List.cons_append, List.append_assoc,
    run_step (m := .inText []) rfl, compactUnicode, run_escapeChars]
  exact run_emit hend cs

/-! ### Values -/

/-- The text `s` spells `v` in the lexemes `ts`, at most `n` lists and objects deep. -/
structure Spelled (n : Nat) (v : Value) (s : String) (ts : List Token) : Prop where
  print : print? compactUnicode v = some s
  lex : ∀ half cs, Lexer.between.run half (s.toList ++ cs)
    = (Lexer.between.run half cs).map (ts ++ ·)
  run : ∀ fs, (State.wantValue fs).run ts = some (.after fs v)
  nesting : ∀ d r, nestingFrom d (ts ++ r) ≤ max (d + n) (nestingFrom d r)

lemma Spelled.text (s : String) :
    Spelled 0 (.text s) (printText compactUnicode s) [.text s] where
  print := rfl
  lex _ := run_printText s
  run _ := rfl
  nesting _ _ := Nat.le_refl _

lemma Spelled.mono {n m : Nat} {v : Value} {s : String} {ts : List Token}
    (h : Spelled n v s ts) (hnm : n ≤ m) : Spelled m v s ts where
  print := h.print
  lex := h.lex
  run := h.run
  nesting d r := Nat.le_trans (h.nesting d r) (by omega)

/-! ### Members -/

/-- How a member is written. -/
def entryText (e : String × String) : String := printText compactUnicode e.1 ++ ":" ++ e.2

def entryTokens (k : String) (ts : List Token) : List Token := .text k :: .colon :: ts

namespace Spelled

variable {n : Nat} {v : Value} {s : String} {ts : List Token} (h : Spelled n v s ts) (k : String)
include h

lemma lex_entry (cs : List Char) :
    Lexer.between.run half ((entryText (k, s)).toList ++ cs)
      = (Lexer.between.run half cs).map (entryTokens k ts ++ ·) := by
  have hcolon : Lexer.between.step half ':' = some (.between, [.colon]) := rfl
  have htext : (entryText (k, s)).toList ++ cs
      = (printText compactUnicode k).toList ++ ':' :: (s.toList ++ cs) := by
    rw [entryText, String.toList_append, String.toList_append, List.append_assoc,
      List.append_assoc]
    rfl
  calc Lexer.between.run half ((entryText (k, s)).toList ++ cs)
      = (Lexer.between.run half (':' :: (s.toList ++ cs))).map (.text k :: ·) := by
        rw [htext, run_printText]
    _ = ((Lexer.between.run half (s.toList ++ cs)).map (.colon :: ·)).map (.text k :: ·) := by
        rw [run_emit hcolon]
    _ = (Lexer.between.run half cs).map (entryTokens k ts ++ ·) := by
        rw [h.lex, Option.map_map, Option.map_map]
        rfl

lemma run_entry (fs : List Frame) (done : Members) (r : List Token) :
    (State.wantKey fs done).run (entryTokens k ts ++ r)
      = (State.after (.object done k :: fs) v).run r := by
  have hkey : (State.wantKey fs done).run (entryTokens k ts)
      = some (.after (.object done k :: fs) v) := h.run (.object done k :: fs)
  rw [State.run_append, hkey, Option.bind_some]

lemma nesting_entry (d : Nat) (r : List Token) :
    nestingFrom d (entryTokens k ts ++ r) ≤ max (d + n) (nestingFrom d r) := by
  have := h.nesting d r
  simp only [entryTokens, List.cons_append, nestingFrom]
  omega

end Spelled

/-- The members `ms` of an object are spelled by the entries `es` in the lexemes `ts`. -/
inductive SpelledMembers (n : Nat) : Members → List (String × String) → List Token → Prop
  | last {v : Value} {s : String} {ts : List Token} (k : String) (h : Spelled n v s ts) :
      SpelledMembers n [(k, v)] [(k, s)] (entryTokens k ts)
  | before {v : Value} {s : String} {ts us : List Token} {ms : Members}
      {es : List (String × String)} (k : String) (h : Spelled n v s ts)
      (hr : SpelledMembers n ms es us) :
      SpelledMembers n ((k, v) :: ms) ((k, s) :: es) (entryTokens k ts ++ .comma :: us)

namespace SpelledMembers

variable {n : Nat} {ms : Members} {es : List (String × String)} {ts : List Token}

lemma of_forall (hne : ms ≠ []) (h : ∀ m ∈ ms, ∃ s us, Spelled n m.2 s us) :
    ∃ es ts, SpelledMembers n ms es ts := by
  induction ms with
  | nil => exact absurd rfl hne
  | cons m ms ih =>
    obtain ⟨⟨s, us, hm⟩, hms⟩ := List.forall_mem_cons.1 h
    cases ms with
    | nil => exact ⟨_, _, .last m.1 hm⟩
    | cons m' ms =>
      obtain ⟨es, ts, hr⟩ := ih (List.cons_ne_nil _ _) hms
      exact ⟨_, _, .before m.1 hm hr⟩

lemma print (h : SpelledMembers n ms es ts) : print?.entries compactUnicode ms = some es := by
  induction h with
  | last k h => simp [print?.entries, h.print]
  | before k h hr ih => simp [print?.entries, h.print, ih]

lemma ne_nil (h : SpelledMembers n ms es ts) : es.map entryText ≠ [] := by
  cases h <;> exact List.cons_ne_nil _ _

lemma lex (h : SpelledMembers n ms es ts) (cs : List Char) :
    Lexer.between.run half ((",".intercalate (es.map entryText)).toList ++ cs)
      = (Lexer.between.run half cs).map (ts ++ ·) := by
  have hcomma : Lexer.between.step half ',' = some (.between, [.comma]) := rfl
  induction h generalizing cs with
  | last k h => exact h.lex_entry k cs
  | @before v s ts us ms es k h hr ih =>
    have htext : (",".intercalate (((k, s) :: es).map entryText)).toList ++ cs =
        (entryText (k, s)).toList ++
          ',' :: ((",".intercalate (es.map entryText)).toList ++ cs) := by
      rw [List.map_cons, String.intercalate_cons_of_ne_nil hr.ne_nil, String.toList_append,
        String.toList_append, List.append_assoc, List.append_assoc]
      rfl
    calc Lexer.between.run half ((",".intercalate (((k, s) :: es).map entryText)).toList ++ cs)
        = (Lexer.between.run half (',' :: ((",".intercalate (es.map entryText)).toList ++ cs))).map
            (entryTokens k ts ++ ·) := by rw [htext, h.lex_entry]
      _ = (((Lexer.between.run half cs).map (us ++ ·)).map (.comma :: ·)).map
            (entryTokens k ts ++ ·) := by rw [run_emit hcomma, ih]
      _ = (Lexer.between.run half cs).map (entryTokens k ts ++ .comma :: us ++ ·) := by
          rw [Option.map_map, Option.map_map]
          congr 1
          funext r
          simp

/-- Members are read behind those that were read before. -/
lemma run (h : SpelledMembers n ms es ts) (fs : List Frame) (done : Members) :
    (State.wantKey fs done).run (ts ++ [.closeObject])
      = some (.after fs (.object (Members.ofPairs (done.reverse ++ ms)))) := by
  induction h generalizing done with
  | @last v _ _ k h =>
    rw [h.run_entry]
    change some (State.after fs (.object (Members.ofPairs ((k, v) :: done).reverse))) = _
    rw [List.reverse_cons]
  | @before v _ _ us ms _ k h hr ih =>
    rw [List.append_assoc, h.run_entry]
    change (State.wantKey fs ((k, v) :: done)).run (us ++ [.closeObject]) = _
    rw [ih, List.reverse_cons, List.append_assoc, List.singleton_append]

lemma nesting (h : SpelledMembers n ms es ts) (d : Nat) (r : List Token) :
    nestingFrom (d + 1) (ts ++ .closeObject :: r) ≤ max (d + (n + 1)) (nestingFrom d r) := by
  induction h with
  | last k h =>
    have := h.nesting_entry k (d + 1) (.closeObject :: r)
    simp only [nestingFrom, Nat.add_sub_cancel] at this
    omega
  | @before _ _ _ us _ _ k h hr ih =>
    have := h.nesting_entry k (d + 1) (.comma :: us ++ .closeObject :: r)
    rw [List.append_assoc]
    simp only [List.cons_append, nestingFrom] at this ⊢
    omega

end SpelledMembers

/-! ### Objects -/

lemma put_of_not_mem {ms : Members} {k : String} (h : k ∉ ms.map Prod.fst) (v : Value) :
    ms.put k v = ms ++ [(k, v)] := by
  induction ms with
  | nil => rfl
  | cons m ms ih =>
    rw [List.map_cons, List.mem_cons, not_or] at h
    rw [Members.put, if_neg (Ne.symm h.1), ih h.2, List.cons_append]

/-- Members with keys of their own stay as they are. -/
lemma ofPairs_eq {ms : Members} (h : (ms.map Prod.fst).Nodup) : Members.ofPairs ms = ms := by
  have hfold : ∀ done : Members, ((done ++ ms).map Prod.fst).Nodup →
      ms.foldl (fun ms p => ms.put p.1 p.2) done = done ++ ms := by
    clear h
    induction ms with
    | nil => simp
    | cons m ms ih =>
      intro done h
      have hm : m.1 ∉ done.map Prod.fst := by
        rw [List.map_append, List.nodup_append] at h
        exact fun hd => h.2.2 _ hd _ (by simp) rfl
      rw [List.foldl_cons, put_of_not_mem hm, ih, List.append_assoc]
      · rfl
      · simpa using h
  exact hfold [] h

/-- Braces around what stands between them. -/
lemma lex_braces {s : String} {t : List Token}
    (h : ∀ cs, Lexer.between.run half (s.toList ++ cs)
      = (Lexer.between.run half cs).map (t ++ ·)) (cs : List Char) :
    Lexer.between.run half (("\x7b" ++ s ++ "\x7d").toList ++ cs)
      = (Lexer.between.run half cs).map (.openObject :: t ++ [.closeObject] ++ ·) := by
  have hopen : Lexer.between.step half '{' = some (.between, [.openObject]) := rfl
  have hclose : Lexer.between.step half '}' = some (.between, [.closeObject]) := rfl
  have htext : ("\x7b" ++ s ++ "\x7d").toList ++ cs = '{' :: (s.toList ++ '}' :: cs) := by
    rw [String.toList_append, String.toList_append, List.append_assoc, List.append_assoc]
    rfl
  calc Lexer.between.run half (("\x7b" ++ s ++ "\x7d").toList ++ cs)
      = (Lexer.between.run half (s.toList ++ '}' :: cs)).map (.openObject :: ·) := by
        rw [htext, run_emit hopen]
    _ = (((Lexer.between.run half cs).map (.closeObject :: ·)).map (t ++ ·)).map
          (.openObject :: ·) := by rw [h, run_emit hclose]
    _ = (Lexer.between.run half cs).map (.openObject :: t ++ [.closeObject] ++ ·) := by
        rw [Option.map_map, Option.map_map]
        congr 1
        funext r
        simp

lemma Spelled.empty : Spelled 0 (.object []) "\x7b\x7d" [.openObject, .closeObject] where
  print := rfl
  lex _ := lex_braces (s := "") (t := []) fun _ => Option.map_id'.symm
  run _ := rfl
  nesting d r := by
    simp only [List.cons_append, List.nil_append, nestingFrom, Nat.add_sub_cancel]
    omega

lemma Spelled.object {n : Nat} {ms : Members} {es : List (String × String)} {ts : List Token}
    (hd : (ms.map Prod.fst).Nodup) (h : SpelledMembers n ms es ts) :
    Spelled (n + 1) (.object ms) ("\x7b" ++ ",".intercalate (es.map entryText) ++ "\x7d")
      (.openObject :: ts ++ [.closeObject]) where
  print := by
    rw [print?, h.print]
    rfl
  lex _ := lex_braces h.lex
  run fs := by
    have hkey := h.run fs []
    rw [List.reverse_nil, List.nil_append, ofPairs_eq hd] at hkey
    rw [← hkey]
    cases h <;> rfl
  nesting d r := by
    have := h.nesting d r
    rw [List.append_assoc, List.cons_append, nestingFrom, List.singleton_append]
    omega

/-- An object is spelled when each of its members is and no key stands twice. -/
theorem exists_spelled_object {n : Nat} {ms : Members} (hd : (ms.map Prod.fst).Nodup)
    (h : ∀ m ∈ ms, ∃ s ts, Spelled n m.2 s ts) :
    ∃ s ts, Spelled (n + 1) (.object ms) s ts := by
  by_cases hne : ms = []
  · subst hne
    exact ⟨_, _, Spelled.empty.mono (Nat.zero_le _)⟩
  · obtain ⟨es, ts, hs⟩ := SpelledMembers.of_forall hne h
    exact ⟨_, _, Spelled.object hd hs⟩

/-- **What the compact printer writes of such a value is read back, also by a reader that refuses
deeper nesting than there is.** -/
theorem Spelled.parse {n : Nat} {v : Value} {s : String} {ts : List Token} (h : Spelled n v s ts)
    {t : Tolerance} (ht : ∀ m ∈ t.nesting, n ≤ m) : parseWith? t s = some v := by
  have hlex : tokens? t.half s = some ts := by
    have := h.lex t.half []
    rwa [List.append_nil, show Lexer.between.run t.half [] = some [] from rfl, Option.map_some,
      List.append_nil] at this
  have hnest : nestingFrom 0 ts ≤ n := by
    have := h.nesting 0 []
    rwa [List.append_nil, Nat.zero_add, nestingFrom, Nat.max_zero] at this
  have hall : t.nesting.all (fun m => decide (nestingFrom 0 ts ≤ m)) = true := by
    cases hm : t.nesting with
    | none => rfl
    | some m => exact decide_eq_true (Nat.le_trans hnest (ht m hm))
  rw [parseWith?, hlex, Option.bind_eq_bind, Option.bind_some, guard, if_pos hall, h.run []]
  rfl

end LedgerClient.Json
