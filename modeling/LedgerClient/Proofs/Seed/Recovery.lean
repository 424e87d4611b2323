import LedgerClient.Proofs.Seed.Spelling

/-!
Phrases and the keys they stand for. Every new phrase is accepted, and in each of its spellings it
gives back the key it came with. Beyond the phrases of entropy no text of ASCII is accepted.
-/

namespace LedgerClient.Seed

open Text

variable {e : Bytes} {n : Nat} {phrase : String}

/-! ### Sizes -/

lemma sized_iff : Sized e ↔ ∃ b, (4 ≤ b ∧ b ≤ 8) ∧ e.length = 4 * b := by
  simp only [Sized, List.mem_cons, List.not_mem_nil, or_false]
  constructor
  · intro h
    exact ⟨e.length / 4, by omega, by omega⟩
  · rintro ⟨b, hb, h⟩
    omega

lemma mem_wordCounts_iff : n ∈ wordCounts ↔ ∃ b, (4 ≤ b ∧ b ≤ 8) ∧ n = 3 * b := by
  simp only [wordCounts, List.mem_cons, List.not_mem_nil, or_false]
  constructor
  · intro h
    exact ⟨n / 3, by omega, by omega⟩
  · rintro ⟨b, hb, h⟩
    omega

/-! ### Words between spaces -/

/-- The words of a phrase, as they stand between single spaces. -/
def spaced (phrase : String) : List String :=
  (phrase.toList.splitOn ' ').map String.ofList

lemma intercalate_spaced (phrase : String) : " ".intercalate (spaced phrase) = phrase := by
  have hid : String.toList ∘ String.ofList = id := funext fun _ => String.toList_ofList
  rw [← String.toList_inj, String.toList_intercalate, spaced, List.map_map, hid, List.map_id]
  exact List.intercalate_splitOn ' '

lemma spaced_intercalate {ws : List String} (hne : ws ≠ []) (h : ∀ w ∈ ws, ' ' ∉ w.toList) :
    spaced (" ".intercalate ws) = ws := by
  have hsplit : (" ".toList.intercalate (ws.map String.toList)).splitOn ' ' =
      ws.map String.toList := by
    refine List.splitOn_intercalate ' ' ?_ (by simpa using hne)
    simpa using h
  have hid : String.ofList ∘ String.toList = id := funext fun _ => String.ofList_toList
  rw [spaced, String.toList_intercalate, hsplit, List.map_map, hid, List.map_id]

/-! ### Phrases of entropy -/

lemma lower_of_mem_phrase (e : Bytes) : ∀ w ∈ (indexes e).map wordAt,
    w.toList ≠ [] ∧ ∀ c ∈ w.toList, c.isLower = true := by
  intro w hw
  obtain ⟨i, hi, rfl⟩ := List.mem_map.1 hw
  exact lower_of_mem_words (wordAt_mem (indexes_lt e i hi))

lemma plain_of_mem_phrase (e : Bytes) : ∀ c ∈ (ofEntropy e).toList, Plain c := by
  rw [ofEntropy_eq, String.toList_intercalate]
  refine forall_mem_intercalate (.inr rfl) fun w hw c hc => ?_
  obtain ⟨v, hv, rfl⟩ := List.mem_map.1 hw
  exact .inl ((lower_of_mem_phrase e v hv).2 c hc)

lemma isAscii_ofEntropy (e : Bytes) : IsAscii (ofEntropy e) := fun c hc => by
  rcases plain_of_mem_phrase e c hc with h | rfl
  · exact (small_letter h).1
  · decide

lemma spaced_ofEntropy (h : Sized e) : spaced (ofEntropy e) = (indexes e).map wordAt := by
  obtain ⟨b, hb, hlength⟩ := sized_iff.1 h
  have hlen : 0 < ((indexes e).map wordAt).length := by
    rw [List.length_map, length_indexes]
    omega
  rw [ofEntropy_eq]
  exact spaced_intercalate (List.length_pos_iff.1 hlen) fun w hw hspace =>
    absurd ((lower_of_mem_phrase e w hw).2 ' ' hspace) (by decide)

lemma respells_self (e : Bytes) : Respells (ofEntropy e) (ofEntropy e) :=
  ⟨[], _, [], by simp, by simp, .refl (plain_of_mem_phrase e), by simp⟩

lemma Respells.normalize_ofEntropy {text : String} (h : Respells (ofEntropy e) text) :
    normalize text = ofEntropy e :=
  h.normalize_words (lower_of_mem_phrase e)

/-! ### Reading phrases -/

lemma entropy?_ascii (h : IsAscii phrase) : entropy? phrase =
    if (spaced phrase).length ∈ wordCounts then
      ((spaced phrase).mapM wordIndex?).bind entropyOf?
    else none := by
  have hspaced : (splitOn (· == ' ') phrase.toList).map String.ofList = spaced phrase := by
    rw [splitOn_eq_splitOnP, spaced, List.splitOn_eq_splitOnP]
  rw [entropy?, decompose_ascii h, hspaced]
  by_cases hcount : (spaced phrase).length ∈ wordCounts <;> simp [hcount]

lemma entropy?_eq_some_iff (h : IsAscii phrase) :
    entropy? phrase = some e ↔ Sized e ∧ phrase = ofEntropy e := by
  rw [entropy?_ascii h]
  constructor
  · intro hread
    obtain ⟨hcount, hread⟩ := Option.ite_none_right_eq_some.1 hread
    obtain ⟨is, his, hread⟩ := Option.bind_eq_some_iff.1 hread
    obtain ⟨hlt, hwords⟩ := mapM_wordIndex?_eq_some_iff.1 his
    obtain ⟨b, hb, hlength⟩ := mem_wordCounts_iff.1 hcount
    have hlen : is.length = 3 * b := by rw [← hlength, hwords, List.length_map]
    obtain ⟨he, rfl⟩ := (entropyOf?_eq_some_iff hlt hlen hb.2).1 hread
    exact ⟨sized_iff.2 ⟨b, hb, he⟩, by rw [ofEntropy_eq, ← hwords, intercalate_spaced]⟩
  · rintro ⟨he, rfl⟩
    obtain ⟨b, hb, hlength⟩ := sized_iff.1 he
    have hlen : (indexes e).length = 3 * b := by rw [length_indexes]; omega
    have hcount : (indexes e).length ∈ wordCounts := mem_wordCounts_iff.2 ⟨b, hb, hlen⟩
    rw [spaced_ofEntropy he, List.length_map, if_pos hcount,
      mapM_wordIndex?_eq_some_iff.2 ⟨indexes_lt e, rfl⟩, Option.bind_some]
    exact (entropyOf?_eq_some_iff (indexes_lt e) hlen hb.2).2 ⟨hlength, rfl⟩

lemma countWords_eq (phrase : String) :
    countWords phrase = if phrase = "" then 0 else (spaced phrase).length := by
  simp only [countWords, spaced, List.length_map, splitOn_eq_splitOnP, List.splitOn_eq_splitOnP,
    beq_iff_eq]

/-- A phrase of some entropy has a right number of words, and none but the empty one has none. -/
lemma countWords_ofEntropy (h : Sized e) : countWords (ofEntropy e) ∈ wordCounts := by
  obtain ⟨b, hb, hlength⟩ := sized_iff.1 h
  have hlen : (spaced (ofEntropy e)).length = 3 * b := by
    rw [spaced_ofEntropy h, List.length_map, length_indexes]
    omega
  have hne : ofEntropy e ≠ "" := fun hempty => by
    have hone : (spaced "").length = 1 := by decide +kernel
    rw [hempty] at hlen
    omega
  rw [countWords_eq, if_neg hne, hlen]
  exact mem_wordCounts_iff.2 ⟨b, hb, rfl⟩

/-- A phrase is accepted by its normal form alone. -/
lemma ofPhrase_eq (phrase passphrase : String) (h : IsAscii (normalize phrase)) :
    ((∃ e, Sized e ∧ normalize phrase = ofEntropy e) ∧
      ofPhrase phrase passphrase =
        .ok (Keyed.stretch (Utf8.encode (decompose (normalize phrase)))
          (Utf8.encode ("mnemonic" ++ decompose passphrase)) 2048)) ∨
    ((¬∃ e, Sized e ∧ normalize phrase = ofEntropy e) ∧
      ∃ m, ofPhrase phrase passphrase = .error (invalid m)) := by
  by_cases he : ∃ e, Sized e ∧ normalize phrase = ofEntropy e
  · refine .inl ⟨he, ?_⟩
    obtain ⟨e, hsized, he⟩ := he
    have hcount : countWords (normalize phrase) ∈ wordCounts := he ▸ countWords_ofEntropy hsized
    have hread : entropy? (normalize phrase) = some e := (entropy?_eq_some_iff h).2 ⟨hsized, he⟩
    simp [ofPhrase, hcount, hread]
  · refine .inr ⟨he, ?_⟩
    have hread : entropy? (normalize phrase) = none := by
      cases hread : entropy? (normalize phrase) with
      | none => rfl
      | some e => exact absurd ⟨e, (entropy?_eq_some_iff h).1 hread⟩ he
    by_cases hcount : countWords (normalize phrase) ∈ wordCounts
    · exact ⟨_, by simp [ofPhrase, hcount, hread]; rfl⟩
    · exact ⟨_, by simp [ofPhrase, hcount]; rfl⟩

lemma ofPhrase_congr {text : String} (h : normalize text = normalize phrase) (passphrase : String) :
    ofPhrase text passphrase = ofPhrase phrase passphrase := by
  rw [ofPhrase, ofPhrase, h]

/-! ### Keys -/

lemma length_digest (key message : Bytes) : (Keyed.digest key message).length = 64 := by
  simp [Keyed.digest, Keyed.Key.digest, Sha512.finish, Sha512.State.toBytes, Bytes.length_ofNatBE]

lemma length_node (seed : Bytes) (is : List Nat) : (is.foldl child (root seed)).length = 64 := by
  induction is using List.reverseRecOn with
  | nil => exact length_digest _ _
  | append_singleton is i _ =>
    rw [List.foldl_append]
    exact length_digest _ _

/-- A phrase that is accepted has a key at every path. -/
lemma exists_secretKey {passphrase path : String} {seed : Bytes} {is : List Nat}
    (hphrase : ofPhrase phrase passphrase = .ok seed) (hpath : parsePath path = .ok is) :
    ∃ k, secretKey phrase passphrase path = .ok k := by
  have hlength : ((is.foldl child (root seed)).take 32).length = 32 := by
    rw [List.length_take, length_node]
    decide
  have hderive : derive seed path = .ok ((is.foldl child (root seed)).take 32) := by
    rw [derive, hpath]
    rfl
  obtain ⟨k, hk⟩ : ∃ k, SecretKey.ofBytes ((is.foldl child (root seed)).take 32) = .ok k :=
    ⟨_, dif_pos (.inl hlength)⟩
  refine ⟨k, ?_⟩
  rw [secretKey, hphrase]
  change (derive seed path).bind SecretKey.ofBytes = _
  rw [hderive]
  exact hk

/-- Entropy of the right size is taken whole. -/
lemma generate_eq {passphrase path : String} {k : SecretKey} (hn : n ∈ wordCounts)
    (he : e.length = n * 4 / 3) (hk : secretKey (ofEntropy e) passphrase path = .ok k) :
    generate (.int n) e passphrase path = .ok (ofEntropy e, .ofSecret k) := by
  have htake : e.take (n * 4 / 3) = e := List.take_of_length_le he.le
  have hcontains : wordCounts.contains n = true := List.contains_iff_mem.2 hn
  simp only [generate, Value.number?, Value.whole?, Int.toNat_natCast, hcontains, htake, hk]
  rfl

lemma path_ne_empty {path : String} {is : List Nat} (h : parsePath path = .ok is) : path ≠ "" := by
  rintro rfl
  cases h

/-- A new phrase is accepted, and whatever spells it gives back its key at the same path. In ASCII
exactly those texts are accepted whose normal form is the phrase of some entropy. -/
theorem phrases_recover :
    (∀ n ∈ wordCounts, ∀ e : Bytes, e.length = n * 4 / 3 → ∀ passphrase path is,
      parsePath path = .ok is →
        ∃ kp, generate (.int n) e passphrase path = .ok (ofEntropy e, kp) ∧
          (∃ seed, ofPhrase (ofEntropy e) passphrase = .ok seed) ∧
          ∀ text, Respells (ofEntropy e) text →
            keyPair text passphrase (some path) = .ok kp) ∧
    ∀ phrase passphrase, IsAscii phrase →
      ((∃ seed, ofPhrase phrase passphrase = .ok seed) ∧
        ∃ e, Sized e ∧ normalize phrase = ofEntropy e) ∨
      ((∃ m, ofPhrase phrase passphrase = .error (invalid m)) ∧
        ¬∃ e, Sized e ∧ normalize phrase = ofEntropy e) := by
  constructor
  · intro n hn e he passphrase path is hpath
    obtain ⟨b, hb, hwords⟩ := mem_wordCounts_iff.1 hn
    have hsized : Sized e := sized_iff.2 ⟨b, hb, by omega⟩
    have hnormal : normalize (ofEntropy e) = ofEntropy e := (respells_self e).normalize_ofEntropy
    obtain ⟨seed, hseed⟩ : ∃ seed, ofPhrase (ofEntropy e) passphrase = .ok seed := by
      rcases ofPhrase_eq (ofEntropy e) passphrase (hnormal.symm ▸ isAscii_ofEntropy e) with
        ⟨-, h⟩ | ⟨hnot, -⟩
      · exact ⟨_, h⟩
      · exact absurd ⟨e, hsized, hnormal⟩ hnot
    obtain ⟨k, hk⟩ := exists_secretKey hseed hpath
    refine ⟨.ofSecret k, generate_eq hn he hk, ⟨seed, hseed⟩, fun text htext => ?_⟩
    have hsame : secretKey text passphrase path = secretKey (ofEntropy e) passphrase path := by
      rw [secretKey, secretKey, ofPhrase_congr (htext.normalize_ofEntropy.trans hnormal.symm)]
    simp [keyPair, path_ne_empty hpath, hsame, hk, Except.map]
  · intro phrase passphrase hascii
    rcases ofPhrase_eq phrase passphrase (isAscii_normalize hascii) with ⟨he, h⟩ | ⟨he, h⟩
    · exact .inl ⟨⟨_, h⟩, he⟩
    · exact .inr ⟨h, he⟩

def zeros : Bytes := List.replicate 16 0

lemma ofEntropy_zeros : ofEntropy zeros = "abandon abandon abandon abandon abandon abandon " ++
    "abandon abandon abandon abandon abandon about" := by decide +kernel

lemma standardPath_parses : parsePath standardPath = .ok [2147483692, 2147484045, 2147483648] :=
  rfl

/-- The phrase of sixteen zeros and its key, which the phrase in capitals gives back. -/
theorem zeros_recover :
    ∃ kp, generate (.int 12) zeros "TREZOR" standardPath = .ok (ofEntropy zeros, kp) ∧
      keyPair ("\tABANDON ABANDON ABANDON ABANDON ABANDON ABANDON " ++
        "ABANDON ABANDON ABANDON ABANDON ABANDON ABOUT\n") "TREZOR" (some standardPath) =
          .ok kp := by
  obtain ⟨kp, hnew, -, hkey⟩ := phrases_recover.1 12 (by decide) zeros (by decide) "TREZOR"
    standardPath _ standardPath_parses
  refine ⟨kp, hnew, hkey _ ⟨['\t'], (ofEntropy zeros).toList.map Char.toUpper, ['\n'],
    List.forall_mem_singleton.2 (by decide), List.forall_mem_singleton.2 (by decide),
    recast_upper (plain_of_mem_phrase zeros), ?_⟩⟩
  rw [ofEntropy_zeros]
  decide +kernel

end LedgerClient.Seed
