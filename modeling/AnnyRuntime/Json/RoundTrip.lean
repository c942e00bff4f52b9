import AnnyRuntime.Json.Loads
import Mathlib.Data.List.TakeWhile
import Mathlib.Data.Nat.Digits.Lemmas
import Mathlib.Tactic.IntervalCases

/-!
# Reading back what was written

`Json.loads_dumps`: decoding the text of a value gives the value back.  The proof goes through
`parseValue_dumps`, which says that the decoder reads exactly the text of a value off the front
of any longer text, provided that what follows cannot continue a number (`Follows`).
-/

namespace AnnyRuntime

/-! ### Numbers -/

theorem isDigit_digitChar {d : ℕ} (h : d < 10) : (digitChar d).isDigit = true := by
  interval_cases d <;> rfl

theorem digitVal_digitChar {d : ℕ} (h : d < 10) : digitVal (digitChar d) = d := by
  interval_cases d <;> rfl

theorem digitChar_eq_zero_iff {d : ℕ} (h : d < 10) : digitChar d = '0' ↔ d = 0 := by
  interval_cases d <;> decide

theorem isNumChar_of_isDigit {c : Char} (h : c.isDigit = true) : isNumChar c = true := by
  simp [isNumChar, h]

theorem not_isFloatChar_of_isDigit {c : Char} (h : c.isDigit = true) : isFloatChar c = false := by
  simp only [isFloatChar, Bool.or_eq_false_iff, decide_eq_false_iff_not]
  refine ⟨⟨?_, ?_⟩, ?_⟩ <;> rintro rfl <;> exact absurd h (by decide)

theorem isDigit_of_mem_natText {n : ℕ} {c : Char} (h : c ∈ natText n) : c.isDigit = true := by
  unfold natText at h
  split_ifs at h with h0
  · rw [List.mem_singleton] at h
    subst h; rfl
  · obtain ⟨d, hd, rfl⟩ := List.mem_map.1 h
    exact isDigit_digitChar (Nat.digits_lt_base (by decide) (List.mem_reverse.1 hd))

theorem natText_cons (n : ℕ) : ∃ c t, natText n = c :: t ∧ (c = '0' → t = []) := by
  unfold natText
  split_ifs with h0
  · exact ⟨'0', [], rfl, fun _ => rfl⟩
  · have hne : Nat.digits 10 n ≠ [] := Nat.digits_ne_nil_iff_ne_zero.2 h0
    have hlast := Nat.getLast_digit_ne_zero 10 h0
    have hrev : (Nat.digits 10 n).reverse =
        (Nat.digits 10 n).getLast hne :: (Nat.digits 10 n).dropLast.reverse := by
      rw [← List.reverse_concat', List.dropLast_append_getLast]
    refine ⟨digitChar ((Nat.digits 10 n).getLast hne),
      (Nat.digits 10 n).dropLast.reverse.map digitChar, by rw [hrev, List.map_cons], fun hc => ?_⟩
    exact absurd ((digitChar_eq_zero_iff
      (Nat.digits_lt_base (by decide) (List.getLast_mem hne))).1 hc) hlast

theorem natOfText_natText (n : ℕ) : natOfText (natText n) = n := by
  unfold natText natOfText
  split_ifs with h0
  · subst h0; decide
  · have hd : ((Nat.digits 10 n).map digitChar).map digitVal = Nat.digits 10 n := by
      rw [List.map_map]
      refine (List.map_congr_left fun d hd => ?_).trans (List.map_id _)
      exact digitVal_digitChar (Nat.digits_lt_base (by decide) hd)
    rw [← List.map_reverse, List.reverse_reverse, hd, Nat.ofDigits_digits]

theorem dropMinus_of_isDigit {c : Char} {t : List Char} (h : c.isDigit = true) :
    dropMinus (c :: t) = c :: t := by
  unfold dropMinus
  split
  · rename_i heq
    obtain ⟨rfl, rfl⟩ := List.cons.inj heq
    exact absurd h (by decide)
  · rfl

theorem isNumber_natText (n : ℕ) :
    isNumber ('-' :: natText n) = true ∧ isNumber (natText n) = true := by
  have hall : ∀ c ∈ natText n, c.isDigit = true := fun c => isDigit_of_mem_natText
  obtain ⟨c, t, ht, hz⟩ := natText_cons n
  have htake : (natText n).takeWhile Char.isDigit = natText n := List.takeWhile_eq_self_iff.2 hall
  have hdrop : (natText n).dropWhile Char.isDigit = [] := List.dropWhile_eq_nil_iff.2 hall
  have hnat : isNatText (natText n) = true := by
    simp only [isNatText, Bool.and_eq_true, List.all_eq_true, Bool.or_eq_true, decide_eq_true_eq]
    refine ⟨hall, ?_⟩
    by_cases h0 : c = '0'
    · exact Or.inl (by rw [ht, h0, hz h0])
    · exact Or.inr (by simp [ht, h0])
  have hdm : dropMinus (natText n) = natText n := by
    rw [ht]
    exact dropMinus_of_isDigit (hall c (by simp [ht]))
  refine ⟨?_, ?_⟩
  · simp only [isNumber, dropMinus, htake, hdrop, hnat, isFracExpText, isExpText, Bool.and_self]
  · simp only [isNumber, hdm, htake, hdrop, hnat, isFracExpText, isExpText, Bool.and_self]

theorem isNumber_intText (n : ℤ) : isNumber (intText n) = true := by
  unfold intText
  split_ifs
  · exact (isNumber_natText _).1
  · exact (isNumber_natText _).2

theorem mem_intText {n : ℤ} {c : Char} (h : c ∈ intText n) : c = '-' ∨ c.isDigit = true := by
  unfold intText at h
  split_ifs at h
  · exact (List.mem_cons.1 h).imp id isDigit_of_mem_natText
  · exact Or.inr (isDigit_of_mem_natText h)

theorem isNumChar_of_mem_intText {n : ℤ} {c : Char} (h : c ∈ intText n) : isNumChar c = true := by
  rcases mem_intText h with rfl | h
  · rfl
  · exact isNumChar_of_isDigit h

theorem not_isFloatLit_intText (n : ℤ) : isFloatLit (intText n) = false := by
  have : (intText n).any isFloatChar = false := by
    rw [List.any_eq_false]
    intro c hc
    rcases mem_intText hc with rfl | h
    · decide
    · simp [not_isFloatChar_of_isDigit h]
  simp [isFloatLit, this]

theorem intOfText_intText (n : ℤ) : intOfText (intText n) = n := by
  unfold intText
  split_ifs with hn
  · simp only [intOfText, natOfText_natText]
    omega
  · obtain ⟨c, t, ht, -⟩ := natText_cons n.natAbs
    have hc : c.isDigit = true := isDigit_of_mem_natText (n := n.natAbs) (by simp [ht])
    have : intOfText (natText n.natAbs) = (natOfText (natText n.natAbs) : ℤ) := by
      rw [ht]
      unfold intOfText
      split
      · rename_i heq
        obtain ⟨rfl, rfl⟩ := List.cons.inj heq
        exact absurd hc (by decide)
      · rfl
    rw [this, natOfText_natText]
    omega

/-- A number starts with a digit, possibly after a minus sign. -/
theorem isNumber_head {t : List Char} (h : isNumber t = true) :
    ∃ d r, d.isDigit = true ∧ (t = d :: r ∨ t = '-' :: d :: r) := by
  have key : ∀ t : List Char, isNatText (t.takeWhile Char.isDigit) = true →
      ∃ d r, d.isDigit = true ∧ t = d :: r := by
    intro t ht
    cases t with
    | nil => exact absurd ht (by decide)
    | cons c t =>
      cases hc : c.isDigit
      · simp [hc, isNatText] at ht
      · exact ⟨c, t, hc, rfl⟩
  simp only [isNumber, Bool.and_eq_true] at h
  obtain ⟨d, r, hd, hr⟩ := key _ h.1
  refine ⟨d, r, hd, ?_⟩
  unfold dropMinus at hr
  split at hr
  · exact Or.inr (by rw [hr])
  · exact Or.inl hr

namespace Json

/-! ### Scalars -/

/-- What comes after a value cannot continue a number. -/
def Follows (rest : List Char) : Prop := ∀ c ∈ rest.head?, isNumChar c = false

theorem follows_nil : Follows [] := by simp [Follows]

theorem follows_cons {c : Char} {r : List Char} (h : isNumChar c = false) : Follows (c :: r) := by
  simpa [Follows] using h

theorem takeWhile_follows {t rest : List Char} (ht : ∀ c ∈ t, isNumChar c = true)
    (hr : Follows rest) : (t ++ rest).takeWhile isNumChar = t := by
  rw [List.takeWhile_append_of_pos ht]
  cases rest with
  | nil => simp
  | cons c r => simp [hr c rfl]

theorem dropWhile_follows {t rest : List Char} (ht : ∀ c ∈ t, isNumChar c = true)
    (hr : Follows rest) : (t ++ rest).dropWhile isNumChar = rest := by
  rw [List.dropWhile_append_of_pos ht]
  cases rest with
  | nil => rfl
  | cons c r => simp [hr c rfl]

theorem parseLiteral_of_isDigit {d : Char} (h : d.isDigit = true) (r : List Char) :
    parseLiteral (d :: r) = none ∧ parseLiteral ('-' :: d :: r) = none := by
  have hne : ∀ c : Char, c.isDigit = false → c ≠ d := fun c hc hcd => by
    rw [hcd, h] at hc; exact absurd hc (by decide)
  simp [parseLiteral, literals, stripPrefix, hne 'n' rfl, hne 't' rfl,
    hne 'f' rfl, hne 'N' rfl, hne 'I' rfl, hne '-' rfl]

theorem parseLiteral_number {t : List Char} (h : isNumber t = true) (rest : List Char) :
    parseLiteral (t ++ rest) = none := by
  obtain ⟨d, r, hd, rfl | rfl⟩ := isNumber_head h
  · exact (parseLiteral_of_isDigit hd _).1
  · exact (parseLiteral_of_isDigit hd _).2

theorem parseScalar_intText (n : ℤ) {rest : List Char} (hr : Follows rest) :
    parseScalar (intText n ++ rest) = some (.int n, rest) := by
  have hall : ∀ c ∈ intText n, isNumChar c = true := fun c => isNumChar_of_mem_intText
  simp only [parseScalar, parseLiteral_number (isNumber_intText n), parseNumber,
    takeWhile_follows hall hr, dropWhile_follows hall hr, not_isFloatLit_intText,
    isNumber_intText, intOfText_intText]
  simp

theorem parseScalar_floatLit (t : FloatLit) {rest : List Char} (hr : Follows rest) :
    parseScalar (t.text ++ rest) = some (.float (.lit t), rest) := by
  have hok := t.ok
  simp only [isFloatLit, Bool.and_eq_true, List.all_eq_true] at hok
  simp only [parseScalar, parseLiteral_number hok.1.2, parseNumber,
    takeWhile_follows hok.1.1 hr, dropWhile_follows hok.1.1 hr, t.ok, ↓reduceDIte]

theorem parseScalar_floatText (x : PyFloat) {rest : List Char} (hr : Follows rest) :
    parseScalar (floatText x ++ rest) = some (.float x, rest) := by
  cases x with
  | lit t => exact parseScalar_floatLit t hr
  | nan => rfl
  | inf => rfl
  | negInf => rfl

theorem parseValue_scalar {c : Char} (h1 : c ≠ '"') (h2 : c ≠ '[') (h3 : c ≠ '\x7b')
    (n : ℕ) (r : List Char) : parseValue (n + 1) (c :: r) = parseScalar (c :: r) := by
  rw [parseValue]
  · rintro r' h; exact h1 (List.cons.inj h).1
  · rintro r' h; exact h2 (List.cons.inj h).1
  · rintro r' h; exact h3 (List.cons.inj h).1

/-! ### Strings -/

theorem hexVal_hexDigit {d : ℕ} (h : d < 16) : hexVal (hexDigit d) = some d := by
  interval_cases d <;> rfl

theorem parseHex4_escapeUnit {n : ℕ} (h : n < 0x10000) (cs : List Char) :
    parseHex4 ((escapeUnit n).drop 2 ++ cs) = some (n, cs) := by
  simp only [escapeUnit, List.drop_succ_cons, List.drop_zero, List.cons_append, List.nil_append,
    parseHex4, hexVal_hexDigit (Nat.mod_lt _ (by decide : 0 < 16))]
  simp only [bind, Option.bind, pure, Option.some.injEq, Prod.mk.injEq, and_true]
  omega

/-- A character is no surrogate. -/
theorem toNat_char (c : Char) :
    (c.toNat < 0xd800 ∨ 0xe000 ≤ c.toNat) ∧ c.toNat < 0x110000 := by
  have h : c.toNat.isValidChar := c.valid
  unfold Nat.isValidChar at h
  omega

theorem charOfUnit_toNat (c : Char) : charOfUnit c.toNat = c := by
  have hs := (toNat_char c).1
  rw [charOfUnit, if_neg (by omega), Char.ofNat_toNat]

theorem parseUnicode_unit {n : ℕ} {cs r : List Char} (h : parseHex4 cs = some (n, r))
    (hn : ¬ (0xd800 ≤ n ∧ n < 0xdc00)) : parseUnicode cs = some (charOfUnit n, r) := by
  rw [parseUnicode, h]
  exact if_neg hn

theorem parseUnicode_pair {n m : ℕ} {cs r r' : List Char}
    (h : parseHex4 cs = some (n, '\\' :: 'u' :: r)) (hn : 0xd800 ≤ n ∧ n < 0xdc00)
    (h' : parseHex4 r = some (m, r')) (hm : 0xdc00 ≤ m ∧ m < 0xe000) :
    parseUnicode cs = some (Char.ofNat (0x10000 + (n - 0xd800) * 1024 + (m - 0xdc00)), r') := by
  rw [parseUnicode, h]
  refine (if_pos hn).trans ?_
  simp only [h', if_pos hm]

theorem surrogates_value {n : ℕ} (h : 0x10000 ≤ n) :
    0x10000 + (0xd800 + (n - 0x10000) / 1024 - 0xd800) * 1024 +
      (0xdc00 + (n - 0x10000) % 1024 - 0xdc00) = n := by
  omega

theorem parseUnicode_escapeUnicode (c : Char) (cs : List Char) :
    parseUnicode ((escapeUnicode c.toNat).drop 2 ++ cs) = some (c, cs) := by
  obtain ⟨hs, hlt⟩ := toNat_char c
  unfold escapeUnicode
  split_ifs with h
  · rw [parseUnicode_unit (parseHex4_escapeUnit h cs) (by omega), charOfUnit_toNat]
  · have hdrop : (escapeUnit (0xd800 + (c.toNat - 0x10000) / 1024) ++
        escapeUnit (0xdc00 + (c.toNat - 0x10000) % 1024)).drop 2 ++ cs =
        (escapeUnit (0xd800 + (c.toNat - 0x10000) / 1024)).drop 2 ++
          ('\\' :: 'u' :: ((escapeUnit (0xdc00 + (c.toNat - 0x10000) % 1024)).drop 2 ++ cs)) := by
      simp only [escapeUnit, List.cons_append, List.nil_append, List.drop_succ_cons, List.drop_zero]
    rw [hdrop, parseUnicode_pair (parseHex4_escapeUnit (by omega) _) (by omega)
      (parseHex4_escapeUnit (by omega) _) (by omega), surrogates_value (by omega), Char.ofNat_toNat]

theorem parseString_escape {cs : List Char} {c : Char} {r : List Char} {n : ℕ}
    (h : parseEscape cs = some (c, r)) :
    parseString (n + 1) ('\\' :: cs) = (parseString n r).map fun s => (c :: s.1, s.2) := by
  simp [parseString, h]

theorem parseString_escapeChar (c : Char) (n : ℕ) (cs : List Char) :
    parseString (n + 1) (escapeChar c ++ cs) =
      (parseString n cs).map fun s => (c :: s.1, s.2) := by
  unfold escapeChar
  split_ifs with h1 h2 h3 h4 h5 h6 h7 h8
  · subst h1; exact parseString_escape rfl
  · subst h2; exact parseString_escape rfl
  · subst h3; exact parseString_escape rfl
  · subst h4; exact parseString_escape rfl
  · subst h5; exact parseString_escape rfl
  · subst h6; exact parseString_escape rfl
  · subst h7; exact parseString_escape rfl
  · have : ¬ c.toNat < 32 := by omega
    simp [parseString, h1, h2, this]
  · have hu : escapeUnicode c.toNat = '\\' :: 'u' :: (escapeUnicode c.toNat).drop 2 := by
      unfold escapeUnicode
      split_ifs <;> simp [escapeUnit]
    rw [hu]
    refine parseString_escape ?_
    change parseEscape ('u' :: ((escapeUnicode c.toNat).drop 2 ++ cs)) = some (c, cs)
    rw [parseEscape, if_pos rfl, parseUnicode_escapeUnicode]

/-- The decoder reads a quoted string back. -/
theorem parseString_flatMap (s : List Char) {n : ℕ} (hn : s.length < n) (rest : List Char) :
    parseString n (s.flatMap escapeChar ++ '"' :: rest) = some (s, rest) := by
  induction s generalizing n with
  | nil =>
    obtain ⟨n, rfl⟩ := Nat.exists_eq_add_of_lt hn
    simp [parseString]
  | cons c s ih =>
    obtain ⟨n, rfl⟩ : ∃ m, n = m + 1 := ⟨n - 1, by simp at hn; omega⟩
    rw [List.flatMap_cons, List.append_assoc, parseString_escapeChar,
      ih (by simpa using hn)]
    rfl

theorem length_escapeChar (c : Char) : 0 < (escapeChar c).length := by
  unfold escapeChar escapeUnicode escapeUnit
  split_ifs <;> simp

theorem length_le_flatMap (s : List Char) : s.length ≤ (s.flatMap escapeChar).length := by
  induction s with
  | nil => simp
  | cons c s ih =>
    have := length_escapeChar c
    rw [List.flatMap_cons, List.length_append, List.length_cons]
    omega

theorem parseString_quote (s : String) {n : ℕ} (hn : (quote s).length ≤ n) (rest : List Char) :
    ∃ r, quote s ++ rest = '"' :: r ∧ parseString n r = some (s.toList, rest) := by
  refine ⟨s.toList.flatMap escapeChar ++ '"' :: rest, by simp [quote], ?_⟩
  refine parseString_flatMap _ ?_ rest
  have := length_le_flatMap s.toList
  simp only [quote, List.length_cons, List.length_append] at hn
  omega

/-! ### Values -/

theorem number_head {t : List Char} (h : isNumber t = true) :
    ∃ c r, t = c :: r ∧ c ≠ '"' ∧ c ≠ '[' ∧ c ≠ '\x7b' := by
  obtain ⟨d, r, hd, rfl | rfl⟩ := isNumber_head h
  · have hne : ∀ c : Char, c.isDigit = false → d ≠ c := fun c hc hdc => by
      rw [← hdc, hd] at hc; exact absurd hc (by decide)
    exact ⟨d, r, rfl, hne _ rfl, hne _ rfl, hne _ rfl⟩
  · exact ⟨'-', _, rfl, by decide, by decide, by decide⟩

theorem intText_head (n : ℤ) : ∃ c r, intText n = c :: r ∧ c ≠ '"' ∧ c ≠ '[' ∧ c ≠ '\x7b' :=
  number_head (isNumber_intText n)

theorem floatText_head (x : PyFloat) :
    ∃ c r, floatText x = c :: r ∧ c ≠ '"' ∧ c ≠ '[' ∧ c ≠ '\x7b' := by
  cases x with
  | lit t =>
    have hok := t.ok
    simp only [isFloatLit, Bool.and_eq_true] at hok
    exact number_head hok.1.2
  | nan => exact ⟨'N', _, rfl, by decide, by decide, by decide⟩
  | inf => exact ⟨'I', _, rfl, by decide, by decide, by decide⟩
  | negInf => exact ⟨'-', _, rfl, by decide, by decide, by decide⟩

/-- The text of a value starts with neither white space nor a closing bracket. -/
theorem dumps_head (j : Json) :
    ∃ c r, dumps j = c :: r ∧ isWs c = false ∧ c ≠ ']' ∧ c ≠ '\x7d' := by
  have number : ∀ t : List Char, isNumber t = true →
      ∃ c r, t = c :: r ∧ isWs c = false ∧ c ≠ ']' ∧ c ≠ '\x7d' := by
    intro t ht
    obtain ⟨d, r, hd, rfl | rfl⟩ := isNumber_head ht
    · have hne : ∀ c : Char, c.isDigit = false → d ≠ c := fun c hc hdc => by
        rw [← hdc, hd] at hc; exact absurd hc (by decide)
      exact ⟨d, r, rfl, by simp [isWs, hne ' ' rfl, hne '\t' rfl, hne '\n' rfl, hne '\r' rfl],
        hne _ rfl, hne _ rfl⟩
    · exact ⟨'-', d :: r, rfl, rfl, by decide, by decide⟩
  cases j with
  | null => exact ⟨'n', _, by rw [dumps], rfl, by decide, by decide⟩
  | bool b =>
    cases b
    · exact ⟨'f', _, by rw [dumps], rfl, by decide, by decide⟩
    · exact ⟨'t', _, by rw [dumps], rfl, by decide, by decide⟩
  | int n => rw [dumps]; exact number _ (isNumber_intText n)
  | float x =>
    rw [dumps]
    cases x with
    | lit t =>
      have hok := t.ok
      simp only [isFloatLit, Bool.and_eq_true] at hok
      exact number _ hok.1.2
    | nan => exact ⟨'N', _, rfl, rfl, by decide, by decide⟩
    | inf => exact ⟨'I', _, rfl, rfl, by decide, by decide⟩
    | negInf => exact ⟨'-', _, rfl, rfl, by decide, by decide⟩
  | str s => exact ⟨'"', _, by rw [dumps, quote], rfl, by decide, by decide⟩
  | arr l => exact ⟨'[', _, by rw [dumps], rfl, by decide, by decide⟩
  | obj ms => exact ⟨'\x7b', _, by rw [dumps], rfl, by decide, by decide⟩

theorem skipWs_cons {c : Char} {r : List Char} (h : isWs c = false) : skipWs (c :: r) = c :: r := by
  simp [skipWs, h]

theorem skipWs_space (r : List Char) : skipWs (' ' :: r) = skipWs r := rfl

theorem skipWs_dumps (j : Json) (rest : List Char) : skipWs (dumps j ++ rest) = dumps j ++ rest := by
  obtain ⟨c, r, hj, hws, -, -⟩ := dumps_head j
  rw [hj, List.cons_append, skipWs_cons hws]

theorem parseValue_arr {c : Char} {r : List Char} (hw : isWs c = false) (hc : c ≠ ']') (n : ℕ) :
    parseValue (n + 1) ('[' :: c :: r) =
      (parseElems n (c :: r)).map fun l => (.arr l.1, l.2) := by
  rw [parseValue, skipWs_cons hw]
  split
  · rename_i heq
    exact absurd (List.cons.inj heq).1 hc
  · rfl

theorem parseValue_obj {c : Char} {r : List Char} (hw : isWs c = false) (hc : c ≠ '\x7d') (n : ℕ) :
    parseValue (n + 1) ('\x7b' :: c :: r) =
      (parseMembers n (c :: r)).map fun l => (.obj l.1, l.2) := by
  rw [parseValue, skipWs_cons hw]
  split
  · rename_i heq
    exact absurd (List.cons.inj heq).1 hc
  · rfl

theorem dumpsElems_head (v : Json) (vs : List Json) :
    ∃ c r, dumpsElems (v :: vs) = c :: r ∧ isWs c = false ∧ c ≠ ']' := by
  obtain ⟨c, r, hv, hws, hc, -⟩ := dumps_head v
  cases vs with
  | nil => exact ⟨c, _, by rw [dumpsElems, hv]; rfl, hws, hc⟩
  | cons w ws => exact ⟨c, _, by rw [dumpsElems, hv]; rfl; exact List.cons_ne_nil _ _, hws, hc⟩

theorem dumpsMembers_cons (k : String) (v : Json) (ms : List (String × Json)) :
    ∃ t, dumpsMembers ((k, v) :: ms) = quote k ++ (':' :: ' ' :: (dumps v ++ t)) ∧
      (ms = [] ∧ t = ['\x7d'] ∨ ms ≠ [] ∧ t = ',' :: ' ' :: dumpsMembers ms) := by
  cases ms with
  | nil => exact ⟨_, by rw [dumpsMembers], Or.inl ⟨rfl, rfl⟩⟩
  | cons m ms =>
    exact ⟨_, by rw [dumpsMembers]; exact List.cons_ne_nil _ _,
      Or.inr ⟨List.cons_ne_nil _ _, rfl⟩⟩

theorem dumpsElems_cons (v : Json) (vs : List Json) :
    ∃ t, dumpsElems (v :: vs) = dumps v ++ t ∧
      (vs = [] ∧ t = [']'] ∨ vs ≠ [] ∧ t = ',' :: ' ' :: dumpsElems vs) := by
  cases vs with
  | nil => exact ⟨_, by rw [dumpsElems], Or.inl ⟨rfl, rfl⟩⟩
  | cons w ws =>
    exact ⟨_, by rw [dumpsElems]; exact List.cons_ne_nil _ _,
      Or.inr ⟨List.cons_ne_nil _ _, rfl⟩⟩

mutual

/-- The decoder reads the text of a value off the front of a longer text. -/
theorem parseValue_dumps : ∀ (j : Json) (n : ℕ) (rest : List Char), (dumps j).length < n →
    Follows rest → parseValue n (dumps j ++ rest) = some (j, rest)
  | .null, n + 1, rest, _, _ => by
    rw [dumps]; rfl
  | .bool true, n + 1, rest, _, _ => by
    rw [dumps]; rfl
  | .bool false, n + 1, rest, _, _ => by
    rw [dumps]; rfl
  | .int i, n + 1, rest, _, hr => by
    rw [dumps, ← parseScalar_intText i hr]
    obtain ⟨c, t, h, h1, h2, h3⟩ := intText_head i
    rw [h]
    exact parseValue_scalar h1 h2 h3 n _
  | .float x, n + 1, rest, _, hr => by
    rw [dumps, ← parseScalar_floatText x hr]
    obtain ⟨c, t, h, h1, h2, h3⟩ := floatText_head x
    rw [h]
    exact parseValue_scalar h1 h2 h3 n _
  | .str s, n + 1, rest, hn, _ => by
    rw [dumps] at hn ⊢
    obtain ⟨r, hq, hs⟩ := parseString_quote s (n := n) (by omega) rest
    rw [hq, parseValue, hs]
    simp
  | .arr [], n + 1, rest, _, _ => by
    rw [dumps, dumpsElems]; rfl
  | .arr (v :: vs), n + 1, rest, hn, _ => by
    obtain ⟨c, r, h, hw, hc⟩ := dumpsElems_head v vs
    have ih := parseElems_dumps (v :: vs) n rest (List.cons_ne_nil _ _)
      (by rw [dumps, List.length_cons] at hn; omega)
    rw [h, List.cons_append] at ih
    rw [dumps, h, List.cons_append, List.cons_append, parseValue_arr hw hc, ih]
    rfl
  | .obj [], n + 1, rest, _, _ => by
    rw [dumps, dumpsMembers]; rfl
  | .obj ((k, v) :: ms), n + 1, rest, hn, _ => by
    have ih := parseMembers_dumps ((k, v) :: ms) n rest (List.cons_ne_nil _ _)
      (by rw [dumps, List.length_cons] at hn; omega)
    obtain ⟨t, ht, -⟩ := dumpsMembers_cons k v ms
    rw [ht, quote, List.cons_append, List.cons_append] at ih
    rw [dumps, ht, quote, List.cons_append, List.cons_append, List.cons_append,
      parseValue_obj rfl (by decide), ih]
    rfl

/-- The decoder reads the elements of an array. -/
theorem parseElems_dumps : ∀ (l : List Json) (n : ℕ) (rest : List Char), l ≠ [] →
    (dumpsElems l).length < n → parseElems n (dumpsElems l ++ rest) = some (l, rest)
  | v :: vs, n + 1, rest, _, hn => by
    obtain ⟨t, ht, htail⟩ := dumpsElems_cons v vs
    rw [ht, List.length_append] at hn
    have hv : Follows (t ++ rest) := by
      rcases htail with ⟨-, rfl⟩ | ⟨-, rfl⟩ <;> exact follows_cons (by decide)
    have htl : 0 < t.length := by
      rcases htail with ⟨-, rfl⟩ | ⟨-, rfl⟩ <;> simp
    rw [ht, List.append_assoc, parseElems,
      parseValue_dumps v n (t ++ rest) (by omega) hv]
    rcases htail with ⟨rfl, rfl⟩ | ⟨hvs, rfl⟩
    · rfl
    · obtain ⟨w, ws, rfl⟩ := List.exists_cons_of_ne_nil hvs
      have ih := parseElems_dumps (w :: ws) n rest hvs
        (by simp only [List.length_cons] at hn; omega)
      obtain ⟨c, r, h, hw, -⟩ := dumpsElems_head w ws
      have hskip : skipWs (' ' :: (dumpsElems (w :: ws) ++ rest)) = dumpsElems (w :: ws) ++ rest := by
        rw [h, List.cons_append, skipWs_space, skipWs_cons hw]
      change (parseElems n (skipWs (' ' :: (dumpsElems (w :: ws) ++ rest)))).map _ = _
      rw [hskip, ih]
      rfl

/-- The decoder reads the members of an object. -/
theorem parseMembers_dumps : ∀ (ms : List (String × Json)) (n : ℕ) (rest : List Char), ms ≠ [] →
    (dumpsMembers ms).length < n → parseMembers n (dumpsMembers ms ++ rest) = some (ms, rest)
  | (k, v) :: ms, n + 1, rest, _, hn => by
    obtain ⟨t, ht, htail⟩ := dumpsMembers_cons k v ms
    rw [ht] at hn
    simp only [List.length_append, List.length_cons] at hn
    -- the value ends before a brace or a comma, which continue no number
    have hv : Follows (t ++ rest) := by
      rcases htail with ⟨-, rfl⟩ | ⟨-, rfl⟩ <;> exact follows_cons (by decide)
    have htl : 0 < t.length := by
      rcases htail with ⟨-, rfl⟩ | ⟨-, rfl⟩ <;> simp
    obtain ⟨r, hq, hs⟩ := parseString_quote k (n := n) (by omega)
      (':' :: ' ' :: (dumps v ++ t) ++ rest)
    have hskip : skipWs (' ' :: (dumps v ++ (t ++ rest))) = dumps v ++ (t ++ rest) := by
      rw [skipWs_space, skipWs_dumps]
    have hval : parseValue n (skipWs (' ' :: (dumps v ++ t ++ rest))) = some (v, t ++ rest) := by
      rw [List.append_assoc, hskip]
      exact parseValue_dumps v n (t ++ rest) (by omega) hv
    rw [ht, List.append_assoc, hq, parseMembers, hs]
    simp only [List.cons_append, skipWs_cons (show isWs ':' = false from rfl), hval,
      String.ofList_toList]
    rcases htail with ⟨rfl, rfl⟩ | ⟨hms, rfl⟩
    · rfl
    · obtain ⟨⟨l, w⟩, ws, rfl⟩ := List.exists_cons_of_ne_nil hms
      have ih := parseMembers_dumps ((l, w) :: ws) n rest hms
        (by simp only [List.length_cons] at hn; omega)
      have hskip' : skipWs (' ' :: (dumpsMembers ((l, w) :: ws) ++ rest)) =
          dumpsMembers ((l, w) :: ws) ++ rest := by
        obtain ⟨u, hu, -⟩ := dumpsMembers_cons l w ws
        rw [hu, skipWs_space]
        exact skipWs_cons rfl
      change ((parseMembers n (skipWs (' ' :: (dumpsMembers ((l, w) :: ws) ++ rest)))).map _) = _
      rw [hskip', ih]
      rfl

end

/-- **Round trip.** Decoding the text of a value gives the value back. -/
theorem loads_dumps (j : Json) : loads (dumps j) = some j := by
  have hs := skipWs_dumps j []
  have hp := parseValue_dumps j ((dumps j).length + 1) [] (by omega) follows_nil
  rw [List.append_nil] at hs hp
  rw [loads, hs, hp]
  rfl

theorem dumps_injective : Function.Injective dumps := fun a b h =>
  Option.some.inj (by rw [← loads_dumps a, h, loads_dumps b])

/-! ### The text is printable -/

/-- A printable ASCII character. -/
def Printable (c : Char) : Prop := 32 ≤ c.toNat ∧ c.toNat ≤ 126

instance : DecidablePred Printable := fun _ => inferInstanceAs (Decidable (_ ∧ _))

theorem printable_of_isNumChar {c : Char} (h : isNumChar c = true) : Printable c := by
  simp only [isNumChar, Bool.or_eq_true, decide_eq_true_eq, Char.isDigit, Bool.and_eq_true,
    UInt32.le_iff_toNat_le] at h
  rcases h with ((((h | rfl) | rfl) | rfl) | rfl) | rfl
  · exact ⟨le_trans (by decide) h.1, le_trans h.2 (by decide)⟩
  all_goals decide

theorem printable_hexDigit (d : ℕ) : Printable (hexDigit (d % 16)) := by
  have h : d % 16 < 16 := Nat.mod_lt _ (by decide)
  interval_cases d % 16 <;> decide

theorem printable_escapeUnit (n : ℕ) : ∀ c ∈ escapeUnit n, Printable c := by
  intro c hc
  simp only [escapeUnit, List.mem_cons, List.not_mem_nil, or_false] at hc
  rcases hc with rfl | rfl | rfl | rfl | rfl | rfl
  · decide
  · decide
  all_goals exact printable_hexDigit _

theorem printable_of_all {l : List Char} (h : (l.all fun c => decide (Printable c)) = true) :
    ∀ c ∈ l, Printable c :=
  fun c hc => of_decide_eq_true (List.all_eq_true.1 h c hc)

theorem printable_escapeChar (a : Char) : ∀ c ∈ escapeChar a, Printable c := by
  have pair : ∀ b : Char, Printable b → ∀ c ∈ ['\\', b], Printable c := by
    intro b hb c hc
    simp only [List.mem_cons, List.not_mem_nil, or_false] at hc
    rcases hc with rfl | rfl
    · decide
    · exact hb
  unfold escapeChar
  split_ifs with h1 h2 h3 h4 h5 h6 h7 h8
  · exact pair _ (by decide)
  · exact pair _ (by decide)
  · exact pair _ (by decide)
  · exact pair _ (by decide)
  · exact pair _ (by decide)
  · exact pair _ (by decide)
  · exact pair _ (by decide)
  · intro c hc
    rw [List.mem_singleton.1 hc]
    exact h8
  · unfold escapeUnicode
    split_ifs
    · exact printable_escapeUnit _
    · intro c hc
      exact (List.mem_append.1 hc).elim (printable_escapeUnit _ c) (printable_escapeUnit _ c)

theorem printable_quote (s : String) : ∀ c ∈ quote s, Printable c := by
  intro c hc
  simp only [quote, List.mem_cons, List.mem_append, List.mem_flatMap, List.not_mem_nil,
    or_false] at hc
  rcases hc with rfl | ⟨a, -, ha⟩ | rfl
  · decide
  · exact printable_escapeChar a c ha
  · decide

theorem printable_floatText (x : PyFloat) : ∀ c ∈ floatText x, Printable c := by
  cases x with
  | lit t =>
    have hok := t.ok
    simp only [isFloatLit, Bool.and_eq_true, List.all_eq_true] at hok
    exact fun c hc => printable_of_isNumChar (hok.1.1 c hc)
  | nan => rw [floatText]; exact printable_of_all (by decide)
  | inf => rw [floatText]; exact printable_of_all (by decide)
  | negInf => rw [floatText]; exact printable_of_all (by decide)

mutual

theorem printable_dumps : ∀ (j : Json), ∀ c ∈ dumps j, Printable c
  | .null => by rw [dumps]; exact printable_of_all (by decide)
  | .bool true => by rw [dumps]; exact printable_of_all (by decide)
  | .bool false => by rw [dumps]; exact printable_of_all (by decide)
  | .int n => by
    rw [dumps]
    exact fun c hc => printable_of_isNumChar (isNumChar_of_mem_intText hc)
  | .float x => by rw [dumps]; exact printable_floatText x
  | .str s => by rw [dumps]; exact printable_quote s
  | .arr l => by
    rw [dumps]
    exact List.forall_mem_cons.2 ⟨by decide, printable_dumpsElems l⟩
  | .obj ms => by
    rw [dumps]
    exact List.forall_mem_cons.2 ⟨by decide, printable_dumpsMembers ms⟩

theorem printable_dumpsElems : ∀ (l : List Json), ∀ c ∈ dumpsElems l, Printable c
  | [] => by rw [dumpsElems]; exact printable_of_all (by decide)
  | v :: vs => by
    obtain ⟨t, ht, htail⟩ := dumpsElems_cons v vs
    rw [ht, List.forall_mem_append]
    refine ⟨printable_dumps v, ?_⟩
    rcases htail with ⟨-, rfl⟩ | ⟨-, rfl⟩
    · exact printable_of_all (by decide)
    · exact List.forall_mem_cons.2
        ⟨by decide, List.forall_mem_cons.2 ⟨by decide, printable_dumpsElems vs⟩⟩

theorem printable_dumpsMembers : ∀ (ms : List (String × Json)), ∀ c ∈ dumpsMembers ms, Printable c
  | [] => by rw [dumpsMembers]; exact printable_of_all (by decide)
  | (k, v) :: ms => by
    obtain ⟨t, ht, htail⟩ := dumpsMembers_cons k v ms
    rw [ht, List.forall_mem_append]
    refine ⟨printable_quote k, List.forall_mem_cons.2 ⟨by decide,
      List.forall_mem_cons.2 ⟨by decide, List.forall_mem_append.2 ⟨printable_dumps v, ?_⟩⟩⟩⟩
    rcases htail with ⟨-, rfl⟩ | ⟨-, rfl⟩
    · exact printable_of_all (by decide)
    · exact List.forall_mem_cons.2
        ⟨by decide, List.forall_mem_cons.2 ⟨by decide, printable_dumpsMembers ms⟩⟩

end

/-- The text of an object ends with its brace. -/
theorem dumpsMembers_getLast (ms : List (String × Json)) :
    (dumpsMembers ms).getLast? = some '\x7d' := by
  induction ms with
  | nil => rw [dumpsMembers]; rfl
  | cons m ms ih =>
    obtain ⟨t, ht, htail⟩ := dumpsMembers_cons m.1 m.2 ms
    have hlast : t.getLast? = some '\x7d' := by
      rcases htail with ⟨-, rfl⟩ | ⟨-, rfl⟩
      · rfl
      · rw [List.getLast?_cons, List.getLast?_cons, ih]; rfl
    rw [ht, List.getLast?_append, List.getLast?_cons, List.getLast?_cons, List.getLast?_append,
      hlast]
    rfl

end Json

end AnnyRuntime
