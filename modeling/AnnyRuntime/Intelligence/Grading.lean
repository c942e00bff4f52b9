import AnnyRuntime.Json.Access
import AnnyRuntime.Json.Number
import AnnyRuntime.Json.RoundTrip
import AnnyRuntime.Lib.Dict
import AnnyRuntime.Lib.Rounding
import AnnyRuntime.Lib.SequenceMatcher
import AnnyRuntime.Lib.Text
import Mathlib.Data.Finset.Card

/-!
# Grading

The engine grades the output of a model by one of several methods.  Scores and the numbers that are
compared are exact; of a result the details, which nothing reads, are left out.

* `exactMatch_spec`, `semanticGrading_spec`, `referenceComparison_spec`, `taskSuccess_inRange`,
  `taskSuccess_score` : these methods give a score between zero and one, and one for the expected value.
* `graded_iff` : **so does every automatic method, but a structured match exactly when the output is
  handled**: it is no JSON, or an object whose numbers are not too large, and values that are equal
  to the expected ones print like them.
-/

namespace AnnyRuntime

namespace Grading

/-! ### Values -/

/-- What the engine takes from Python. -/
structure Interpreter where
  arith : FloatArith
  /-- `str(v)`, of a value that is no string. -/
  str : Json → String
  /-- `str.lower`. -/
  lower : String → String
  /-- The characters that `\w` matches. -/
  word : Char → Bool
  /-- What `json.loads` raises because a text is nested too deep or has too long a number. -/
  refuses : String → Option String

/-- `str(v)`. -/
def Interpreter.pyStr (I : Interpreter) : Json → String
  | .str s => s
  | v => I.str v

/-- `json.loads`, unless it raises. -/
def Interpreter.loads (I : Interpreter) (text : String) : Except PyException Json :=
  match I.refuses text with
  | some message => .error ⟨.other, message⟩
  | none =>
    match Json.loads text.toList with
    | some v => .ok v
    | none => .error ⟨.jsonDecodeError, ""⟩

/-- A value, or the one that its text is. -/
def Interpreter.parse (I : Interpreter) : Json → Except PyException Json
  | .str text => I.loads text
  | v => .ok v

/-- `GradingResult`, without its details. -/
structure GradingResult where
  score : ℚ
  confidence : ℚ
  gradingMethod : String
  passed : Bool
  deriving DecidableEq

/-- `PASSING_THRESHOLD`. -/
def passingThreshold : ℚ := 1 / 2

/-- The smallest integer that no float is near. -/
def tooLargeInt : ℕ := 2 ^ 1024 - 2 ^ 970

/-- `float(x)` raises an `OverflowError`. -/
def tooLarge : PyNumber → Bool
  | .int n => tooLargeInt ≤ n.natAbs
  | .float _ => false

/-- A finite value. -/
def finite? : NumberValue → Option ℚ
  | some (some q) => some q
  | _ => none

section Engine

variable (I : Interpreter)

/-- `float(x)`; `NaN` has no value. -/
def floatOf (x : PyNumber) : Except PyException (Option NumberValue) :=
  if tooLarge x then .error ⟨.other, "int too large to convert to float"⟩
  else .ok (x.value? I.arith)

/-- `abs(x - y) <= tolerance + abs(y) * 0.01`. -/
def close (tolerance : ℚ) : Option NumberValue → Option NumberValue → Bool
  | some x, some y =>
    match finite? x, finite? y with
    | some p, some q => |p - q| ≤ tolerance + |q| / 100
    | none, some _ => false
    -- an infinity is as near to the other values as its distance from zero, but not to itself
    | _, none => x ≠ y
  | _, _ => false

/-- `str(v).strip().lower()`. -/
def plainText (v : Json) : String := I.lower (String.ofList (Text.strip (I.pyStr v).toList))

/-- `_values_match`. -/
def valuesMatch (tolerance : ℚ) (a b : Json) : Except PyException Bool :=
  if a = .null then .ok false
  else
    match a.number?, b.number? with
    | some x, some y => do
      let x ← floatOf I x
      let y ← floatOf I y
      return close tolerance x y
    | _, _ => .ok (plainText I a = plainText I b)

/-- White space is replaced by one blank. -/
def collapse : List Char → List Char
  | [] => []
  | c :: cs =>
    if Text.isSpace c then
      if (cs.head?.any Text.isSpace) then collapse cs else ' ' :: collapse cs
    else c :: collapse cs

/-- `_normalize_str`. -/
def normalizeStr (s : String) : String :=
  String.ofList (collapse (I.lower (String.ofList (Text.strip s.toList))).toList)

/-- Words that say nothing. -/
def stopwords : List String :=
  ["the", "a", "an", "is", "in", "of", "to", "and", "or", "for", "it", "this", "that", "with", "as",
    "be", "are", "was", "were", "by", "at", "from", "on"]

/-- `_tokenize`. -/
def tokenize (s : String) : List String :=
  let kept := (I.lower s).toList.filter fun c => I.word c || Text.isSpace c
  (((kept.splitOnP Text.isSpace).filter (· ≠ [])).map String.ofList).filter fun t =>
    1 < t.toList.length ∧ t ∉ stopwords

/-- A character that ends a line. -/
def isLineBreak (c : Char) : Bool :=
  let n := c.toNat
  (10 ≤ n && n ≤ 13) || (28 ≤ n && n ≤ 30) || n = 0x85 || n = 0x2028 || n = 0x2029

/-- `str.splitlines(keepends=True)`. -/
def splitlinesKeep : List Char → List (List Char)
  | [] => []
  | '\r' :: '\n' :: cs => ['\r', '\n'] :: splitlinesKeep cs
  | c :: cs =>
    if isLineBreak c then [c] :: splitlinesKeep cs
    else
      match splitlinesKeep cs with
      | [] => [[c]]
      | l :: ls => (c :: l) :: ls

/-! ### Methods -/

/-- `exact_match`. -/
def exactMatch (output expected : Json) : GradingResult :=
  let matched : Bool := normalizeStr I (I.pyStr output) = normalizeStr I (I.pyStr expected)
  ⟨if matched then 1 else 0, 1, "exact_match", matched⟩

/-- Whether the values of an output match those that are expected, unless that raises. -/
def matchAll (tolerance : ℚ) (output : Json) : List (String × Json) → Except PyException (List Bool)
  | [] => .ok []
  | (key, expected) :: items => do
    let value ← output.get key
    let matched ← valuesMatch I tolerance value expected
    let rest ← matchAll tolerance output items
    return matched :: rest

/-- `structured_match`. -/
def structuredMatch (output expected : Json) (tolerance : ℚ := 0) :
    Except PyException GradingResult :=
  match (do return (← I.parse output, ← I.parse expected) : Except PyException (Json × Json)) with
  | .error e =>
    if e.kind = .jsonDecodeError then .ok ⟨0, 9 / 10, "structured_match", false⟩ else .error e
  | .ok (out, .obj ms) => do
    let matched ← matchAll I tolerance out (Dict.ofList ms).entries
    let total := matched.length
    let score : ℚ := if 0 < total then (matched.count true : ℚ) / total else 0
    return ⟨score, if 0 < total then 95 / 100 else 1 / 2, "structured_match",
      decide (passingThreshold ≤ score)⟩
  | .ok (_, v) => .error (attributeError v.typeName "items")

/-- `semantic_grading`. -/
def semanticGrading (output expected : Json) : GradingResult :=
  let outTokens := (tokenize I (I.pyStr output)).toFinset
  let expTokens := (tokenize I (I.pyStr expected)).toFinset
  if expTokens = ∅ then ⟨0, 1 / 2, "semantic_grading", false⟩
  else
    let common := (outTokens ∩ expTokens).card
    let jaccard : ℚ := common / (outTokens ∪ expTokens).card
    let recall' : ℚ := common / expTokens.card
    let score := 3 / 5 * jaccard + 2 / 5 * recall'
    ⟨roundTo 4 score, roundTo 4 (min (95 / 100) (1 / 2 + 5 / 100 * expTokens.card)),
      "semantic_grading", decide (passingThreshold ≤ score)⟩

/-- `reference_comparison`. -/
def referenceComparison (output expected : Json) : GradingResult :=
  let ratio := SequenceMatcher.ratio (splitlinesKeep (I.pyStr expected).toList)
    (splitlinesKeep (I.pyStr output).toList)
  ⟨roundTo 4 ratio, 85 / 100, "reference_comparison", decide (passingThreshold ≤ ratio)⟩

/-- The keys that an output has to have. -/
def requiredKeysOf (expected : Json) : Option (List String) → List String
  | some (key :: keys) => key :: keys
  | _ =>
    match expected with
    | .obj ms => (Dict.ofList ms).keys
    | _ => []

/-- `task_success`. -/
def taskSuccess (output expected : Json) (requiredKeys : Option (List String) := none) :
    GradingResult :=
  match I.parse output with
  | .ok (.obj ms) =>
    let keys := requiredKeysOf expected requiredKeys
    let missing := keys.filter fun key => (Json.lookup key ms).isNone
    let passed : Bool := missing.length = 0
    let score : ℚ := if passed then 1
      else if keys = [] then 0 else ((keys.length - missing.length : ℕ) : ℚ) / keys.length
    ⟨roundTo 4 score, 95 / 100, "task_success", passed⟩
  | _ => ⟨0, 95 / 100, "task_success", false⟩

/-- `human_adjudication`. -/
def humanAdjudication : GradingResult := ⟨1 / 2, 0, "human_adjudication", false⟩

/-- `grade`, without further details. -/
def grade (method : String) (output expected : Json) : Except PyException GradingResult :=
  if method = "exact_match" then .ok (exactMatch I output expected)
  else if method = "structured_match" then structuredMatch I output expected
  else if method = "semantic_grading" then .ok (semanticGrading I output expected)
  else if method = "reference_comparison" then .ok (referenceComparison I output expected)
  else if method = "task_success" then .ok (taskSuccess I output expected)
  else if method = "human_adjudication" then .ok humanAdjudication
  else .error ⟨.other, "Unknown grading method: " ++ method⟩

end Engine

/-! ### The text methods -/

section Text

variable {I : Interpreter} {output expected : Json}

/-- A score between zero and one. -/
def GradingResult.InRange (r : GradingResult) : Prop := 0 ≤ r.score ∧ r.score ≤ 1

/-- **An exact match.** -/
theorem exactMatch_spec (I : Interpreter) (output expected : Json) :
    (exactMatch I output expected).InRange ∧ (exactMatch I expected expected).score = 1 := by
  refine ⟨?_, by simp [exactMatch]⟩
  unfold GradingResult.InRange exactMatch
  dsimp only
  split_ifs <;> norm_num

theorem div_card_mem {s t : Finset String} (h : s ⊆ t) :
    (0 : ℚ) ≤ s.card / t.card ∧ (s.card : ℚ) / t.card ≤ 1 :=
  ⟨div_nonneg (Nat.cast_nonneg _) (Nat.cast_nonneg _),
    div_le_one_of_le₀ (Nat.cast_le.2 (Finset.card_le_card h)) (Nat.cast_nonneg _)⟩

/-- **Semantic grading**, of texts with a token. -/
theorem semanticGrading_spec (I : Interpreter) (output expected : Json) :
    (semanticGrading I output expected).InRange ∧
      (tokenize I (I.pyStr expected) ≠ [] → (semanticGrading I expected expected).score = 1) := by
  unfold GradingResult.InRange semanticGrading
  dsimp only
  constructor
  · split_ifs
    · norm_num
    · obtain ⟨hj₀, hj₁⟩ := div_card_mem
        (s := (tokenize I (I.pyStr output)).toFinset ∩ (tokenize I (I.pyStr expected)).toFinset)
        (t := (tokenize I (I.pyStr output)).toFinset ∪ (tokenize I (I.pyStr expected)).toFinset)
        (Finset.inter_subset_left.trans Finset.subset_union_left)
      obtain ⟨hr₀, hr₁⟩ := div_card_mem
        (s := (tokenize I (I.pyStr output)).toFinset ∩ (tokenize I (I.pyStr expected)).toFinset)
        (t := (tokenize I (I.pyStr expected)).toFinset) Finset.inter_subset_right
      exact ⟨roundTo_nonneg (by linarith), roundTo_le_one (by linarith)⟩
  · intro htokens
    have hne : (tokenize I (I.pyStr expected)).toFinset ≠ ∅ := by
      rw [Ne, List.toFinset_eq_empty_iff]
      exact htokens
    have hcard : ((tokenize I (I.pyStr expected)).toFinset.card : ℚ) ≠ 0 := by
      rw [Nat.cast_ne_zero]
      exact fun h => hne (Finset.card_eq_zero.1 h)
    have hsum : (3 : ℚ) / 5 * 1 + 2 / 5 * 1 = 1 := by norm_num
    rw [if_neg hne, Finset.inter_self, Finset.union_self, div_self hcard, hsum, roundTo_one]

/-- **A comparison with a reference.** -/
theorem referenceComparison_spec (I : Interpreter) (output expected : Json) :
    (referenceComparison I output expected).InRange ∧
      (referenceComparison I expected expected).score = 1 := by
  obtain ⟨h₀, h₁⟩ := SequenceMatcher.ratio_mem (splitlinesKeep (I.pyStr expected).toList)
    (splitlinesKeep (I.pyStr output).toList)
  refine ⟨⟨roundTo_nonneg h₀, roundTo_le_one h₁⟩, ?_⟩
  change roundTo 4 (SequenceMatcher.ratio _ _) = 1
  rw [SequenceMatcher.ratio_self, roundTo_one]

/-- **The success of a task.** -/
theorem taskSuccess_inRange (I : Interpreter) (output expected : Json)
    (requiredKeys : Option (List String)) :
    (taskSuccess I output expected requiredKeys).InRange := by
  unfold GradingResult.InRange taskSuccess
  split
  · dsimp only
    refine ⟨roundTo_nonneg ?_, roundTo_le_one ?_⟩
    · split_ifs
      · exact zero_le_one
      · exact le_rfl
      · exact div_nonneg (Nat.cast_nonneg _) (Nat.cast_nonneg _)
    · split_ifs
      · exact le_rfl
      · exact zero_le_one
      · exact div_le_one_of_le₀ (Nat.cast_le.2 (Nat.sub_le _ _)) (Nat.cast_nonneg _)
  · norm_num

/-- An output that has all required keys. -/
theorem taskSuccess_score {out : List (String × Json)} (hout : I.parse output = .ok (.obj out))
    {requiredKeys : Option (List String)}
    (hkeys : ∀ key ∈ requiredKeysOf expected requiredKeys, Json.lookup key out ≠ none) :
    (taskSuccess I output expected requiredKeys).score = 1 := by
  have hmissing : (requiredKeysOf expected requiredKeys).filter
      (fun key => (Json.lookup key out).isNone) = [] := by
    rw [List.filter_eq_nil_iff]
    intro key hkey
    rw [Option.isNone_iff_eq_none]
    exact hkeys key hkey
  rw [taskSuccess, hout]
  simp [hmissing, roundTo_one]

end Text

/-! ### Equal values -/

/-- `a == b`, of values without objects: numbers are equal by their values, and dictionaries when
they have the same keys with equal values. -/
inductive Equal (A : FloatArith) : Json → Json → Prop
  | null : Equal A .null .null
  | str (s : String) : Equal A (.str s) (.str s)
  | number {a b : Json} {x y : PyNumber} {v : NumberValue} (ha : a.number? = some x)
      (hb : b.number? = some y) (hx : x.value? A = some v) (hy : y.value? A = some v) : Equal A a b
  | arr {l l' : List Json} (h : List.Forall₂ (Equal A) l l') : Equal A (.arr l) (.arr l')
  | obj {ms ms' : List (String × Json)}
      (keys : ∀ k, Json.lookup k ms = none ↔ Json.lookup k ms' = none)
      (values : ∀ k v w, Json.lookup k ms = some v → Json.lookup k ms' = some w → Equal A v w) :
      Equal A (.obj ms) (.obj ms')

section Equal

variable {A : FloatArith} {a b : Json}

theorem Equal.of_obj {ms : List (String × Json)} {v : Json} (h : Equal A v (.obj ms)) :
    ∃ out, v = .obj out ∧ (∀ k, Json.lookup k out = none ↔ Json.lookup k ms = none) ∧
      ∀ k v w, Json.lookup k out = some v → Json.lookup k ms = some w → Equal A v w := by
  cases h with
  | number ha hb hx hy => simp [Json.number?] at hb
  | obj keys values => exact ⟨_, rfl, keys, values⟩

/-- Equal values are both numbers, or neither. -/
theorem Equal.number_cases (h : Equal A a b) :
    (a.number? = none ∧ b.number? = none) ∨
      ∃ x y v, a.number? = some x ∧ b.number? = some y ∧ x.value? A = some v ∧
        y.value? A = some v := by
  cases h with
  | null | str | arr | obj => exact .inl ⟨rfl, rfl⟩
  | number ha hb hx hy => exact .inr ⟨_, _, _, ha, hb, hx, hy⟩

theorem Equal.ne_null (h : Equal A a b) (hb : b ≠ .null) : a ≠ .null := by
  rintro rfl
  cases h with
  | null => exact hb rfl
  | number ha hb hx hy => simp [Json.number?] at ha

end Equal

/-! ### A structured match -/

section Structured

variable {I : Interpreter}

/-- The members of an expected object, or of the object that its text is. -/
def expectedObject (I : Interpreter) (expected : Json) : Option (List (String × Json)) :=
  match I.parse expected with
  | .ok (.obj ms) => some ms
  | _ => none

/-- The value is not null, and finite if it is a number. -/
def Usable (A : FloatArith) (v : Json) : Prop :=
  v ≠ .null ∧ ∀ x, v.number? = some x → ∃ q : ℚ, x.value? A = some (some (some q))

/-- **When an output is handled**: it is no JSON, or an object; the numbers that are compared are
not too large; and in an object that is equal to the expected one the other values print like the
expected ones. -/
structure Handled (I : Interpreter) (output : String) (ms : List (String × Json)) : Prop where
  notRefused : I.refuses output = none
  isObject : ∀ v, Json.loads output.toList = some v → ∃ out, v = .obj out
  small : ∀ out, Json.loads output.toList = some (.obj out) → ∀ key a b x y,
    Json.lookup key out = some a → Json.lookup key ms = some b → a.number? = some x →
    b.number? = some y → tooLarge x = false ∧ tooLarge y = false
  alike : ∀ out, Json.loads output.toList = some (.obj out) → Equal I.arith (.obj out) (.obj ms) →
    ∀ key a b, Json.lookup key out = some a → Json.lookup key ms = some b → b.number? = none →
    plainText I a = plainText I b

/-- The values of a dictionary that is made of members. -/
theorem get?_ofList (ms : List (String × Json)) (k : String) :
    (Dict.ofList ms).get? k = Json.lookup k ms := by
  induction ms using List.reverseRecOn with
  | nil => rfl
  | append_singleton ms m ih =>
    rw [Dict.ofList, List.foldl_append, List.foldl_cons, List.foldl_nil]
    change ((Dict.ofList ms).set m.1 m.2).get? k = _
    rw [Dict.get?_set, ih, Json.lookup, Json.lookup, List.reverse_append, List.reverse_singleton,
      List.singleton_append, List.lookup_cons]
    by_cases hk : k = m.1
    · simp [hk]
    · have hne : (k == m.1) = false := beq_eq_false_iff_ne.2 hk
      rw [if_neg hk, hne]

theorem mem_items {ms : List (String × Json)} {k : String} {v : Json} :
    (k, v) ∈ (Dict.ofList ms).entries ↔ Json.lookup k ms = some v := by
  rw [← Dict.get?_eq_some_iff, get?_ofList]

/-- Whether the value of an output matches a member that is expected. -/
def matchItem (I : Interpreter) (tolerance : ℚ) (out : List (String × Json)) (e : String × Json) :
    Except PyException Bool :=
  valuesMatch I tolerance ((Json.lookup e.1 out).getD .null) e.2

/-- What all matches are. -/
theorem matchAll_eq_ok_iff {tolerance : ℚ} {out : List (String × Json)}
    {items : List (String × Json)} {bs : List Bool} :
    matchAll I tolerance (.obj out) items = .ok bs ↔
      items.map (matchItem I tolerance out) = bs.map .ok := by
  induction items generalizing bs with
  | nil => cases bs <;> simp [matchAll]
  | cons e items ih =>
    obtain ⟨key, expected⟩ := e
    have hget : (Json.obj out).get key = .ok ((Json.lookup key out).getD .null) := rfl
    rw [matchAll, hget, List.map_cons]
    change (matchItem I tolerance out (key, expected) >>= _) = _ ↔ _
    cases matchItem I tolerance out (key, expected) with
    | error e => cases bs <;> simp [bind, Except.bind]
    | ok matched =>
      cases hrest : matchAll I tolerance (.obj out) items with
      | error e => cases bs <;> simp [bind, Except.bind, ← ih, hrest]
      | ok rest => cases bs <;> simp [bind, Except.bind, pure, Except.pure, ← ih, hrest]

/-- All values are matched when none of them raises. -/
theorem exists_matchAll {tolerance : ℚ} {out items : List (String × Json)}
    (h : ∀ e ∈ items, ∃ matched, matchItem I tolerance out e = .ok matched) :
    ∃ bs, matchAll I tolerance (.obj out) items = .ok bs := by
  induction items with
  | nil => exact ⟨[], rfl⟩
  | cons e items ih =>
    rw [List.forall_mem_cons] at h
    obtain ⟨⟨matched, he⟩, hitems⟩ := h
    obtain ⟨bs, hbs⟩ := ih hitems
    rw [matchAll_eq_ok_iff] at hbs
    exact ⟨matched :: bs, matchAll_eq_ok_iff.2 (by rw [List.map_cons, List.map_cons, he, hbs])⟩

/-- An output that is no object has no values. -/
theorem matchAll_of_not_obj {tolerance : ℚ} {v : Json} (hv : ∀ out, v ≠ .obj out)
    {items : List (String × Json)} (hitems : items ≠ []) :
    ∃ e, matchAll I tolerance v items = .error e := by
  obtain ⟨e, items, rfl⟩ := List.exists_cons_of_ne_nil hitems
  have hget : ∃ e', v.get e.1 = .error e' := by
    cases v with
    | obj out => exact absurd rfl (hv out)
    | null | bool | int | float | str | arr => exact ⟨_, rfl⟩
  obtain ⟨e', he'⟩ := hget
  exact ⟨e', by rw [matchAll, he']; rfl⟩

/-- When comparing two values does not raise. -/
theorem valuesMatch_ok_iff {tolerance : ℚ} {a b : Json} :
    (∃ matched, valuesMatch I tolerance a b = .ok matched) ↔
      ∀ x y, a.number? = some x → b.number? = some y → tooLarge x = false ∧ tooLarge y = false := by
  unfold valuesMatch
  split_ifs with hnull
  · subst hnull
    simp [Json.number?]
  · split
    case h_1 x y hx hy =>
      have hfloat (z : PyNumber) (hz : tooLarge z = false) :
          floatOf I z = .ok (z.value? I.arith) := by
        rw [floatOf, hz]
        rfl
      have hlarge (z : PyNumber) (hz : tooLarge z = true) :
          floatOf I z = .error ⟨.other, "int too large to convert to float"⟩ := by
        rw [floatOf, hz]
        rfl
      cases hlx : tooLarge x with
      | true =>
        rw [hlarge x hlx]
        simp [bind, Except.bind, hx, hy, hlx]
      | false =>
        rw [hfloat x hlx]
        cases hly : tooLarge y with
        | true =>
          rw [hlarge y hly]
          simp [bind, Except.bind, hx, hy, hly]
        | false =>
          rw [hfloat y hly]
          simp [bind, Except.bind, pure, Except.pure, hx, hy, hlx, hly]
    case h_2 hno =>
      refine iff_of_true ⟨_, rfl⟩ fun x y hx hy => ?_
      exact (hno x y hx hy).elim

/-- **Equal values** match, when numbers are not too large and other values print alike. -/
theorem valuesMatch_equal {a b : Json} (h : Equal I.arith a b) (hb : Usable I.arith b)
    (hsmall : ∀ x y, a.number? = some x → b.number? = some y →
      tooLarge x = false ∧ tooLarge y = false) :
    valuesMatch I 0 a b = .ok true ↔ (b.number? = none → plainText I a = plainText I b) := by
  rw [valuesMatch, if_neg (h.ne_null hb.1)]
  rcases h.number_cases with ⟨hna, hnb⟩ | ⟨x, y, v, hx, hy, hvx, hvy⟩
  · simp [hna, hnb]
  · obtain ⟨hlx, hly⟩ := hsmall x y hx hy
    obtain ⟨q, hq⟩ := hb.2 y hy
    rw [hx, hy]
    have hclose : close 0 (x.value? I.arith) (y.value? I.arith) = true := by
      rw [hvx, ← hvy, hq]
      simp [close, finite?]
      positivity
    simp [floatOf, hlx, hly, bind, Except.bind, pure, Except.pure, hclose]

/-- The result for some matches. -/
def scored (bs : List Bool) : GradingResult :=
  let score : ℚ := if 0 < bs.length then (bs.count true : ℚ) / bs.length else 0
  ⟨score, if 0 < bs.length then 95 / 100 else 1 / 2, "structured_match",
    decide (passingThreshold ≤ score)⟩

theorem scored_inRange (bs : List Bool) : (scored bs).InRange := by
  unfold GradingResult.InRange scored
  dsimp only
  split_ifs
  · exact ⟨div_nonneg (Nat.cast_nonneg _) (Nat.cast_nonneg _),
      div_le_one_of_le₀ (Nat.cast_le.2 List.count_le_length) (Nat.cast_nonneg _)⟩
  · norm_num

/-- The score is one when everything matches. -/
theorem scored_eq_one_iff {bs : List Bool} (hbs : bs ≠ []) :
    (scored bs).score = 1 ↔ ∀ b ∈ bs, b = true := by
  have hpos : 0 < bs.length := List.length_pos_iff.2 hbs
  have hne : (bs.length : ℚ) ≠ 0 := Nat.cast_ne_zero.2 hpos.ne'
  change (if 0 < bs.length then (bs.count true : ℚ) / bs.length else 0) = 1 ↔ _
  rw [if_pos hpos, div_eq_one_iff_eq hne, Nat.cast_inj, List.count_eq_length]
  exact forall₂_congr fun b _ => eq_comm

/-- A structured match of objects. -/
theorem structuredMatch_obj {output expected : Json} {out ms : List (String × Json)}
    (hout : I.parse output = .ok (.obj out)) (hexpected : I.parse expected = .ok (.obj ms)) :
    structuredMatch I output expected =
      (matchAll I 0 (.obj out) (Dict.ofList ms).entries).map scored := by
  unfold structuredMatch
  rw [hout, hexpected]
  simp only [bind, Except.bind, pure, Except.pure]
  cases matchAll I 0 (.obj out) (Dict.ofList ms).entries <;> rfl

end Structured

/-! ### All methods -/

/-- The methods that grade without a person. -/
def automatic : List String :=
  ["exact_match", "structured_match", "semantic_grading", "reference_comparison", "task_success"]

/-- An expected object that is not empty, whose values are not null, and finite. -/
def TakesObject (I : Interpreter) (expected : Json) : Prop :=
  ∃ ms, expectedObject I expected = some ms ∧ ms ≠ [] ∧
    ∀ k v, Json.lookup k ms = some v → Usable I.arith v

/-- The expected values that a method takes. -/
def Takes (I : Interpreter) (method : String) (expected : Json) : Prop :=
  if method = "structured_match" ∨ method = "task_success" then TakesObject I expected
  else ∃ text, expected = .str text ∧ (method = "semantic_grading" → tokenize I text ≠ [])

/-- The output is equal to the expected value: it is the same text, or the text of an object that is
equal to the expected one. -/
def Same (I : Interpreter) (method output : String) (expected : Json) : Prop :=
  if method = "structured_match" ∨ method = "task_success" then
    ∃ v ms, I.loads output = .ok v ∧ expectedObject I expected = some ms ∧
      Equal I.arith v (.obj ms)
  else expected = .str output

/-- The output is graded, between zero and one, and one if it is equal to the expected value. -/
def Graded (I : Interpreter) (method output : String) (expected : Json) : Prop :=
  ∃ r, grade I method (.str output) expected = .ok r ∧ r.InRange ∧
    (Same I method output expected → r.score = 1)

section Grade

variable {I : Interpreter} {output : String} {expected : Json} {ms : List (String × Json)}

theorem parse_of_expectedObject (h : expectedObject I expected = some ms) :
    I.parse expected = .ok (.obj ms) := by
  unfold expectedObject at h
  split at h
  case h_1 ms' hparse =>
    obtain rfl := Option.some.inj h
    exact hparse
  case h_2 => cases h

theorem items_ne_nil (h : ms ≠ []) : (Dict.ofList ms).entries ≠ [] := by
  obtain ⟨m, rest, rfl⟩ := List.exists_cons_of_ne_nil h
  intro hnil
  have hnone : Json.lookup m.1 (m :: rest) = none := by
    rw [← get?_ofList, Dict.get?, hnil]
    rfl
  rw [Json.lookup, List.lookup_eq_none_iff] at hnone
  exact absurd (hnone m (by simp)) (by simp)

/-- **A structured match of objects**: when it does not raise, and scores one for equal objects. -/
theorem graded_object_iff {out : List (String × Json)} (hms : ms ≠ [])
    (husable : ∀ k v, Json.lookup k ms = some v → Usable I.arith v) :
    (∃ r, (matchAll I 0 (.obj out) (Dict.ofList ms).entries).map scored = .ok r ∧ r.InRange ∧
        (Equal I.arith (.obj out) (.obj ms) → r.score = 1)) ↔
      (∀ key a b x y, Json.lookup key out = some a → Json.lookup key ms = some b →
          a.number? = some x → b.number? = some y → tooLarge x = false ∧ tooLarge y = false) ∧
        (Equal I.arith (.obj out) (.obj ms) → ∀ key a b, Json.lookup key out = some a →
          Json.lookup key ms = some b → b.number? = none → plainText I a = plainText I b) := by
  have hitem {key : String} {a b : Json} (ha : Json.lookup key out = some a) :
      matchItem I 0 out (key, b) = valuesMatch I 0 a b := by
    rw [matchItem, ha, Option.getD_some]
  constructor
  · rintro ⟨r, hr, -, hone⟩
    obtain ⟨bs, hbs, rfl⟩ : ∃ bs, matchAll I 0 (.obj out) (Dict.ofList ms).entries = .ok bs ∧
        scored bs = r := by
      cases hall : matchAll I 0 (.obj out) (Dict.ofList ms).entries with
      | error e =>
        rw [hall] at hr
        cases hr
      | ok bs =>
        rw [hall] at hr
        exact ⟨bs, rfl, Except.ok.inj hr⟩
    rw [matchAll_eq_ok_iff] at hbs
    -- every member is compared
    have hcompared {key : String} {a b : Json} (ha : Json.lookup key out = some a)
        (hb : Json.lookup key ms = some b) : ∃ matched ∈ bs, valuesMatch I 0 a b = .ok matched := by
      have hmem : matchItem I 0 out (key, b) ∈ (bs.map .ok : List (Except PyException Bool)) :=
        hbs ▸ List.mem_map_of_mem (mem_items.2 hb)
      obtain ⟨matched, hin, heq⟩ := List.mem_map.1 hmem
      exact ⟨matched, hin, (hitem ha).symm.trans heq.symm⟩
    have hsmall : ∀ key a b x y, Json.lookup key out = some a → Json.lookup key ms = some b →
        a.number? = some x → b.number? = some y → tooLarge x = false ∧ tooLarge y = false := by
      intro key a b x y ha hb hx hy
      obtain ⟨matched, -, hmatched⟩ := hcompared ha hb
      exact valuesMatch_ok_iff.1 ⟨matched, hmatched⟩ x y hx hy
    refine ⟨hsmall, fun hequal key a b ha hb => ?_⟩
    have hne : bs ≠ [] := by
      rintro rfl
      exact items_ne_nil hms (List.map_eq_nil_iff.1 hbs)
    obtain ⟨matched, hin, hmatched⟩ := hcompared ha hb
    rw [(scored_eq_one_iff hne).1 (hone hequal) matched hin] at hmatched
    obtain ⟨out', hout', -, hvalues⟩ := hequal.of_obj
    obtain rfl := Json.obj.inj hout'
    exact (valuesMatch_equal (hvalues key a b ha hb) (husable key b hb)
      (fun x y => hsmall key a b x y ha hb)).1 hmatched
  · rintro ⟨hsmall, halike⟩
    have hall : ∀ e ∈ (Dict.ofList ms).entries, ∃ matched, matchItem I 0 out e = .ok matched := by
      rintro ⟨key, b⟩ he
      rw [mem_items] at he
      cases ha : Json.lookup key out with
      | none => exact ⟨false, by rw [matchItem, ha]; rfl⟩
      | some a =>
        rw [hitem ha]
        exact valuesMatch_ok_iff.2 fun x y => hsmall key a b x y ha he
    obtain ⟨bs, hbs⟩ := exists_matchAll hall
    refine ⟨scored bs, by rw [hbs]; rfl, scored_inRange bs, fun hequal => ?_⟩
    rw [matchAll_eq_ok_iff] at hbs
    have hne : bs ≠ [] := by
      rintro rfl
      exact items_ne_nil hms (List.map_eq_nil_iff.1 hbs)
    refine (scored_eq_one_iff hne).2 fun matched hin => ?_
    have hmem : Except.ok matched ∈ (Dict.ofList ms).entries.map (matchItem I 0 out) :=
      hbs ▸ List.mem_map_of_mem hin
    obtain ⟨⟨key, b⟩, he, heq⟩ := List.mem_map.1 hmem
    rw [mem_items] at he
    obtain ⟨out', hout', hkeys, hvalues⟩ := hequal.of_obj
    obtain rfl := Json.obj.inj hout'
    cases ha : Json.lookup key out with
    | none =>
      rw [(hkeys key).1 ha] at he
      cases he
    | some a =>
      have htrue := (valuesMatch_equal (hvalues key a b ha he) (husable key b he)
        (fun x y => hsmall key a b x y ha he)).2 (halike hequal key a b ha he)
      rw [hitem ha, htrue] at heq
      exact (Except.ok.inj heq).symm

/-- **A structured match**: when an output is graded. -/
theorem graded_structured_iff (hexpected : expectedObject I expected = some ms) (hms : ms ≠ [])
    (husable : ∀ k v, Json.lookup k ms = some v → Usable I.arith v) :
    Graded I "structured_match" output expected ↔ Handled I output ms := by
  have hgrade : grade I "structured_match" (.str output) expected =
      structuredMatch I (.str output) expected := rfl
  have hparse := parse_of_expectedObject hexpected
  have hsame : Same I "structured_match" output expected ↔
      ∃ v, I.loads output = .ok v ∧ Equal I.arith v (.obj ms) := by
    simp [Same, hexpected]
  unfold Graded
  rw [hgrade, hsame]
  cases hrefuses : I.refuses output with
  | some message =>
    -- what `json.loads` raises goes on
    have hloads : I.parse (.str output) = .error ⟨.other, message⟩ := by
      simp [Interpreter.parse, Interpreter.loads, hrefuses]
    refine iff_of_false ?_ fun h => ?_
    · rintro ⟨r, hr, -⟩
      rw [structuredMatch, hloads] at hr
      cases hr
    · rw [h.notRefused] at hrefuses
      cases hrefuses
  | none =>
    have hloads : I.loads output = (match Json.loads output.toList with
        | some v => .ok v
        | none => .error ⟨.jsonDecodeError, ""⟩) := by
      rw [Interpreter.loads, hrefuses]
    cases hload : Json.loads output.toList with
    | none =>
      rw [hload] at hloads
      have hparsed : I.parse (.str output) = .error ⟨.jsonDecodeError, ""⟩ := hloads
      refine iff_of_true ⟨⟨0, 9 / 10, "structured_match", false⟩, ?_, ?_, ?_⟩
        ⟨hrefuses, fun v hv => ?_, fun out hout => ?_, fun out hout => ?_⟩
      · rw [structuredMatch, hparsed]
        rfl
      · exact ⟨le_rfl, zero_le_one⟩
      · rintro ⟨v, hv, -⟩
        rw [hloads] at hv
        cases hv
      · rw [hload] at hv
        cases hv
      · rw [hload] at hout
        cases hout
      · rw [hload] at hout
        cases hout
    | some v =>
      rw [hload] at hloads
      have hparsed : I.parse (.str output) = .ok v := hloads
      by_cases hobj : ∃ out, v = .obj out
      · obtain ⟨out, rfl⟩ := hobj
        rw [structuredMatch_obj hparsed hparse]
        have hvalue (P : Prop) : ((∃ v, I.loads output = .ok v ∧ Equal I.arith v (.obj ms)) → P) ↔
            (Equal I.arith (.obj out) (.obj ms) → P) := by
          rw [hloads]
          simp
        simp only [hvalue]
        rw [graded_object_iff hms husable]
        constructor
        · rintro ⟨hsmall, halike⟩
          refine ⟨hrefuses, fun v hv => ?_, fun out' hout => ?_, fun out' hout => ?_⟩
          · rw [hload] at hv
            exact ⟨out, (Option.some.inj hv).symm⟩
          · obtain rfl := Json.obj.inj (Option.some.inj (hload.symm.trans hout))
            exact hsmall
          · obtain rfl := Json.obj.inj (Option.some.inj (hload.symm.trans hout))
            exact halike
        · intro h
          exact ⟨h.small out hload, h.alike out hload⟩
      · have hnot : ∀ out, v ≠ .obj out := fun out h => hobj ⟨out, h⟩
        have hraises : ∃ e, matchAll I 0 v (Dict.ofList ms).entries = .error e :=
          matchAll_of_not_obj hnot (items_ne_nil hms)
        obtain ⟨e, he⟩ := hraises
        refine iff_of_false ?_ fun h => hobj (h.isObject v hload)
        rintro ⟨r, hr, -⟩
        rw [structuredMatch, hparsed, hparse] at hr
        simp only [bind, Except.bind, pure, Except.pure, he] at hr
        cases hr

/-- **Grading**: every automatic method grades every output, but for a structured match exactly when
the output is handled. -/
theorem graded_iff (I : Interpreter) {method : String} (hmethod : method ∈ automatic)
    (output : String) {expected : Json} (htakes : Takes I method expected) :
    Graded I method output expected ↔ (method = "structured_match" →
      ∃ ms, expectedObject I expected = some ms ∧ Handled I output ms) := by
  simp only [automatic, List.mem_cons, List.not_mem_nil, or_false] at hmethod
  rcases hmethod with rfl | rfl | rfl | rfl | rfl
  · refine iff_of_true ⟨_, rfl, (exactMatch_spec I (.str output) expected).1, fun hsame => ?_⟩
      fun h => absurd h (by decide)
    obtain rfl : expected = .str output := by simpa [Same] using hsame
    exact (exactMatch_spec I (.str output) (.str output)).2
  · obtain ⟨ms, hexpected, hms, husable⟩ : TakesObject I expected := by simpa [Takes] using htakes
    rw [graded_structured_iff hexpected hms husable]
    constructor
    · exact fun h _ => ⟨ms, hexpected, h⟩
    · intro h
      obtain ⟨ms', hms', hhandled⟩ := h rfl
      obtain rfl := Option.some.inj (hexpected.symm.trans hms')
      exact hhandled
  · obtain ⟨text, rfl, htokens⟩ : ∃ text, expected = .str text ∧ tokenize I text ≠ [] := by
      simpa [Takes] using htakes
    refine iff_of_true
      ⟨_, rfl, (semanticGrading_spec I (.str output) (.str text)).1, fun hsame => ?_⟩
      fun h => absurd h (by decide)
    obtain rfl : text = output := by simpa [Same] using hsame
    exact (semanticGrading_spec I (.str text) (.str text)).2 htokens
  · refine iff_of_true
      ⟨_, rfl, (referenceComparison_spec I (.str output) expected).1, fun hsame => ?_⟩
      fun h => absurd h (by decide)
    obtain rfl : expected = .str output := by simpa [Same] using hsame
    exact (referenceComparison_spec I (.str output) (.str output)).2
  · refine iff_of_true ⟨_, rfl, taskSuccess_inRange I (.str output) expected none, fun hsame => ?_⟩
      fun h => absurd h (by decide)
    obtain ⟨v, ms, hload, hexpected, hequal⟩ : ∃ v ms, I.loads output = .ok v ∧
        expectedObject I expected = some ms ∧ Equal I.arith v (.obj ms) := by
      simpa [Same] using hsame
    obtain ⟨out, rfl, hkeys, -⟩ := hequal.of_obj
    have hparse : I.parse (.str output) = .ok (.obj out) := hload
    refine taskSuccess_score hparse fun key hkey hnone => ?_
    cases expected with
    | obj ms' =>
      obtain rfl : ms' = ms := Option.some.inj hexpected
      have hget : (Dict.ofList ms').get? key = none := by
        rw [get?_ofList]
        exact (hkeys key).1 hnone
      exact Dict.get?_eq_none_iff.1 hget hkey
    | null | bool | int | float | str | arr => cases hkey

end Grade

/-! ### Two outputs -/

/-- An interpreter for texts with Latin letters and no floats. -/
def someInterpreter : Interpreter where
  arith := .overflowing
  str v := String.ofList (Json.dumps v)
  lower s := String.ofList (s.toList.map Char.toLower)
  word c := c.isAlphanum || c = '_'
  refuses _ := none

/-- An expected label. -/
def positive : List (String × Json) := [("label", .str "positive")]

theorem eq_of_lookup_positive {k : String} {v : Json} (h : Json.lookup k positive = some v) :
    v = .str "positive" := by
  rw [Json.lookup, positive, List.reverse_singleton, List.lookup_cons] at h
  split at h
  · exact (Option.some.inj h).symm
  · cases h

theorem takes_positive : Takes someInterpreter "structured_match" (.obj positive) := by
  refine ⟨positive, rfl, by simp [positive], fun k v hv => ?_⟩
  rw [eq_of_lookup_positive hv]
  exact ⟨by simp, fun x hx => by simp [Json.number?] at hx⟩

/-- The text of the expected label is graded. -/
theorem graded_positive :
    Graded someInterpreter "structured_match" (String.ofList (Json.dumps (.obj positive)))
      (.obj positive) := by
  have hload : Json.loads (String.ofList (Json.dumps (.obj positive))).toList =
      some (.obj positive) := by
    rw [String.toList_ofList, Json.loads_dumps]
  refine (graded_iff someInterpreter (by decide) _ takes_positive).2 fun _ =>
    ⟨positive, rfl, rfl, fun v hv => ⟨positive, Option.some.inj (hv.symm.trans hload)⟩,
      fun out h key a b x y ha hb hx hy => ?_, fun out h _ key a b ha hb _ => ?_⟩
  · rw [eq_of_lookup_positive hb] at hy
    simp [Json.number?] at hy
  · obtain rfl := Json.obj.inj (Option.some.inj (hload.symm.trans h))
    rw [eq_of_lookup_positive ha, eq_of_lookup_positive hb]

/-- **An output that is a list** raises. -/
theorem not_graded_list :
    "structured_match" ∈ automatic ∧ Takes someInterpreter "structured_match" (.obj positive) ∧
      grade someInterpreter "structured_match" (.str "[1, 2]") (.obj positive) =
        .error ⟨.other, "'list' object has no attribute 'get'"⟩ ∧
      ¬ Graded someInterpreter "structured_match" "[1, 2]" (.obj positive) := by
  have hraises : grade someInterpreter "structured_match" (.str "[1, 2]") (.obj positive) =
      .error ⟨.other, "'list' object has no attribute 'get'"⟩ := by decide
  refine ⟨by decide, takes_positive, hraises, ?_⟩
  rintro ⟨r, hr, -⟩
  rw [hraises] at hr
  cases hr

end Grading

end AnnyRuntime
