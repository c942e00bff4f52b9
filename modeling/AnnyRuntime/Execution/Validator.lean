import AnnyRuntime.Json.Access
import AnnyRuntime.Json.Number
import AnnyRuntime.Lib.Guard

/-!
# The validator of model outputs

`validate_document_classification` reads the output of a model as JSON and checks its shape.  It
accepts exactly the texts of classifications (`validate_eq_ok_iff`), and what it returns is the
object it read.  Everything else is refused with `ModelOutputInvalid`, apart from the texts on which
`json.loads` itself gives up (`validate_eq_invalid_iff`).
-/

namespace AnnyRuntime

namespace Execution

/-- What the interpreter computes and the model leaves open. -/
structure Interpreter where
  /-- The arithmetic of floats. -/
  arith : FloatArith
  /-- `str(v)`. -/
  str : Json → String
  /-- `str` of a set of strings, whose order is not fixed. -/
  setText : List String → String
  /-- The text of the `JSONDecodeError` that a text raises. -/
  decodeError : List Char → String
  /-- What `json.loads` raises on a text besides that: the text is nested too deeply, or an integer
  of it has too many digits. -/
  loadsRaises : List Char → Option String
  /-- The SHA-256 of the text of a value with sorted keys. -/
  resultHash : Json → String

/-- What validating a text raises. -/
inductive ValidationError where
  /-- `ModelOutputInvalid`. -/
  | modelOutputInvalid (message : String)
  /-- What `json.loads` raises and the validator does not catch. -/
  | other (message : String)
  deriving DecidableEq

namespace ModelResultValidator

/-- The fields that a classification has. -/
def requiredFields : List String := ["class", "confidence", "reason_codes"]

/-- The classes of documents. -/
def allowedClasses : List String := ["confidential", "public", "internal", "restricted"]

/-- The required fields that an object does not have. -/
def missing (ms : List (String × Json)) : List String :=
  requiredFields.filter fun k => (Json.lookup k ms).isNone

/-- `data[key]`, of a key that is there. -/
def field (key : String) (ms : List (String × Json)) : Json := (Json.lookup key ms).getD .null

/-- `0.0 <= v <= 1.0`, for a number. -/
def inUnit (A : FloatArith) (v : Json) : Bool :=
  v.number?.any fun x => PyNumber.le A (.int 0) x && PyNumber.le A x (.int 1)

/-- A list. -/
def isList : Json → Bool
  | .arr _ => true
  | _ => false

/-- `json.loads`, with its `JSONDecodeError` turned into a `ModelOutputInvalid`. -/
def loads (i : Interpreter) (text : List Char) : Except ValidationError Json :=
  match i.loadsRaises text with
  | some m => .error (.other m)
  | none =>
    match Json.loads text with
    | some data => .ok data
    | none => .error (.modelOutputInvalid ("Output is not valid JSON: " ++ i.decodeError text))

/-- The members of an object. -/
def members : Json → Except ValidationError (List (String × Json))
  | .obj ms => .ok ms
  | _ => .error (.modelOutputInvalid "Output must be a JSON object")

/-- A check of the validator. -/
def check (p : Prop) [Decidable p] (message : String) : Except ValidationError Unit :=
  Guard.ensure p (.modelOutputInvalid message)

/-- The checks on the members of an object, in their order. -/
def checkFields (i : Interpreter) (ms : List (String × Json)) : Except ValidationError Unit := do
  check (missing ms = []) ("Missing required fields: " ++ i.setText (missing ms))
  check ((field "class" ms).isStr = true) "'class' must be a string"
  check (field "class" ms ∈ allowedClasses.map Json.str)
    ("'class' must be one of " ++ i.setText allowedClasses)
  check ((field "confidence" ms).number?.isSome = true) "'confidence' must be a number"
  check (inUnit i.arith (field "confidence" ms) = true) "'confidence' must be between 0.0 and 1.0"
  check (isList (field "reason_codes" ms) = true) "'reason_codes' must be a list"

/-- `validate_document_classification`. -/
def validateDocumentClassification (i : Interpreter) (text : List Char) :
    Except ValidationError Json := do
  let ms ← members (← loads i text)
  checkFields i ms
  return .obj ms

/-! ### What is accepted -/

/-- **A classification of a document**: one of the four classes, a confidence between zero and one,
and a list of reasons. -/
structure Classification (A : FloatArith) (ms : List (String × Json)) : Prop where
  cls : ∃ c ∈ allowedClasses, Json.lookup "class" ms = some (.str c)
  confidence : ∃ v x, Json.lookup "confidence" ms = some v ∧ v.number? = some x ∧
    PyNumber.le A (.int 0) x = true ∧ PyNumber.le A x (.int 1) = true
  reasonCodes : ∃ l, Json.lookup "reason_codes" ms = some (.arr l)

variable {i : Interpreter} {ms : List (String × Json)} {text : List Char}

theorem missing_eq_nil_iff :
    missing ms = [] ↔ ∀ k ∈ requiredFields, (Json.lookup k ms).isSome = true := by
  simp [missing, Option.isSome_iff_ne_none]

theorem field_eq {k : String} {v : Json} (h : Json.lookup k ms = some v) : field k ms = v := by
  rw [field, h, Option.getD_some]

theorem lookup_of_missing {k : String} (h : missing ms = []) (hk : k ∈ requiredFields) :
    Json.lookup k ms = some (field k ms) := by
  obtain ⟨v, hv⟩ := Option.isSome_iff_exists.1 (missing_eq_nil_iff.1 h k hk)
  rw [hv, field_eq hv]

theorem isList_eq_true {v : Json} : isList v = true ↔ ∃ l, v = .arr l := by
  cases v <;> simp [isList]

theorem inUnit_eq_true {A : FloatArith} {v : Json} :
    inUnit A v = true ↔ ∃ x, v.number? = some x ∧
      PyNumber.le A (.int 0) x = true ∧ PyNumber.le A x (.int 1) = true := by
  simp [inUnit, Option.any_eq_true]

/-- The checks pass for the members of a classification only. -/
theorem checkFields_eq_ok_iff {u : Unit} :
    checkFields i ms = .ok u ↔ Classification i.arith ms := by
  have hall : checkFields i ms = .ok u ↔
      missing ms = [] ∧ (field "class" ms).isStr = true ∧
        field "class" ms ∈ allowedClasses.map Json.str ∧
        (field "confidence" ms).number?.isSome = true ∧
        inUnit i.arith (field "confidence" ms) = true ∧
        isList (field "reason_codes" ms) = true := by
    simp only [checkFields, check, Guard.seq_eq_ok, Guard.ensure_eq_ok]
    simp
  rw [hall]
  constructor
  · rintro ⟨hmissing, -, hclass, -, hconf, hreasons⟩
    obtain ⟨c, hc, hceq⟩ := List.mem_map.1 hclass
    obtain ⟨x, hx, hlow, hhigh⟩ := inUnit_eq_true.1 hconf
    obtain ⟨l, hl⟩ := isList_eq_true.1 hreasons
    refine ⟨⟨c, hc, ?_⟩, ⟨field "confidence" ms, x, ?_, hx, hlow, hhigh⟩, ⟨l, ?_⟩⟩
    · rw [lookup_of_missing hmissing (by decide), hceq]
    · exact lookup_of_missing hmissing (by decide)
    · rw [lookup_of_missing hmissing (by decide), hl]
  · rintro ⟨⟨c, hc, hclass⟩, ⟨v, x, hv, hx, hlow, hhigh⟩, ⟨l, hl⟩⟩
    rw [field_eq hclass, field_eq hv, field_eq hl, missing_eq_nil_iff]
    refine ⟨?_, rfl, List.mem_map_of_mem hc, ?_, inUnit_eq_true.2 ⟨x, hx, hlow, hhigh⟩, rfl⟩
    · simp [requiredFields, hclass, hv, hl]
    · rw [hx, Option.isSome_some]

/-- A failing check refuses the output. -/
theorem error_of_checkFields {e : ValidationError} (h : checkFields i ms = .error e) :
    ∃ m, e = .modelOutputInvalid m := by
  simp only [checkFields, check, Guard.seq_eq_error, Guard.ensure_eq_error] at h
  rcases h with h | ⟨_, -, h | ⟨_, -, h | ⟨_, -, h | ⟨_, -, h | ⟨_, -, h⟩⟩⟩⟩⟩ <;>
    exact ⟨_, h.2.symm⟩

theorem loads_eq_ok_iff {data : Json} :
    loads i text = .ok data ↔ i.loadsRaises text = none ∧ Json.loads text = some data := by
  unfold loads
  cases hr : i.loadsRaises text with
  | some m => simp
  | none => cases hl : Json.loads text <;> simp

theorem members_eq_ok_iff {data : Json} : members data = .ok ms ↔ data = .obj ms := by
  cases data <;> simp [members]

/-- **What the validator accepts**: the text of a classification, and it returns what it read. -/
theorem validate_eq_ok_iff {v : Json} :
    validateDocumentClassification i text = .ok v ↔
      i.loadsRaises text = none ∧
        ∃ ms, Json.loads text = some (.obj ms) ∧ Classification i.arith ms ∧ v = .obj ms := by
  simp only [validateDocumentClassification, Guard.seq_eq_ok, loads_eq_ok_iff, members_eq_ok_iff,
    checkFields_eq_ok_iff]
  constructor
  · rintro ⟨data, ⟨hr, hl⟩, ms, rfl, ⟨⟩, hc, hv⟩
    exact ⟨hr, ms, hl, hc, (Except.ok.inj hv).symm⟩
  · rintro ⟨hr, ms, hl, hc, rfl⟩
    exact ⟨.obj ms, ⟨hr, hl⟩, ms, rfl, (), hc, rfl⟩

/-- A text that `json.loads` copes with and that is not a classification. -/
structure Invalid (i : Interpreter) (text : List Char) : Prop where
  read : i.loadsRaises text = none
  refused : ∀ ms, Json.loads text = some (.obj ms) → ¬ Classification i.arith ms

/-- What the validator raises on a text that `json.loads` copes with is `ModelOutputInvalid`. -/
theorem error_of_read {e : ValidationError} (hr : i.loadsRaises text = none)
    (h : validateDocumentClassification i text = .error e) : ∃ m, e = .modelOutputInvalid m := by
  simp only [validateDocumentClassification, Guard.seq_eq_error] at h
  rcases h with h | ⟨data, hdata, h | ⟨ms, hms, h | ⟨_, -, h⟩⟩⟩
  · unfold loads at h
    rw [hr] at h
    cases hl : Json.loads text with
    | some data => simp [hl] at h
    | none => exact ⟨_, by simpa [hl] using h.symm⟩
  · cases data with
    | obj ms => simp [members] at h
    | _ => exact ⟨_, (Except.error.inj h).symm⟩
  · exact error_of_checkFields h
  · exact absurd h (by simp [pure, Except.pure])

/-- **What the validator refuses.** -/
theorem validate_eq_invalid_iff :
    (∃ m, validateDocumentClassification i text = .error (.modelOutputInvalid m)) ↔
      Invalid i text := by
  constructor
  · rintro ⟨m, h⟩
    have hr : i.loadsRaises text = none := by
      by_contra hne
      obtain ⟨m', hm'⟩ := Option.ne_none_iff_exists'.1 hne
      simp [validateDocumentClassification, loads, hm', Guard.seq_eq_error] at h
    refine ⟨hr, fun ms hms hc => ?_⟩
    rw [validate_eq_ok_iff.2 ⟨hr, ms, hms, hc, rfl⟩] at h
    simp at h
  · rintro ⟨hr, hrefused⟩
    cases h : validateDocumentClassification i text with
    | ok v =>
      obtain ⟨-, ms, hms, hc, -⟩ := validate_eq_ok_iff.1 h
      exact absurd hc (hrefused ms hms)
    | error e =>
      obtain ⟨m, rfl⟩ := error_of_read hr h
      exact ⟨m, rfl⟩

end ModelResultValidator

end Execution

end AnnyRuntime
