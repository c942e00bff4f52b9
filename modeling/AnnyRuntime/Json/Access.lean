import AnnyRuntime.Json.Loads
import AnnyRuntime.Json.Sorted
import AnnyRuntime.Lib.Dict
import AnnyRuntime.Lib.Guard
import Mathlib.Data.List.Infix

/-!
# Untrusted values

What Python does with a decoded value whose shape nobody has checked: `v.get(k)`, `v[k]`, `x in v`,
`len(v)` and the loop over `v`, each of which raises on the shapes that it does not know.
-/

namespace AnnyRuntime

/-- The classes of exceptions that the code tells apart. -/
inductive ExceptionClass where
  | githubAuthError
  | githubNotFoundError
  /-- The other subclasses of `GitHubClientError`, and the class itself. -/
  | githubClientError
  | jsonDecodeError
  /-- `URLError`, with its reason. -/
  | urlError (reason : String)
  | osError
  | importError
  | fabricError
  | other
  deriving DecidableEq

/-- An exception: its class, and its text as `str(e)` has it. -/
structure PyException where
  kind : ExceptionClass
  text : String
  deriving DecidableEq

/-- What Python's library computes and the model leaves open. -/
structure Platform where
  /-- `str(v)`. -/
  str : Json → String
  /-- `str(sorted(v))` of the elements of a set, which raises when they cannot be compared. -/
  sorted : List Json → Except PyException String
  /-- `s.upper()`. -/
  upper : String → String
  /-- `s.lower()`. -/
  lower : String → String
  /-- The text of the `JSONDecodeError` that a text raises. -/
  decodeError : String → String
  /-- `base64.b64decode(v).decode('utf-8')`. -/
  b64decode : Json → Except PyException String
  /-- The hexadecimal HMAC-SHA256 of a message under a key. -/
  hmac : ByteArray → String → Except PyException String

/-- The exception of an attribute that an object does not have. -/
def attributeError (type name : String) : PyException :=
  ⟨.other, "'" ++ type ++ "' object has no attribute '" ++ name ++ "'"⟩

namespace Json

/-- The name of the type. -/
def typeName (j : Json) : String := (PyVal.ofJson j).typeName

/-- `a == b`. -/
def pyEq (a b : Json) : Bool := (PyVal.ofJson a).beq (PyVal.ofJson b)

/-- `v.get(key, default)`. -/
def get (v : Json) (key : String) (default : Json := .null) : Except PyException Json :=
  match v with
  | .obj ms => .ok ((lookup key ms).getD default)
  | _ => .error (attributeError v.typeName "get")

/-- `v[key]`. -/
def item (v : Json) (key : String) : Except PyException Json :=
  match v with
  | .obj ms => (lookup key ms).elim (.error ⟨.other, "'" ++ key ++ "'"⟩) .ok
  | .arr _ => .error ⟨.other, "list indices must be integers or slices, not str"⟩
  | .str _ => .error ⟨.other, "string indices must be integers, not 'str'"⟩
  | _ => .error ⟨.other, "'" ++ v.typeName ++ "' object is not subscriptable"⟩

/-- The values of `for x in v`. -/
def iter (v : Json) : Except PyException (List Json) :=
  match v with
  | .arr l => .ok l
  | .str s => .ok (s.toList.map fun c => .str (String.singleton c))
  | .obj ms => .ok ((Dict.ofList ms).keys.map .str)
  | _ => .error ⟨.other, "'" ++ v.typeName ++ "' object is not iterable"⟩

/-- `len(v)`. -/
def len (v : Json) : Except PyException ℕ :=
  match v.iter with
  | .ok l => .ok l.length
  | .error _ => .error ⟨.other, "object of type '" ++ v.typeName ++ "' has no len()"⟩

/-- A string. -/
def isStr : Json → Bool
  | .str _ => true
  | _ => false

/-- A dictionary. -/
def isDict : Json → Bool
  | .obj _ => true
  | _ => false

/-- `x in v`. -/
def contains (v x : Json) : Except PyException Bool :=
  match v with
  | .arr l => .ok (l.any x.pyEq)
  | .str s =>
    match x with
    | .str t => .ok (decide (t.toList <:+: s.toList))
    | _ => .error ⟨.other, "'in <string>' requires string as left operand, not " ++ x.typeName⟩
  | .obj ms =>
    if x.hashable then .ok (ms.any fun m => x = .str m.1)
    else .error ⟨.other, "unhashable type: '" ++ x.typeName ++ "'"⟩
  | _ => .error ⟨.other, "argument of type '" ++ v.typeName ++ "' is not iterable"⟩

/-- A value can be looked for: in a list always, in a string when it is one, in a dictionary when
it can be a key. -/
def Searchable (v x : Json) : Prop :=
  match v with
  | .arr _ => True
  | .str _ => x.isStr = true
  | .obj _ => x.hashable = true
  | _ => False

instance (v x : Json) : Decidable (v.Searchable x) :=
  match v with
  | .arr _ => .isTrue trivial
  | .str _ => inferInstanceAs (Decidable (x.isStr = true))
  | .obj _ => inferInstanceAs (Decidable (x.hashable = true))
  | .null | .bool _ | .int _ | .float _ => .isFalse id

/-- `json.loads(v)`. -/
def loadsValue (p : Platform) (v : Json) : Except PyException Json :=
  match v with
  | .str s => (loads s.toList).elim (.error ⟨.jsonDecodeError, p.decodeError s⟩) .ok
  | _ => .error ⟨.other, "the JSON object must be str, bytes or bytearray, not " ++ v.typeName⟩

theorem truthy_str (s : String) : (Json.str s).truthy = decide (s ≠ "") := rfl

theorem get_eq_ok_iff {v w default : Json} {key : String} :
    v.get key default = .ok w ↔ ∃ ms, v = .obj ms ∧ (lookup key ms).getD default = w := by
  cases v <;> simp [get]

/-- Looking for a value raises exactly where it cannot be looked for. -/
theorem exists_contains_iff {v x : Json} : (∃ b, v.contains x = .ok b) ↔ v.Searchable x := by
  cases v with
  | str s => cases x <;> simp [contains, Searchable, isStr]
  | obj ms => by_cases hx : x.hashable = true <;> simp [contains, Searchable, hx]
  | null | bool | int | float | arr => simp [contains, Searchable]

end Json

end AnnyRuntime
