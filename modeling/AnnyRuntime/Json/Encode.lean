import AnnyRuntime.Json.Basic

/-!
# Encoding Python values

A Python program hands `json.dumps` more than JSON values: dictionaries with keys of any type,
containers that contain themselves, objects that have no JSON text.  `PyVal` is the type of such
values, and `PyVal.encode` the JSON value whose text `json.dumps(v, default=str)` writes, when it
writes one.

* An object that JSON does not know is written as its `str`, which may raise.
* A key that is no string is written as its text; a key that is no scalar raises.
* With `sort_keys` the keys of a dictionary have to be comparable with each other.
* A container inside itself raises.

How deep a value may be nested is not modelled.
-/

namespace AnnyRuntime

/-- A Python object that JSON does not know. -/
structure PyObject where
  /-- Which object it is. -/
  name : ℕ
  /-- The name of its type. -/
  typeName : String
  /-- Its `str`, unless that raises. -/
  text : Option String
  /-- Its truth value. -/
  truthy : Bool
  deriving DecidableEq

/-- A key of a Python dictionary. -/
inductive PyKey where
  | none
  | bool (b : Bool)
  | int (n : ℤ)
  | float (x : PyFloat)
  | str (s : String)
  /-- A key that is no scalar, such as a tuple. -/
  | other
  deriving DecidableEq

/-- A Python value. -/
inductive PyVal where
  | none
  | bool (b : Bool)
  | int (n : ℤ)
  | float (x : PyFloat)
  | str (s : String)
  /-- A list or a tuple. -/
  | list (l : List PyVal)
  | dict (ms : List (PyKey × PyVal))
  | object (o : PyObject)
  /-- A container that this is inside of. -/
  | again

namespace PyKey

/-- The text of a key, or a `TypeError`. -/
def text? : PyKey → Option String
  | none => some "null"
  | bool true => some "true"
  | bool false => some "false"
  | int n => some (String.ofList (intText n))
  | float x => some (String.ofList (Json.floatText x))
  | str s => some s
  | other => Option.none

/-- The key is a string. -/
def isStr : PyKey → Bool
  | str _ => true
  | _ => false

/-- The key compares with numbers. -/
def isNumber : PyKey → Bool
  | bool _ | int _ | float _ => true
  | _ => false

/-- The keys of a dictionary can be sorted. -/
def sortable (ks : List PyKey) : Bool :=
  ks.length ≤ 1 || ks.all isStr || ks.all isNumber

end PyKey

namespace PyVal

/-- The truth value. -/
def truthy : PyVal → Bool
  | none => false
  | bool b => b
  | int n => n ≠ 0
  | float x => (Json.float x).truthy
  | str s => s ≠ ""
  | list l => !l.isEmpty
  | dict ms => !ms.isEmpty
  | object o => o.truthy
  | again => true

/-- The name of the type. -/
def typeName : PyVal → String
  | none => "NoneType"
  | bool _ => "bool"
  | int _ => "int"
  | float _ => "float"
  | str _ => "str"
  | list _ => "list"
  | dict _ => "dict"
  | object o => o.typeName
  | again => "dict"

/-- `v.get(k)` of a dictionary. -/
def get? (k : String) : List (PyKey × PyVal) → Option PyVal := List.lookup (.str k)

/-- A dictionary whose keys are strings. -/
def ofMembers (ms : List (String × PyVal)) : PyVal := dict (ms.map fun m => (.str m.1, m.2))

mutual

/-- A JSON value as a Python value. -/
def ofJson : Json → PyVal
  | .null => none
  | .bool b => bool b
  | .int n => int n
  | .float x => float x
  | .str s => str s
  | .arr l => list (ofElems l)
  | .obj ms => dict (ofPairs ms)

/-- The elements of an array. -/
def ofElems : List Json → List PyVal
  | [] => []
  | v :: vs => ofJson v :: ofElems vs

/-- The members of an object. -/
def ofPairs : List (String × Json) → List (PyKey × PyVal)
  | [] => []
  | (k, v) :: ms => (.str k, ofJson v) :: ofPairs ms

end

mutual

/-- What `json.dumps(v, default=str)` encodes, unless it raises. -/
def encode (sortKeys : Bool) : PyVal → Option Json
  | none => some .null
  | bool b => some (.bool b)
  | int n => some (.int n)
  | float x => some (.float x)
  | str s => some (.str s)
  | list l => (encodeElems sortKeys l).map .arr
  | dict ms =>
    if sortKeys && !PyKey.sortable (ms.map Prod.fst) then Option.none
    else (encodeMembers sortKeys ms).map .obj
  | object o => o.text.map .str
  | again => Option.none

/-- The elements of a list. -/
def encodeElems (sortKeys : Bool) : List PyVal → Option (List Json)
  | [] => some []
  | v :: vs => (encode sortKeys v).bind fun j => (encodeElems sortKeys vs).map (j :: ·)

/-- The members of a dictionary, as they stand in it. -/
def encodeMembers (sortKeys : Bool) : List (PyKey × PyVal) → Option (List (String × Json))
  | [] => some []
  | (k, v) :: ms => k.text?.bind fun t =>
    (encode sortKeys v).bind fun j => (encodeMembers sortKeys ms).map ((t, j) :: ·)

end

/-- `str(v)`, unless it raises.  Python writes containers in another way; no text modelled here has
one. -/
def pyStr : PyVal → Option String
  | object o => o.text
  | v => (v.encode false).map Json.pyStr

/-- The value can be encoded. -/
def encodable (sortKeys : Bool) (v : PyVal) : Bool := (v.encode sortKeys).isSome

/-! ### Sorting the keys only adds ways to fail -/

mutual

/-- What is encoded with sorted keys is encoded without. -/
theorem encode_of_sorted : ∀ (v : PyVal) (j : Json), encode true v = some j →
    encode false v = some j
  | none, _, h | bool _, _, h | int _, _, h | float _, _, h | str _, _, h | object _, _, h => by
    simpa only [encode] using h
  | again, _, h => by simp [encode] at h
  | list l, j, h => by
    simp only [encode, Option.map_eq_some_iff] at h ⊢
    obtain ⟨js, hjs, rfl⟩ := h
    exact ⟨js, encodeElems_of_sorted l js hjs, rfl⟩
  | dict ms, j, h => by
    simp only [encode, Bool.true_and, Bool.false_and] at h ⊢
    split_ifs at h
    obtain ⟨js, hjs, rfl⟩ := Option.map_eq_some_iff.1 h
    exact Option.map_eq_some_iff.2 ⟨js, encodeMembers_of_sorted ms js hjs, rfl⟩

/-- The elements of a list. -/
theorem encodeElems_of_sorted : ∀ (l : List PyVal) (js : List Json),
    encodeElems true l = some js → encodeElems false l = some js
  | [], _, h => by simpa only [encodeElems] using h
  | v :: vs, js, h => by
    simp only [encodeElems, Option.bind_eq_some_iff, Option.map_eq_some_iff] at h ⊢
    obtain ⟨j, hj, ks, hks, rfl⟩ := h
    exact ⟨j, encode_of_sorted v j hj, ks, encodeElems_of_sorted vs ks hks, rfl⟩

/-- The members of a dictionary. -/
theorem encodeMembers_of_sorted : ∀ (ms : List (PyKey × PyVal)) (js : List (String × Json)),
    encodeMembers true ms = some js → encodeMembers false ms = some js
  | [], _, h => by simpa only [encodeMembers] using h
  | (k, v) :: ms, js, h => by
    simp only [encodeMembers, Option.bind_eq_some_iff, Option.map_eq_some_iff] at h ⊢
    obtain ⟨t, ht, j, hj, ks, hks, rfl⟩ := h
    exact ⟨t, ht, j, encode_of_sorted v j hj, ks, encodeMembers_of_sorted ms ks hks, rfl⟩

end

theorem encodable_of_sorted {v : PyVal} (h : v.encodable true = true) :
    v.encodable false = true := by
  obtain ⟨j, hj⟩ := Option.isSome_iff_exists.1 h
  exact Option.isSome_iff_exists.2 ⟨j, encode_of_sorted v j hj⟩

/-- Keys of two types cannot be sorted: the value is encoded without `sort_keys` only. -/
example : (dict [(.int 1, none), (.str "a", none)]).encodable false = true ∧
    (dict [(.int 1, none), (.str "a", none)]).encodable true = false := by decide

end PyVal

end AnnyRuntime
