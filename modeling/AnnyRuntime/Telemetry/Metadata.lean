import AnnyRuntime.Json.Encode

/-!
# Telemetry metadata

What a component may hang on a telemetry event: any Python value, dictionaries with keys of any
type, tuples, sets and objects included, and the text that `str` and `repr` give it.

* `list` and `dict` are the containers that the scrubber walks through.  Every other container is a
  `container`: its text is an opening, the `repr` of what it holds and a closing.
* An `object` holds nothing that its text shows.  Its `str` and its `repr` may raise.
* Which characters outside ASCII `repr` leaves as they are is Python's character table, a parameter.

How deep a value may be nested is not modelled, nor are containers that contain themselves.
-/

namespace AnnyRuntime

namespace Telemetry

/-- An object that is none of the types JSON knows. -/
structure OtherObject where
  /-- Its `str`, unless that raises. -/
  str : Option (List Char)
  /-- Its `repr`, unless that raises. -/
  repr : Option (List Char)
  deriving DecidableEq

/-- A key of a dictionary. -/
inductive Key where
  | none
  | bool (b : Bool)
  | int (n : ℤ)
  | float (x : PyFloat)
  | str (s : String)
  | object (o : OtherObject)
  deriving DecidableEq

/-- A metadata value. -/
inductive Value where
  | none
  | bool (b : Bool)
  | int (n : ℤ)
  | float (x : PyFloat)
  | str (s : String)
  | list (l : List Value)
  | dict (ms : List (Key × Value))
  /-- A container that is no list and no dictionary: what its text starts with, what it holds, each
  with the label that the text puts before it, and what its text ends with. -/
  | container (opening : List Char) (items : List (List Char × Value)) (closing : List Char)
  | object (o : OtherObject)

namespace Value

/-- A tuple. -/
def tuple (l : List Value) : Value :=
  container ['('] (l.map fun v => ([], v)) (if l.length = 1 then [',', ')'] else [')'])

/-- A set. -/
def set (l : List Value) : Value :=
  if l = [] then container "set()".toList [] []
  else container ['\x7b'] (l.map fun v => ([], v)) ['\x7d']

/-- An instance of a dataclass. -/
def record (name : String) (fields : List (String × Value)) : Value :=
  container (name.toList ++ ['(']) (fields.map fun f => (f.1.toList ++ ['='], f.2)) [')']

end Value

/-! ### The text of a value -/

/-- The last `n` hexadecimal digits of a number. -/
def hexDigits : ℕ → ℕ → List Char
  | 0, _ => []
  | n + 1, m => hexDigits n (m / 16) ++ [Json.hexDigit (m % 16)]

/-- The escape of a character that `repr` does not show. -/
def escapeRepr (n : ℕ) : List Char :=
  if n < 0x100 then '\\' :: 'x' :: hexDigits 2 n
  else if n < 0x10000 then '\\' :: 'u' :: hexDigits 4 n
  else '\\' :: 'U' :: hexDigits 8 n

/-- `repr(x)` of a float. -/
def floatRepr : PyFloat → List Char
  | .lit t => t.text
  | .nan => ['n', 'a', 'n']
  | .inf => ['i', 'n', 'f']
  | .negInf => ['-', 'i', 'n', 'f']

/-- The texts of the items of a container, with the separator between them. -/
def joined (ts : List (List Char)) : List Char := List.intercalate [',', ' '] ts

theorem joined_cons_cons (t u : List Char) (ts : List (List Char)) :
    joined (t :: u :: ts) = t ++ (',' :: ' ' :: joined (u :: ts)) := by
  simp [joined]

/-- The text of a container is not shorter than that of an item. -/
theorem length_le_joined {t : List Char} {ts : List (List Char)} (h : t ∈ ts) :
    t.length ≤ (joined ts).length := by
  induction ts with
  | nil => cases h
  | cons u ts ih =>
    cases ts with
    | nil => simp_all [joined]
    | cons w ts =>
      rw [joined_cons_cons]
      simp only [List.length_append, List.length_cons]
      rcases List.mem_cons.1 h with rfl | h
      · omega
      · have := ih h
        omega

section Text

variable (printable : Char → Bool)

/-- A character of the `repr` of a string that is quoted with `q`. -/
def reprChar (q c : Char) : List Char :=
  if c = '\\' ∨ c = q then ['\\', c]
  else if c = '\n' then ['\\', 'n']
  else if c = '\r' then ['\\', 'r']
  else if c = '\t' then ['\\', 't']
  else if 32 ≤ c.toNat ∧ c.toNat < 127 then [c]
  else if 127 < c.toNat ∧ printable c then [c]
  else escapeRepr c.toNat

/-- `repr(s)` of a string: in single quotes, unless only those occur in it. -/
def strRepr (s : List Char) : List Char :=
  let q := if '\'' ∈ s ∧ '"' ∉ s then '"' else '\''
  q :: (s.flatMap (reprChar printable q) ++ [q])

theorem reprChar_ne_nil (q c : Char) : reprChar printable q c ≠ [] := by
  unfold reprChar escapeRepr
  split_ifs <;> simp

/-- The `repr` of a string is not shorter than the string. -/
theorem length_le_strRepr (s : List Char) : s.length ≤ (strRepr printable s).length := by
  have hflat : ∀ (q : Char) (s : List Char),
      s.length ≤ (s.flatMap (reprChar printable q)).length := by
    intro q s
    induction s with
    | nil => simp
    | cons c s ih =>
      have hc := List.length_pos_iff.2 (reprChar_ne_nil printable q c)
      simp only [List.flatMap_cons, List.length_append, List.length_cons]
      omega
  have := hflat (if '\'' ∈ s ∧ '"' ∉ s then '"' else '\'') s
  simp only [strRepr, List.length_cons, List.length_append]
  omega

namespace Key

/-- `str(k)`. -/
def text? : Key → Option (List Char)
  | none => some "None".toList
  | bool true => some "True".toList
  | bool false => some "False".toList
  | int n => some (intText n)
  | float x => some (floatRepr x)
  | str s => some s.toList
  | object o => o.str

/-- `repr(k)`. -/
def repr : Key → Option (List Char)
  | str s => some (strRepr printable s.toList)
  | object o => o.repr
  | k => k.text?

end Key

namespace Value

mutual

/-- `repr(v)`, unless it raises. -/
def repr : Value → Option (List Char)
  | none => some "None".toList
  | bool true => some "True".toList
  | bool false => some "False".toList
  | int n => some (intText n)
  | float x => some (floatRepr x)
  | str s => some (strRepr printable s.toList)
  | list l => (reprElems l).map fun ts => '[' :: (joined ts ++ [']'])
  | dict ms => (reprMembers ms).map fun ts => '\x7b' :: (joined ts ++ ['\x7d'])
  | container opening items closing =>
    (reprItems items).map fun ts => opening ++ (joined ts ++ closing)
  | object o => o.repr

/-- The elements of a list. -/
def reprElems : List Value → Option (List (List Char))
  | [] => some []
  | v :: vs => (repr v).bind fun t => (reprElems vs).map (t :: ·)

/-- The members of a dictionary. -/
def reprMembers : List (Key × Value) → Option (List (List Char))
  | [] => some []
  | (k, v) :: ms => (k.repr printable).bind fun s => (repr v).bind fun t =>
    (reprMembers ms).map ((s ++ (':' :: ' ' :: t)) :: ·)

/-- The items of another container. -/
def reprItems : List (List Char × Value) → Option (List (List Char))
  | [] => some []
  | (label, v) :: items => (repr v).bind fun t => (reprItems items).map ((label ++ t) :: ·)

end

end Value

end Text

namespace Value

mutual

/-- A JSON value as a metadata value. -/
def ofJson : Json → Value
  | .null => none
  | .bool b => bool b
  | .int n => int n
  | .float x => float x
  | .str s => str s
  | .arr l => list (ofElems l)
  | .obj ms => dict (ofMembers ms)

/-- The elements of an array. -/
def ofElems : List Json → List Value
  | [] => []
  | j :: js => ofJson j :: ofElems js

/-- The members of an object. -/
def ofMembers : List (String × Json) → List (Key × Value)
  | [] => []
  | (t, j) :: ms => (.str t, ofJson j) :: ofMembers ms

end

end Value

end Telemetry

end AnnyRuntime
