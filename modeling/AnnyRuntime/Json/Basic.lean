import Mathlib.Data.Nat.Digits.Defs

/-!
# JSON values and their text

The value type of Python's `json` module and the text `json.dumps` writes for it with its
default settings (`ensure_ascii`, separators `", "` and `": "`).

* A float is kept as the literal JSON has for it (`FloatLit`); Python's shortest `repr` makes
  the literal a faithful name of the value.  `NaN` and the infinities, which Python's encoder
  and decoder accept, are values of their own.
* An object keeps its members as they are written.  A key that occurs twice has the value of
  its last occurrence (`Json.lookup`), which is the one Python's decoder keeps.
-/

namespace AnnyRuntime

/-! ### Numbers -/

/-- The characters a JSON number is made of. -/
def isNumChar (c : Char) : Bool := c.isDigit || c = '-' || c = '+' || c = '.' || c = 'e' || c = 'E'

/-- The characters that make a number a float. -/
def isFloatChar (c : Char) : Bool := c = '.' || c = 'e' || c = 'E'

/-- The integer part: `0`, or digits that do not start with `0`. -/
def isNatText (t : List Char) : Bool :=
  t.all Char.isDigit && (t = ['0'] || (t.head?.any fun c => !(c = '0')))

/-- A text without its minus sign. -/
def dropMinus : List Char → List Char
  | '-' :: t => t
  | t => t

/-- The exponent part, or nothing. -/
def isExpText : List Char → Bool
  | [] => true
  | c :: t =>
    (c = 'e' || c = 'E') &&
      let ds := if t.head? = some '+' || t.head? = some '-' then t.tail else t
      ds ≠ [] && ds.all Char.isDigit

/-- The fraction and exponent parts. -/
def isFracExpText : List Char → Bool
  | '.' :: t => (t.takeWhile Char.isDigit) ≠ [] && isExpText (t.dropWhile Char.isDigit)
  | t => isExpText t

/-- The number grammar `-?(0|[1-9][0-9]*)(.[0-9]+)?([eE][-+]?[0-9]+)?`. -/
def isNumber (t : List Char) : Bool :=
  let t := dropMinus t
  isNatText (t.takeWhile Char.isDigit) && isFracExpText (t.dropWhile Char.isDigit)

/-- The texts of float literals. -/
def isFloatLit (t : List Char) : Bool := t.all isNumChar && isNumber t && t.any isFloatChar

/-- A finite Python float, as its literal. -/
structure FloatLit where
  /-- The literal. -/
  text : List Char
  /-- It is a number with a fraction or an exponent. -/
  ok : isFloatLit text = true
  deriving DecidableEq

/-- A Python float. -/
inductive PyFloat where
  | lit (t : FloatLit)
  | nan
  | inf
  | negInf
  deriving DecidableEq

/-- The decimal digit of `d < 10`. -/
def digitChar (d : ℕ) : Char := Char.ofNat (48 + d)

/-- The value of a decimal digit. -/
def digitVal (c : Char) : ℕ := c.toNat - 48

/-- The decimal digits of a natural number. -/
def natText (n : ℕ) : List Char :=
  if n = 0 then ['0'] else (Nat.digits 10 n).reverse.map digitChar

/-- The natural number that decimal digits denote. -/
def natOfText (t : List Char) : ℕ := Nat.ofDigits 10 (t.reverse.map digitVal)

/-- `str(n)` for an integer. -/
def intText (n : ℤ) : List Char := if n < 0 then '-' :: natText n.natAbs else natText n.natAbs

/-- The integer that a decimal text with an optional minus sign denotes. -/
def intOfText : List Char → ℤ
  | '-' :: t => -(natOfText t : ℤ)
  | t => natOfText t

/-! ### Values -/

/-- A JSON value. -/
inductive Json where
  | null
  | bool (b : Bool)
  | int (n : ℤ)
  | float (x : PyFloat)
  | str (s : String)
  | arr (l : List Json)
  | obj (ms : List (String × Json))
  deriving Inhabited

namespace Json

mutual

/-- Equality of JSON values is decidable. -/
def decEq : (a b : Json) → Decidable (a = b)
  | .null, b => match b with
    | .null => isTrue rfl
    | .bool _ | .int _ | .float _ | .str _ | .arr _ | .obj _ => isFalse nofun
  | .bool x, b => match b with
    | .bool y => decidable_of_iff (x = y) (by simp)
    | .null | .int _ | .float _ | .str _ | .arr _ | .obj _ => isFalse nofun
  | .int x, b => match b with
    | .int y => decidable_of_iff (x = y) (by simp)
    | .null | .bool _ | .float _ | .str _ | .arr _ | .obj _ => isFalse nofun
  | .float x, b => match b with
    | .float y => decidable_of_iff (x = y) (by simp)
    | .null | .bool _ | .int _ | .str _ | .arr _ | .obj _ => isFalse nofun
  | .str x, b => match b with
    | .str y => decidable_of_iff (x = y) (by simp)
    | .null | .bool _ | .int _ | .float _ | .arr _ | .obj _ => isFalse nofun
  | .arr l, b => match b with
    | .arr m => @decidable_of_iff _ (l = m) (by simp) (decEqElems l m)
    | .null | .bool _ | .int _ | .float _ | .str _ | .obj _ => isFalse nofun
  | .obj l, b => match b with
    | .obj m => @decidable_of_iff _ (l = m) (by simp) (decEqMembers l m)
    | .null | .bool _ | .int _ | .float _ | .str _ | .arr _ => isFalse nofun

/-- Equality of array elements is decidable. -/
def decEqElems : (a b : List Json) → Decidable (a = b)
  | [], [] => isTrue rfl
  | [], _ :: _ | _ :: _, [] => isFalse nofun
  | x :: xs, y :: ys => @decidable_of_iff _ (x = y ∧ xs = ys) (by simp)
      (@instDecidableAnd _ _ (decEq x y) (decEqElems xs ys))

/-- Equality of object members is decidable. -/
def decEqMembers : (a b : List (String × Json)) → Decidable (a = b)
  | [], [] => isTrue rfl
  | [], _ :: _ | _ :: _, [] => isFalse nofun
  | (k, x) :: xs, (l, y) :: ys =>
    @decidable_of_iff _ (k = l ∧ x = y ∧ xs = ys) (by simp [and_assoc])
      (@instDecidableAnd _ _ inferInstance (@instDecidableAnd _ _ (decEq x y) (decEqMembers xs ys)))

end

instance : DecidableEq Json := decEq

/-- The value of a key among the members of an object: its last occurrence. -/
def lookup (k : String) (ms : List (String × Json)) : Option Json := ms.reverse.lookup k

/-- `None`, or a string. -/
def ofOptString : Option String → Json
  | none => .null
  | some s => .str s

/-- The integer that a value compares as. -/
def asInt : Json → Option ℤ
  | .int n => some n
  | .bool b => some (if b then 1 else 0)
  | _ => none

/-- A list of strings. -/
def ofStrings (l : List String) : Json := .arr (l.map .str)

/-- Python's truth value of a JSON value. -/
def truthy : Json → Bool
  | .null => false
  | .bool b => b
  | .int n => n ≠ 0
  | .float (.lit t) =>
    (t.text.takeWhile fun c => !(c = 'e') && !(c = 'E')).any fun c => c.isDigit && !(c = '0')
  | .float _ => true
  | .str s => s ≠ ""
  | .arr l => l ≠ []
  | .obj ms => ms ≠ []

/-- The value is a dictionary key in Python: anything but a list or a dict. -/
def hashable : Json → Bool
  | .arr _ | .obj _ => false
  | _ => true

/-- A value that can be a dictionary key. -/
abbrev Key := {j : Json // j.hashable = true}

/-- A string key. -/
def Key.str (s : String) : Key := ⟨.str s, rfl⟩

/-- The key that a dictionary compares: a boolean is the integer it equals. -/
def Key.norm : Key → Key
  | ⟨.bool b, _⟩ => ⟨.int (if b then 1 else 0), rfl⟩
  | k => k

@[simp] theorem Key.norm_str (s : String) : (Key.str s).norm = Key.str s := rfl

theorem Key.str_inj {s t : String} : Key.str s = Key.str t ↔ s = t := by
  rw [Subtype.ext_iff, Key.str, Key.str, Json.str.injEq]

/-! ### The text of a value -/

/-- The lower-case hexadecimal digit of `d < 16`. -/
def hexDigit (d : ℕ) : Char := if d < 10 then Char.ofNat (48 + d) else Char.ofNat (87 + d)

/-- The escape `\uXXXX` of a code unit. -/
def escapeUnit (n : ℕ) : List Char :=
  ['\\', 'u', hexDigit (n / 4096 % 16), hexDigit (n / 256 % 16), hexDigit (n / 16 % 16),
    hexDigit (n % 16)]

/-- The escape of a character that is not printable ASCII; a character outside the basic plane
becomes a surrogate pair. -/
def escapeUnicode (n : ℕ) : List Char :=
  if n < 0x10000 then escapeUnit n
  else escapeUnit (0xd800 + (n - 0x10000) / 1024) ++ escapeUnit (0xdc00 + (n - 0x10000) % 1024)

/-- A character of a JSON string, escaped where it has to be. -/
def escapeChar (c : Char) : List Char :=
  if c = '"' then ['\\', '"']
  else if c = '\\' then ['\\', '\\']
  else if c = '\n' then ['\\', 'n']
  else if c = '\r' then ['\\', 'r']
  else if c = '\t' then ['\\', 't']
  else if c = '\x08' then ['\\', 'b']
  else if c = '\x0c' then ['\\', 'f']
  else if 32 ≤ c.toNat ∧ c.toNat ≤ 126 then [c]
  else escapeUnicode c.toNat

/-- A quoted string. -/
def quote (s : String) : List Char := '"' :: (s.toList.flatMap escapeChar ++ ['"'])

/-- The text of a float. -/
def floatText : PyFloat → List Char
  | .lit t => t.text
  | .nan => ['N', 'a', 'N']
  | .inf => ['I', 'n', 'f', 'i', 'n', 'i', 't', 'y']
  | .negInf => ['-', 'I', 'n', 'f', 'i', 'n', 'i', 't', 'y']

mutual

/-- `json.dumps(j)`. -/
def dumps : Json → List Char
  | .null => ['n', 'u', 'l', 'l']
  | .bool true => ['t', 'r', 'u', 'e']
  | .bool false => ['f', 'a', 'l', 's', 'e']
  | .int n => intText n
  | .float x => floatText x
  | .str s => quote s
  | .arr l => '[' :: dumpsElems l
  | .obj ms => '{' :: dumpsMembers ms

/-- The elements of an array and its closing bracket. -/
def dumpsElems : List Json → List Char
  | [] => [']']
  | [v] => dumps v ++ [']']
  | v :: vs => dumps v ++ (',' :: ' ' :: dumpsElems vs)

/-- The members of an object and its closing brace. -/
def dumpsMembers : List (String × Json) → List Char
  | [] => ['}']
  | [(k, v)] => quote k ++ (':' :: ' ' :: (dumps v ++ ['}']))
  | (k, v) :: ms => quote k ++ (':' :: ' ' :: (dumps v ++ (',' :: ' ' :: dumpsMembers ms)))

end

/-- `str(j)`, as a message has it. -/
def pyStr : Json → String
  | .null => "None"
  | .bool true => "True"
  | .bool false => "False"
  | .int n => toString n
  | .str s => s
  -- Python quotes the strings in a list in another way; no message modelled here has one
  | v => String.ofList (dumps v)

end Json

end AnnyRuntime
