import AnnyRuntime.Json.Basic

/-!
# Reading JSON

`Json.loads` is the decoder of Python's `json` module: recursive descent over the characters,
strict strings (no control characters), the literals `NaN`, `Infinity` and `-Infinity`, and an
error when anything but white space follows the value.

The recursion is driven by a step bound that the length of the text always covers, so the
decoder is total and evaluates.
-/

namespace AnnyRuntime

namespace Json

/-- JSON's white space. -/
def isWs (c : Char) : Bool := c = ' ' || c = '\t' || c = '\n' || c = '\r'

/-- Skip white space. -/
def skipWs (cs : List Char) : List Char := cs.dropWhile isWs

/-- The rest of `cs` after the prefix `p`. -/
def stripPrefix (p cs : List Char) : Option (List Char) :=
  if p.isPrefixOf cs then some (cs.drop p.length) else none

/-! ### Strings -/

/-- The value of a hexadecimal digit of either case. -/
def hexVal (c : Char) : Option ℕ :=
  if c.isDigit then some (c.toNat - 48)
  else if 'a' ≤ c ∧ c ≤ 'f' then some (c.toNat - 87)
  else if 'A' ≤ c ∧ c ≤ 'F' then some (c.toNat - 55)
  else none

/-- Four hexadecimal digits. -/
def parseHex4 : List Char → Option (ℕ × List Char)
  | a :: b :: c :: d :: cs => do
    let a ← hexVal a
    let b ← hexVal b
    let c ← hexVal c
    let d ← hexVal d
    return (((a * 16 + b) * 16 + c) * 16 + d, cs)
  | _ => none

/-- The character of a code point; a lone surrogate, which no Lean character is, becomes the
replacement character. -/
def charOfUnit (n : ℕ) : Char := if 0xd800 ≤ n ∧ n < 0xe000 then Char.ofNat 0xfffd else Char.ofNat n

/-- The character that a `\u` escape denotes.  A high surrogate takes the low surrogate of the
escape after it, when there is one. -/
def parseUnicode (cs : List Char) : Option (Char × List Char) :=
  match parseHex4 cs with
  | none => none
  | some (n, r) =>
    if 0xd800 ≤ n ∧ n < 0xdc00 then
      match r with
      | '\\' :: 'u' :: r' =>
        match parseHex4 r' with
        | none => none
        | some (m, r'') =>
          if 0xdc00 ≤ m ∧ m < 0xe000 then
            some (Char.ofNat (0x10000 + (n - 0xd800) * 1024 + (m - 0xdc00)), r'')
          else some (charOfUnit n, r)
      | _ => some (charOfUnit n, r)
    else some (charOfUnit n, r)

/-- The one-letter escapes. -/
def simpleEscape (c : Char) : Option Char :=
  if c = '"' ∨ c = '\\' ∨ c = '/' then some c
  else if c = 'b' then some '\x08'
  else if c = 'f' then some '\x0c'
  else if c = 'n' then some '\n'
  else if c = 'r' then some '\r'
  else if c = 't' then some '\t'
  else none

/-- What follows a backslash. -/
def parseEscape : List Char → Option (Char × List Char)
  | [] => none
  | c :: cs => if c = 'u' then parseUnicode cs else (simpleEscape c).map (·, cs)

/-- The characters of a string after its opening quote, up to the closing one. -/
def parseString : ℕ → List Char → Option (List Char × List Char)
  | 0, _ => none
  | _ + 1, [] => none
  | n + 1, c :: cs =>
    if c = '"' then some ([], cs)
    else if c = '\\' then
      (parseEscape cs).bind fun e => (parseString n e.2).map fun s => (e.1 :: s.1, s.2)
    else if c.toNat < 32 then none
    else (parseString n cs).map fun s => (c :: s.1, s.2)

/-! ### Scalars -/

/-- The values that are written as words. -/
def literals : List (List Char × Json) :=
  [(['n', 'u', 'l', 'l'], .null), (['t', 'r', 'u', 'e'], .bool true),
    (['f', 'a', 'l', 's', 'e'], .bool false), (['N', 'a', 'N'], .float .nan),
    (['I', 'n', 'f', 'i', 'n', 'i', 't', 'y'], .float .inf),
    (['-', 'I', 'n', 'f', 'i', 'n', 'i', 't', 'y'], .float .negInf)]

/-- The word that `cs` starts with. -/
def parseLiteral (cs : List Char) : Option (Json × List Char) :=
  literals.findSome? fun l => (stripPrefix l.1 cs).map fun r => (l.2, r)

/-- The number that `cs` starts with: the longest run of number characters, which has to be a
number as a whole, since no value can be followed by one of them. -/
def parseNumber (cs : List Char) : Option (Json × List Char) :=
  let t := cs.takeWhile isNumChar
  let r := cs.dropWhile isNumChar
  if h : isFloatLit t = true then some (.float (.lit ⟨t, h⟩), r)
  else if isNumber t then some (.int (intOfText t), r)
  else none

/-- A word or a number. -/
def parseScalar (cs : List Char) : Option (Json × List Char) :=
  match parseLiteral cs with
  | some r => some r
  | none => parseNumber cs

/-! ### Values -/

mutual

/-- A value, and the characters after it. -/
def parseValue : ℕ → List Char → Option (Json × List Char)
  | 0, _ => none
  | n + 1, cs =>
    match cs with
    | '"' :: r => (parseString n r).map fun s => (.str (String.ofList s.1), s.2)
    | '[' :: r =>
      match skipWs r with
      | ']' :: r' => some (.arr [], r')
      | r' => (parseElems n r').map fun l => (.arr l.1, l.2)
    | '{' :: r =>
      match skipWs r with
      | '}' :: r' => some (.obj [], r')
      | r' => (parseMembers n r').map fun l => (.obj l.1, l.2)
    | _ => parseScalar cs

/-- One or more array elements and the closing bracket. -/
def parseElems : ℕ → List Char → Option (List Json × List Char)
  | 0, _ => none
  | n + 1, cs =>
    match parseValue n cs with
    | none => none
    | some (v, r) =>
      match skipWs r with
      | ']' :: r' => some ([v], r')
      | ',' :: r' => (parseElems n (skipWs r')).map fun l => (v :: l.1, l.2)
      | _ => none

/-- One or more object members and the closing brace. -/
def parseMembers : ℕ → List Char → Option (List (String × Json) × List Char)
  | 0, _ => none
  | n + 1, cs =>
    match cs with
    | '"' :: cs' =>
      match parseString n cs' with
      | none => none
      | some (k, r) =>
        match skipWs r with
        | ':' :: r' =>
          match parseValue n (skipWs r') with
          | none => none
          | some (v, r'') =>
            match skipWs r'' with
            | '}' :: q => some ([(String.ofList k, v)], q)
            | ',' :: q =>
              (parseMembers n (skipWs q)).map fun l => ((String.ofList k, v) :: l.1, l.2)
            | _ => none
        | _ => none
    | _ => none

end

/-- `json.loads(text)`. -/
def loads (cs : List Char) : Option Json :=
  match parseValue (cs.length + 1) (skipWs cs) with
  | some (v, r) => if skipWs r = [] then some v else none
  | none => none

end Json

end AnnyRuntime
