import AnnyRuntime.Lib.Text

/-!
# Strings as Python has them

A Python string can hold lone surrogates, which no UTF-8 text has: encoding such a string raises.
Reading a text file turns every line ending into `\n`.

* `encode?_eq_some_iff` : which strings have bytes, and which.
* `universalNewlines_eq_self_iff` : reading changes exactly the texts with a carriage return.
-/

namespace AnnyRuntime

/-- A character of a Python string. -/
inductive PyChar where
  | char (c : Char)
  /-- A lone surrogate. -/
  | surrogate (n : Fin 2048)
  deriving DecidableEq

/-- A Python string. -/
abbrev PyStr := List PyChar

namespace PyStr

/-- The string of a text without surrogates. -/
def ofChars (cs : List Char) : PyStr := cs.map .char

/-- The text of a string, unless there is a surrogate in it. -/
def chars? : PyStr → Option (List Char)
  | [] => some []
  | .char c :: s => (chars? s).map (c :: ·)
  | .surrogate _ :: _ => none

/-- `s.encode('utf-8')`, or a `UnicodeEncodeError`. -/
def encode? (s : PyStr) : Option (List UInt8) := (chars? s).map Text.bytes

@[simp] theorem chars?_ofChars (cs : List Char) : chars? (ofChars cs) = some cs := by
  induction cs with
  | nil => rfl
  | cons c cs ih =>
    change (chars? (ofChars cs)).map (c :: ·) = _
    rw [ih, Option.map_some]

theorem chars?_eq_some_iff {s : PyStr} {cs : List Char} : chars? s = some cs ↔ s = ofChars cs := by
  constructor
  · intro h
    induction s generalizing cs with
    | nil =>
      obtain rfl : [] = cs := by simpa [chars?] using h
      rfl
    | cons x s ih =>
      cases x with
      | char c =>
        obtain ⟨cs', hcs', rfl⟩ := Option.map_eq_some_iff.1 h
        rw [ih hcs']
        rfl
      | surrogate n => simp [chars?] at h
  · rintro rfl
    exact chars?_ofChars cs

theorem ofChars_injective : Function.Injective ofChars := by
  intro cs cs' h
  have hchars := chars?_ofChars cs
  rw [h, chars?_ofChars] at hchars
  exact (Option.some.inj hchars).symm

/-- **The strings that have bytes**: those of texts. -/
theorem encode?_eq_some_iff {s : PyStr} {cs : List Char} :
    encode? s = some (Text.bytes cs) ↔ s = ofChars cs := by
  rw [encode?, Option.map_eq_some_iff, ← chars?_eq_some_iff]
  constructor
  · rintro ⟨cs', hcs', hbytes⟩
    rw [hcs', Text.bytes_injective hbytes]
  · exact fun h => ⟨cs, h, rfl⟩

@[simp] theorem encode?_ofChars (cs : List Char) :
    encode? (ofChars cs) = some (Text.bytes cs) := encode?_eq_some_iff.2 rfl

end PyStr

namespace Text

/-! ### Line endings -/

/-- What a reader with universal newlines makes of a text. -/
def universalNewlines : List Char → List Char
  | [] => []
  | '\r' :: '\n' :: cs => '\n' :: universalNewlines cs
  | c :: cs => (if c = '\r' then '\n' else c) :: universalNewlines cs

theorem notMem_universalNewlines (cs : List Char) : '\r' ∉ universalNewlines cs := by
  induction cs using universalNewlines.induct with
  | case1 => simp [universalNewlines]
  | case2 cs ih => simp [universalNewlines, ih]
  | case3 c cs hne ih =>
    rw [universalNewlines.eq_3 c cs hne, List.mem_cons, not_or]
    refine ⟨?_, ih⟩
    split_ifs with hc
    · decide
    · exact fun h => hc h.symm

theorem universalNewlines_eq_self {cs : List Char} (h : '\r' ∉ cs) :
    universalNewlines cs = cs := by
  induction cs using universalNewlines.induct with
  | case1 => rfl
  | case2 cs ih => simp at h
  | case3 c cs hne ih =>
    rw [List.mem_cons, not_or] at h
    rw [universalNewlines.eq_3 c cs hne, if_neg (Ne.symm h.1), ih h.2]

/-- Reading changes exactly the texts that have a carriage return. -/
theorem universalNewlines_eq_self_iff {cs : List Char} :
    universalNewlines cs = cs ↔ '\r' ∉ cs :=
  ⟨fun h => h ▸ notMem_universalNewlines cs, universalNewlines_eq_self⟩

/-! ### Replacing -/

section

variable {α : Type*} [DecidableEq α]

/-- The replacement loop; so many characters of the last occurrence are still to be skipped. -/
def replaceFrom (search replace : List α) : ℕ → List α → List α
  | _, [] => []
  | n + 1, _ :: t => replaceFrom search replace n t
  | 0, c :: t =>
    if search.isPrefixOf (c :: t) then replace ++ replaceFrom search replace (search.length - 1) t
    else c :: replaceFrom search replace 0 t

/-- `t.replace(search, replace)`: every occurrence from the left is replaced; an empty string occurs
between all characters and at both ends. -/
def replaceAll (search replace t : List α) : List α :=
  if search = [] then replace ++ t.flatMap fun c => c :: replace
  else replaceFrom search replace 0 t

example : replaceAll [1, 1] [2] [1, 1, 1, 0] = [2, 1, 0] := by decide

end

end Text

end AnnyRuntime
