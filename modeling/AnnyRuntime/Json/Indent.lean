import AnnyRuntime.Json.RoundTrip

/-!
# Indented JSON text

The text that `json.dumps` writes with `indent=2`.  `loads_dumpsIndent` : decoding it gives the
value back.
-/

namespace AnnyRuntime

namespace Json

/-- A new line with an indentation. -/
def newline (n : ℕ) : List Char := '\n' :: List.replicate n ' '

mutual

/-- `json.dumps(j, indent=2)`, at an indentation. -/
def dumpsIndent (n : ℕ) : Json → List Char
  | .arr l => '[' :: indentElems n l
  | .obj ms => '\x7b' :: indentMembers n ms
  | .null => dumps .null
  | .bool b => dumps (.bool b)
  | .int k => dumps (.int k)
  | .float x => dumps (.float x)
  | .str s => dumps (.str s)

/-- The elements of an array and its closing bracket. -/
def indentElems (n : ℕ) : List Json → List Char
  | [] => [']']
  | v :: vs => newline (n + 2) ++ dumpsIndent (n + 2) v ++ indentMoreElems n vs

/-- The elements of an array after the first one, and its closing bracket. -/
def indentMoreElems (n : ℕ) : List Json → List Char
  | [] => newline n ++ [']']
  | v :: vs => ',' :: (newline (n + 2) ++ dumpsIndent (n + 2) v ++ indentMoreElems n vs)

/-- The members of an object and its closing brace. -/
def indentMembers (n : ℕ) : List (String × Json) → List Char
  | [] => ['\x7d']
  | (k, v) :: ms =>
    newline (n + 2) ++ quote k ++ [':', ' '] ++ dumpsIndent (n + 2) v ++ indentMoreMembers n ms

/-- The members of an object after the first one, and its closing brace. -/
def indentMoreMembers (n : ℕ) : List (String × Json) → List Char
  | [] => newline n ++ ['\x7d']
  | (k, v) :: ms =>
    ',' :: (newline (n + 2) ++ quote k ++ [':', ' '] ++ dumpsIndent (n + 2) v ++
      indentMoreMembers n ms)

end

/-! ### Round trip -/

theorem skipWs_newline (n : ℕ) (t : List Char) : skipWs (newline n ++ t) = skipWs t := by
  have hspaces : skipWs (List.replicate n ' ' ++ t) = skipWs t := by
    induction n with
    | zero => rfl
    | succ n ih => rw [List.replicate_succ, List.cons_append, skipWs_space, ih]
  exact hspaces

/-- The text of a value starts with neither white space nor a closing bracket. -/
theorem dumpsIndent_head (n : ℕ) (j : Json) :
    ∃ c r, dumpsIndent n j = c :: r ∧ isWs c = false ∧ c ≠ ']' ∧ c ≠ '\x7d' := by
  cases j with
  | arr l => exact ⟨'[', _, by rw [dumpsIndent], rfl, by decide, by decide⟩
  | obj ms => exact ⟨'\x7b', _, by rw [dumpsIndent], rfl, by decide, by decide⟩
  | null | bool b | int i | float x | str s => rw [dumpsIndent]; exact dumps_head _

theorem skipWs_dumpsIndent (n : ℕ) (j : Json) (rest : List Char) :
    skipWs (dumpsIndent n j ++ rest) = dumpsIndent n j ++ rest := by
  obtain ⟨c, r, hj, hws, -, -⟩ := dumpsIndent_head n j
  rw [hj, List.cons_append, skipWs_cons hws]

/-- What follows an element continues no number. -/
theorem follows_indentMoreElems (n : ℕ) (vs : List Json) (rest : List Char) :
    Follows (indentMoreElems n vs ++ rest) := by
  cases vs <;> rw [indentMoreElems] <;> exact follows_cons (by decide)

theorem follows_indentMoreMembers (n : ℕ) (ms : List (String × Json)) (rest : List Char) :
    Follows (indentMoreMembers n ms ++ rest) := by
  cases ms <;> rw [indentMoreMembers] <;> exact follows_cons (by decide)

/-- An array that begins with white space. -/
theorem parseValue_arr_ws {c : Char} {r r' : List Char} (h : skipWs r = c :: r') (hc : c ≠ ']')
    (n : ℕ) :
    parseValue (n + 1) ('[' :: r) = (parseElems n (c :: r')).map fun l => (.arr l.1, l.2) := by
  rw [parseValue, h]
  split
  · rename_i heq
    exact absurd (List.cons.inj heq).1 hc
  · rfl

/-- An object that begins with white space. -/
theorem parseValue_obj_ws {c : Char} {r r' : List Char} (h : skipWs r = c :: r') (hc : c ≠ '\x7d')
    (n : ℕ) :
    parseValue (n + 1) ('\x7b' :: r) = (parseMembers n (c :: r')).map fun l => (.obj l.1, l.2) := by
  rw [parseValue, h]
  split
  · rename_i heq
    exact absurd (List.cons.inj heq).1 hc
  · rfl

/-- A member of an object, and the members after it. -/
def indentMember (n : ℕ) (key : String) (v : Json) (ms : List (String × Json)) : List Char :=
  quote key ++ (':' :: ' ' :: (dumpsIndent (n + 2) v ++ indentMoreMembers n ms))

theorem skipWs_indentMember (n : ℕ) (key : String) (v : Json) (ms : List (String × Json))
    (rest : List Char) :
    skipWs (newline (n + 2) ++ (indentMember n key v ms ++ rest)) =
      indentMember n key v ms ++ rest := by
  rw [skipWs_newline, indentMember, quote]
  exact skipWs_cons rfl

mutual

/-- The decoder reads the indented text of a value off the front of a longer text. -/
theorem parseValue_dumpsIndent : ∀ (j : Json) (k n : ℕ) (rest : List Char),
    (dumpsIndent k j).length < n → Follows rest →
      parseValue n (dumpsIndent k j ++ rest) = some (j, rest)
  | .null, _, n, rest, hn, hr | .bool _, _, n, rest, hn, hr | .int _, _, n, rest, hn, hr
  | .float _, _, n, rest, hn, hr | .str _, _, n, rest, hn, hr => by
    rw [dumpsIndent] at hn ⊢
    exact parseValue_dumps _ n rest hn hr
  | .arr [], _, n + 1, rest, _, _ => by
    rw [dumpsIndent, indentElems]; rfl
  | .arr (v :: vs), k, n + 1, rest, hn, _ => by
    rw [dumpsIndent, indentElems] at hn ⊢
    have ih := parseElems_indent v vs k n rest (by
      simp only [List.length_cons, List.length_append] at hn ⊢; omega)
    obtain ⟨c, r, hv, hws, hc, -⟩ := dumpsIndent_head (k + 2) v
    have hskip : skipWs (newline (k + 2) ++ (dumpsIndent (k + 2) v ++
        (indentMoreElems k vs ++ rest))) = c :: (r ++ (indentMoreElems k vs ++ rest)) := by
      rw [skipWs_newline, skipWs_dumpsIndent, hv, List.cons_append]
    rw [hv, List.cons_append] at ih
    simp only [List.cons_append, List.append_assoc]
    rw [parseValue_arr_ws hskip hc, ih]
    rfl
  | .obj [], _, n + 1, rest, _, _ => by
    rw [dumpsIndent, indentMembers]; rfl
  | .obj ((key, v) :: ms), k, n + 1, rest, hn, _ => by
    rw [dumpsIndent, indentMembers] at hn ⊢
    have ih := parseMembers_indent key v ms k n rest (by
      simp only [List.length_cons, List.length_append, List.length_nil, indentMember] at hn ⊢
      omega)
    have hskip := skipWs_indentMember k key v ms rest
    rw [indentMember, quote] at ih hskip
    simp only [quote, List.cons_append, List.append_assoc, List.nil_append] at ih hskip ⊢
    rw [parseValue_obj_ws hskip (by decide), ih]
    rfl

/-- The decoder reads the elements of an array. -/
theorem parseElems_indent : ∀ (v : Json) (vs : List Json) (k n : ℕ) (rest : List Char),
    (dumpsIndent (k + 2) v ++ indentMoreElems k vs).length < n →
      parseElems n (dumpsIndent (k + 2) v ++ (indentMoreElems k vs ++ rest)) = some (v :: vs, rest)
  | v, vs, k, n + 1, rest, hn => by
    rw [List.length_append] at hn
    have htail : 0 < (indentMoreElems k vs).length := by
      cases vs <;> simp [indentMoreElems]
    rw [parseElems, parseValue_dumpsIndent v (k + 2) n _ (by omega)
      (follows_indentMoreElems k vs rest)]
    cases vs with
    | nil =>
      rw [indentMoreElems, List.append_assoc]
      dsimp only
      rw [skipWs_newline]
      rfl
    | cons w ws =>
      rw [indentMoreElems] at hn ⊢
      have ih := parseElems_indent w ws k n rest (by
        simp only [List.length_cons, List.length_append] at hn ⊢; omega)
      have hskip : skipWs (newline (k + 2) ++ (dumpsIndent (k + 2) w ++
          (indentMoreElems k ws ++ rest))) =
            dumpsIndent (k + 2) w ++ (indentMoreElems k ws ++ rest) := by
        rw [skipWs_newline, skipWs_dumpsIndent]
      simp only [List.cons_append, List.append_assoc]
      change (parseElems n (skipWs _)).map _ = _
      rw [hskip, ih]
      rfl

/-- The decoder reads the members of an object. -/
theorem parseMembers_indent : ∀ (key : String) (v : Json) (ms : List (String × Json)) (k n : ℕ)
    (rest : List Char), (indentMember k key v ms).length < n →
      parseMembers n (indentMember k key v ms ++ rest) = some ((key, v) :: ms, rest)
  | key, v, ms, k, n + 1, rest, hn => by
    simp only [indentMember, List.length_append, List.length_cons] at hn
    have htail : 0 < (indentMoreMembers k ms).length := by
      cases ms <;> simp [indentMoreMembers]
    obtain ⟨r, hq, hs⟩ := parseString_quote key (n := n) (by omega)
      (':' :: ' ' :: (dumpsIndent (k + 2) v ++ indentMoreMembers k ms) ++ rest)
    have hval : parseValue n (skipWs (' ' :: (dumpsIndent (k + 2) v ++ indentMoreMembers k ms ++
        rest))) = some (v, indentMoreMembers k ms ++ rest) := by
      rw [List.append_assoc, skipWs_space, skipWs_dumpsIndent]
      exact parseValue_dumpsIndent v (k + 2) n _ (by omega) (follows_indentMoreMembers k ms rest)
    rw [indentMember, List.append_assoc, hq, parseMembers, hs]
    simp only [List.cons_append, skipWs_cons (show isWs ':' = false from rfl), hval,
      String.ofList_toList]
    cases ms with
    | nil =>
      rw [indentMoreMembers, List.append_assoc, skipWs_newline]
      rfl
    | cons m ms =>
      obtain ⟨key', w⟩ := m
      rw [indentMoreMembers] at hn ⊢
      have ih := parseMembers_indent key' w ms k n rest (by
        simp only [List.length_cons, List.length_append, List.length_nil, indentMember] at hn ⊢
        omega)
      have hskip := skipWs_indentMember k key' w ms rest
      rw [indentMember] at ih hskip
      simp only [List.cons_append, List.append_assoc, List.nil_append] at ih hskip ⊢
      change (parseMembers n (skipWs _)).map _ = _
      rw [hskip, ih]
      rfl

end

/-- **Round trip.** Decoding the indented text of a value gives the value back. -/
theorem loads_dumpsIndent (j : Json) : loads (dumpsIndent 0 j) = some j := by
  have hs := skipWs_dumpsIndent 0 j []
  have hp := parseValue_dumpsIndent j 0 ((dumpsIndent 0 j).length + 1) [] (by omega) follows_nil
  rw [List.append_nil] at hs hp
  rw [loads, hs, hp]
  rfl

end Json

end AnnyRuntime
