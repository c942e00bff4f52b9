import AnnyRuntime.Lib.Dict
import AnnyRuntime.Telemetry.Metadata
import Mathlib.Data.List.Infix

/-!
# Scrubbing telemetry metadata

`scrubMetadata` walks through dictionaries and lists and replaces the value of every key that looks
sensitive; everything that is no JSON value it replaces by its text.

What that is for is said without it.  A key is a *secret* key when its text has one of the sensitive
words in it.  Two values that only differ below secret keys (`erase`) are not to be told apart by
what is persisted; the other keys are to stay (`Kept`), and scrubbing twice is scrubbing once.

`covered` is when that is so.  It fails for a secret key inside a container that is written as text,
such as a tuple, and for a secret key with a line break in it, which the pattern does not match.
-/

namespace AnnyRuntime

namespace Telemetry

/-! ### Sensitive keys -/

/-- The words of `_SENSITIVE_KEY_PATTERN`. -/
def sensitiveWords : List (List Char) :=
  ["token".toList, "key".toList, "password".toList, "secret".toList, "credential".toList,
    "auth".toList, "pat".toList]

/-- A letter of the pattern matches a character when case is ignored.  Four characters outside ASCII
fold to the letters `i`, `k` and `s`. -/
def sameLetter (p c : Char) : Bool :=
  c.toLower = p || (p = 'i' && (c = '\u0130' || c = '\u0131')) || (p = 'k' && c = '\u212a') ||
    (p = 's' && c = '\u017f')

/-- A text starts with a word, in any case. -/
def startsWith : List Char → List Char → Bool
  | [], _ => true
  | _ :: _, [] => false
  | p :: ps, c :: cs => sameLetter p c && startsWith ps cs

/-- One of the sensitive words stands in a text. -/
def hasSensitiveWord (t : List Char) : Bool :=
  sensitiveWords.any fun w => t.tails.any (startsWith w)

/-- A text without a line break at its very end, which `$` does not need to reach. -/
def withoutLastBreak (t : List Char) : List Char :=
  if t.getLast? = some '\n' then t.dropLast else t

/-- `_is_sensitive_key`: `.*(…).*$` matches from the start, and `.` is no line break. -/
def isSensitiveKey (t : List Char) : Bool :=
  (withoutLastBreak t).all (fun c => !(c = '\n')) && hasSensitiveWord (withoutLastBreak t)

theorem hasSensitiveWord_iff {t : List Char} :
    hasSensitiveWord t = true ↔ ∃ w ∈ sensitiveWords, ∃ s, s <:+ t ∧ startsWith w s = true := by
  simp only [hasSensitiveWord, List.any_eq_true, List.mem_tails]

theorem startsWith_append {w s : List Char} (h : startsWith w s = true) (r : List Char) :
    startsWith w (s ++ r) = true := by
  induction w generalizing s with
  | nil => simp [startsWith]
  | cons p w ih =>
    cases s with
    | nil => simp [startsWith] at h
    | cons c s =>
      simp only [startsWith, Bool.and_eq_true, List.cons_append] at h ⊢
      exact ⟨h.1, ih h.2⟩

/-- A character that no letter of the word matches is not needed at the end. -/
theorem startsWith_of_append {w s : List Char} {c : Char}
    (hc : ∀ p ∈ w, sameLetter p c = false) (h : startsWith w (s ++ [c]) = true) :
    startsWith w s = true := by
  induction w generalizing s with
  | nil => simp [startsWith]
  | cons p w ih =>
    cases s with
    | nil => simp [startsWith, hc p List.mem_cons_self] at h
    | cons d s =>
      simp only [startsWith, Bool.and_eq_true, List.cons_append] at h ⊢
      exact ⟨h.1, ih (fun q hq => hc q (List.mem_cons_of_mem _ hq)) h.2⟩

theorem sameLetter_newline : ∀ w ∈ sensitiveWords, ∀ p ∈ w, sameLetter p '\n' = false := by
  intro w hw p hp
  have hall : (sensitiveWords.all fun w => w.all fun p => !sameLetter p '\n') = true := by decide
  simpa using List.all_eq_true.1 (List.all_eq_true.1 hall w hw) p hp

theorem hasSensitiveWord_append {t : List Char} (h : hasSensitiveWord t = true) (r : List Char) :
    hasSensitiveWord (t ++ r) = true := by
  obtain ⟨w, hw, s, ⟨u, rfl⟩, hs⟩ := hasSensitiveWord_iff.1 h
  exact hasSensitiveWord_iff.2 ⟨w, hw, s ++ r, ⟨u, by simp⟩, startsWith_append hs r⟩

theorem hasSensitiveWord_newline {t : List Char} (h : hasSensitiveWord (t ++ ['\n']) = true) :
    hasSensitiveWord t = true := by
  obtain ⟨w, hw, s, ⟨u, hu⟩, hs⟩ := hasSensitiveWord_iff.1 h
  rcases List.eq_nil_or_concat s with rfl | ⟨s', c, rfl⟩
  · have hne : (sensitiveWords.all fun w => !startsWith w []) = true := by decide
    have := List.all_eq_true.1 hne w hw
    simp [hs] at this
  · rw [List.concat_eq_append, ← List.append_assoc] at hu
    obtain ⟨rfl, hc⟩ := List.append_inj' hu rfl
    obtain rfl := List.singleton_inj.1 hc
    rw [List.concat_eq_append] at hs
    exact hasSensitiveWord_iff.2
      ⟨w, hw, s', List.suffix_append u s', startsWith_of_append (sameLetter_newline w hw) hs⟩

theorem hasSensitiveWord_withoutLastBreak (t : List Char) :
    hasSensitiveWord (withoutLastBreak t) = hasSensitiveWord t := by
  unfold withoutLastBreak
  split_ifs with h
  · have ht : t = t.dropLast ++ ['\n'] := (List.dropLast_append_getLast? _ h).symm
    rw [Bool.eq_iff_iff]
    constructor
    · intro hw
      rw [ht]
      exact hasSensitiveWord_append hw _
    · intro hw
      rw [ht] at hw
      exact hasSensitiveWord_newline hw
  · rfl

/-- **The pattern.**  A key is taken for sensitive when a sensitive word stands in it and no line
break does, except at its very end. -/
theorem isSensitiveKey_iff {t : List Char} :
    isSensitiveKey t = true ↔ hasSensitiveWord t = true ∧ '\n' ∉ withoutLastBreak t := by
  rw [isSensitiveKey, hasSensitiveWord_withoutLastBreak, Bool.and_eq_true, and_comm]
  simp only [List.all_eq_true, Bool.not_eq_true', decide_eq_false_iff_not]
  exact and_congr_right fun _ =>
    ⟨fun h hm => h '\n' hm rfl, fun h c hc hcn => h (hcn ▸ hc)⟩

/-! ### The scrubber -/

/-- `_REDACTED_STR`. -/
def redacted : Json := .str "[REDACTED]"

section Scrub

variable (printable : Char → Bool)

mutual

/-- `scrub_metadata`, unless it raises. -/
def scrubMetadata : Value → Option Json
  | .none => some .null
  | .bool b => some (.bool b)
  | .int n => some (.int n)
  | .float x => some (.float x)
  | .str s => some (.str s)
  | .list l => (scrubElems l).map .arr
  | .dict ms => (scrubMembers ms).map fun es => .obj (Dict.ofList es).entries
  | .container opening items closing =>
    -- what is neither a dictionary, a list nor a scalar is cast to a string
    ((Value.container opening items closing).repr printable).map fun t => .str (String.ofList t)
  | .object o => o.str.map fun t => .str (String.ofList t)

/-- The elements of a list. -/
def scrubElems : List Value → Option (List Json)
  | [] => some []
  | v :: vs => (scrubMetadata v).bind fun j => (scrubElems vs).map (j :: ·)

/-- The members that are assigned to the scrubbed dictionary, one after the other. -/
def scrubMembers : List (Key × Value) → Option (List (String × Json))
  | [] => some []
  | (k, v) :: ms => k.text?.bind fun t =>
    (if isSensitiveKey t then some redacted else scrubMetadata v).bind fun j =>
      (scrubMembers ms).map ((String.ofList t, j) :: ·)

end

end Scrub

/-! ### What scrubbing is for -/

/-- A key whose text has a sensitive word in it. -/
def Key.secret (k : Key) : Bool := k.text?.any hasSensitiveWord

/-- The texts of the keys of a dictionary. -/
def keyTexts (ms : List (Key × Value)) : List String :=
  ms.filterMap fun m => m.1.text?.map String.ofList

/-- A text has no sensitive word in it. -/
def isOther (s : String) : Bool := !hasSensitiveWord s.toList

namespace Value

mutual

/-- A value without what stands below secret keys, at any depth and in any container. -/
def erase : Value → Value
  | list l => list (eraseElems l)
  | dict ms => dict (eraseMembers ms)
  | container opening items closing => container opening (eraseItems items) closing
  | v => v

/-- The elements of a list. -/
def eraseElems : List Value → List Value
  | [] => []
  | v :: vs => erase v :: eraseElems vs

/-- The members of a dictionary. -/
def eraseMembers : List (Key × Value) → List (Key × Value)
  | [] => []
  | (k, v) :: ms => (k, if k.secret then none else erase v) :: eraseMembers ms

/-- The items of another container. -/
def eraseItems : List (List Char × Value) → List (List Char × Value)
  | [] => []
  | (label, v) :: items => (label, erase v) :: eraseItems items

end

mutual

/-- A secret key stands somewhere in a value. -/
def mentions : Value → Bool
  | list l => mentionsElems l
  | dict ms => mentionsMembers ms
  | container _ items _ => mentionsItems items
  | _ => false

/-- The elements of a list. -/
def mentionsElems : List Value → Bool
  | [] => false
  | v :: vs => mentions v || mentionsElems vs

/-- The members of a dictionary. -/
def mentionsMembers : List (Key × Value) → Bool
  | [] => false
  | (k, v) :: ms => k.secret || mentions v || mentionsMembers ms

/-- The items of another container. -/
def mentionsItems : List (List Char × Value) → Bool
  | [] => false
  | (_, v) :: items => mentions v || mentionsItems items

end

mutual

/-- The scrubbed value has the lists, the scalars and the keys of the original, save the secret
keys; what is no JSON value is a string. -/
def Kept : Value → Json → Prop
  | none, j => j = .null
  | bool b, j => j = .bool b
  | int n, j => j = .int n
  | float x, j => j = .float x
  | str s, j => j = .str s
  | list l, j => ∃ js, j = .arr js ∧ KeptElems l js
  | dict ms, j => ∃ js, j = .obj js ∧
    (js.map Prod.fst).filter isOther = (keyTexts ms).filter isOther ∧ KeptMembers ms js
  | container _ _ _, j | object _, j => ∃ s, j = .str s

/-- The elements of a list, in their places. -/
def KeptElems : List Value → List Json → Prop
  | [], js => js = []
  | v :: vs, js => ∃ j js', js = j :: js' ∧ Kept v j ∧ KeptElems vs js'

/-- The members of a dictionary whose keys are not secret, at their keys. -/
def KeptMembers : List (Key × Value) → List (String × Json) → Prop
  | [], _ => True
  | (k, v) :: ms, js =>
    (∀ t, k.text? = some t → hasSensitiveWord t = false →
        ∃ j, (String.ofList t, j) ∈ js ∧ Kept v j) ∧
      KeptMembers ms js

end

end Value

/-- Scrubbing a value does what it is for. -/
structure Complete (printable : Char → Bool) (v : Value) : Prop where
  /-- There is a JSON value. -/
  serialisable : ∃ j, scrubMetadata printable v = some j
  /-- It is the same for every value that only differs below secret keys. -/
  hidden : ∀ w : Value, w.erase = v.erase → scrubMetadata printable w = scrubMetadata printable v
  /-- The other keys are preserved. -/
  kept : ∀ j, scrubMetadata printable v = some j → v.Kept j
  /-- Scrubbing it again changes nothing. -/
  stable : ∀ j, scrubMetadata printable v = some j →
    scrubMetadata printable (Value.ofJson j) = some j

namespace Value

mutual

/-- Every secret key stands in a dictionary that is reached through dictionaries and lists only and
is matched by the pattern; no two other keys of such a dictionary have one text; and every text that
is asked for there exists. -/
def covered (printable : Char → Bool) : Value → Bool
  | list l => coveredElems printable l
  | dict ms => decide ((keyTexts ms).filter isOther).Nodup && coveredMembers printable ms
  | container opening items closing =>
    ((container opening items closing).repr printable).isSome && !mentionsItems items
  | object o => o.str.isSome
  | _ => true

/-- The elements of a list. -/
def coveredElems (printable : Char → Bool) : List Value → Bool
  | [] => true
  | v :: vs => covered printable v && coveredElems printable vs

/-- The members of a dictionary. -/
def coveredMembers (printable : Char → Bool) : List (Key × Value) → Bool
  | [] => true
  | (k, v) :: ms =>
    (k.text?.any fun t => if hasSensitiveWord t then isSensitiveKey t else covered printable v) &&
      coveredMembers printable ms

end

end Value

end Telemetry

end AnnyRuntime
