import Mathlib.Data.List.Basic
import Mathlib.Data.List.Induction
import Mathlib.Data.List.TakeWhile

/-!
# Text files

Text files as Python reads and appends to them: the bytes of a file are UTF-8, a reader splits
the characters into lines at `\n`, `\r\n` and `\r` (universal newlines), and `str.strip` removes
white space at both ends of a line.

`decode_append` and `lines_append` say what a reader sees after text was appended to a file.
-/

namespace AnnyRuntime

namespace Text

/-! ### Bytes -/

/-- The one decision that the files of this development are compared with. -/
instance instDecidableEqBytes : DecidableEq ByteArray := ByteArray.instDecidableEq

/-- The bytes of a text. -/
def encode (cs : List Char) : ByteArray := (String.ofList cs).toByteArray

/-- The text that bytes encode, when they are UTF-8. -/
def decode (b : ByteArray) : Option (List Char) := b.utf8Decode?.map Array.toList

theorem encode_eq (cs : List Char) : encode cs = cs.utf8Encode := String.toByteArray_ofList

@[simp] theorem decode_encode (cs : List Char) : decode (encode cs) = some cs := by
  simp [decode, encode]

theorem decode_eq_some_iff {b : ByteArray} {cs : List Char} :
    decode b = some cs ↔ b = encode cs := by
  refine ⟨fun h => ?_, fun h => by rw [h, decode_encode]⟩
  obtain ⟨a, ha, rfl⟩ := Option.map_eq_some_iff.1 h
  have hs : b.utf8Decode?.isSome := by rw [ha]; rfl
  have hb := ByteArray.utf8Encode_get_utf8Decode? (b := b) (h := hs)
  simp only [ha, Option.get_some] at hb
  rw [encode_eq, hb]

theorem encode_append (u v : List Char) : encode (u ++ v) = encode u ++ encode v := by
  simp only [encode_eq, List.utf8Encode_append]

/-- Every character is ASCII. -/
def Ascii (cs : List Char) : Prop := ∀ c ∈ cs, c.toNat < 128

theorem Ascii.append {u v : List Char} (hu : Ascii u) (hv : Ascii v) : Ascii (u ++ v) :=
  fun c hc => (List.mem_append.1 hc).elim (hu c) (hv c)

theorem ascii_singleton {c : Char} (h : c.toNat < 128) : Ascii [c] :=
  List.forall_mem_singleton.2 h

theorem ascii_newline : Ascii ['\n'] := ascii_singleton (by decide)

theorem utf8Size_of_ascii {c : Char} (h : c.toNat < 128) : c.utf8Size = 1 :=
  Char.utf8Size_eq_one_iff.2 (UInt32.le_iff_toNat_le.2 (Nat.lt_succ_iff.1 h))

theorem toList_encode (cs : List Char) :
    (encode cs).data.toList = cs.flatMap String.utf8EncodeChar := by
  simp [encode_eq, List.utf8Encode]

theorem bytes_ext {b b' : ByteArray} (h : b.data.toList = b'.data.toList) : b = b' :=
  ByteArray.ext (Array.toList_inj.1 h)

/-- A byte that starts a character ends one only if the character has no other byte. -/
theorem eq_of_concat_firstByte {x : UInt8} (hx : x.IsUTF8FirstByte) {d : Char} {u v : List UInt8}
    (h : u ++ [x] = v ++ String.utf8EncodeChar d) : u = v := by
  obtain ⟨l, y, hl⟩ := (List.eq_nil_or_concat' (String.utf8EncodeChar d)).resolve_left
    String.utf8EncodeChar_ne_nil
  rw [hl, ← List.append_assoc] at h
  obtain ⟨hu, hxy⟩ := List.append_inj' h rfl
  have hlen : l.length < (String.utf8EncodeChar d).length := by rw [hl]; simp
  have hfirst : (String.utf8EncodeChar d)[l.length].IsUTF8FirstByte := by
    simp only [hl, List.getElem_concat_length]
    rw [← List.singleton_inj.1 hxy]
    exact hx
  rw [UInt8.isUTF8FirstByte_getElem_utf8EncodeChar, List.length_eq_zero_iff] at hfirst
  rw [hu, hfirst, List.append_nil]

/-- An ASCII character is one byte. -/
theorem utf8EncodeChar_ascii {c : Char} (hc : c.toNat < 128) :
    ∃ x, String.utf8EncodeChar c = [x] ∧ x.IsUTF8FirstByte := by
  obtain ⟨x, hx⟩ := List.length_eq_one_iff.1
    ((String.length_utf8EncodeChar c).trans (utf8Size_of_ascii hc))
  have hfirst := UInt8.isUTF8FirstByte_getElem_zero_utf8EncodeChar (c := c)
  simp only [hx, List.getElem_cons_zero] at hfirst
  exact ⟨x, hx, hfirst⟩

/-- A file that is UTF-8 after an ASCII character was written to its end was so before. -/
theorem exists_of_append_ascii {b : ByteArray} {c : Char} (hc : c.toNat < 128) {m : List Char}
    (h : b ++ encode [c] = encode m) : ∃ m', b = encode m' := by
  obtain ⟨x, hx, hfirst⟩ := utf8EncodeChar_ascii hc
  have hl := congrArg (fun b => b.data.toList) h
  simp only [ByteArray.toList_data_append, toList_encode, List.flatMap_singleton, hx] at hl
  rcases List.eq_nil_or_concat' m with rfl | ⟨m', d, rfl⟩
  · exact absurd hl (by simp)
  · rw [List.flatMap_append, List.flatMap_singleton] at hl
    exact ⟨m', bytes_ext (by rw [toList_encode, eq_of_concat_firstByte hfirst hl])⟩

/-- What is read after ASCII text is appended to a file. -/
theorem decode_append {b : ByteArray} {t : List Char} (ht : Ascii t) :
    decode (b ++ encode t) = (decode b).map (· ++ t) := by
  cases hb : decode b with
  | some cs =>
    rw [decode_eq_some_iff] at hb
    rw [hb, ← encode_append, decode_encode]
    rfl
  | none =>
    rw [Option.map_none, Option.eq_none_iff_forall_ne_some]
    intro m hm
    rw [decode_eq_some_iff] at hm
    induction t using List.reverseRecOn generalizing m with
    | nil =>
      rw [show encode [] = ByteArray.empty by simp [encode_eq], ByteArray.append_empty] at hm
      rw [decode_eq_some_iff.2 hm] at hb
      exact absurd hb (by simp)
    | append_singleton t c ih =>
      rw [encode_append, ← ByteArray.append_assoc] at hm
      obtain ⟨m', hm'⟩ := exists_of_append_ascii (ht c (by simp)) hm
      exact ih (fun c' hc' => ht c' (List.mem_append_left _ hc')) m' hm'

/-! ### Bytes -/

/-- The bytes of a text. -/
def bytes (cs : List Char) : List UInt8 := (encode cs).data.toList

/-- The text that bytes are. -/
def ofBytes (bs : List UInt8) : Option (List Char) := decode ⟨bs.toArray⟩

@[simp] theorem ofBytes_bytes (cs : List Char) : ofBytes (bytes cs) = some cs := by
  rw [ofBytes, bytes, Array.toArray_toList]
  exact decode_encode cs

/-- Bytes are those of the text that they are read as. -/
theorem eq_bytes_of_ofBytes {b : List UInt8} {cs : List Char} (h : ofBytes b = some cs) :
    b = bytes cs := by
  have hb := decode_eq_some_iff.1 h
  rw [bytes, ← hb]

theorem bytes_injective : Function.Injective bytes := by
  intro cs cs' h
  have hread := ofBytes_bytes cs
  rw [h, ofBytes_bytes] at hread
  exact (Option.some.inj hread).symm

@[simp] theorem bytes_nil : bytes [] = [] := rfl

theorem bytes_append (u v : List Char) : bytes (u ++ v) = bytes u ++ bytes v := by
  rw [bytes, encode_append, ByteArray.toList_data_append, bytes, bytes]

/-- ASCII text has one byte for each character. -/
theorem bytes_ascii {cs : List Char} (h : Ascii cs) :
    bytes cs = cs.map fun c => c.val.toUInt8 := by
  rw [bytes, toList_encode, List.map_eq_flatMap]
  exact List.flatMap_congr fun c hc =>
    String.utf8EncodeChar_eq_singleton (utf8Size_of_ascii (h c hc))

theorem length_bytes {cs : List Char} (h : Ascii cs) : (bytes cs).length = cs.length := by
  rw [bytes_ascii h, List.length_map]

/-- What is read of ASCII text that was cut. -/
theorem take_bytes {cs : List Char} (h : Ascii cs) (n : ℕ) :
    (bytes cs).take n = bytes (cs.take n) := by
  rw [bytes_ascii h, bytes_ascii fun c hc => h c (List.mem_of_mem_take hc), List.map_take]

/-- A byte of ASCII text is one of its characters. -/
theorem exists_of_mem_bytes {cs : List Char} (h : Ascii cs) {x : UInt8} (hx : x ∈ bytes cs) :
    ∃ c ∈ cs, c.toNat = x.toNat := by
  rw [bytes_ascii h] at hx
  obtain ⟨c, hc, rfl⟩ := List.mem_map.1 hx
  refine ⟨c, hc, ?_⟩
  have hlt : c.val.toNat < 2 ^ 8 := lt_trans (h c hc) (by decide)
  rw [UInt32.toNat_toUInt8, Nat.mod_eq_of_lt hlt]
  rfl

/-! ### Lines -/

/-- The lines of a text, without their ends. -/
def lines : List Char → List (List Char)
  | [] => []
  | '\n' :: cs => [] :: lines cs
  | '\r' :: '\n' :: cs => [] :: lines cs
  | '\r' :: cs => [] :: lines cs
  | c :: cs =>
    match lines cs with
    | [] => [[c]]
    | l :: ls => (c :: l) :: ls

/-- The text ends with a line end, or is empty: what is appended starts a new line. -/
def AtLineStart (cs : List Char) : Prop := ∀ c ∈ cs.getLast?, c = '\n' ∨ c = '\r'

/-- A character that does not end a line. -/
def NoBreak (c : Char) : Prop := c ≠ '\n' ∧ c ≠ '\r'

theorem lines_cons {c : Char} (hc : NoBreak c) (cs : List Char) :
    lines (c :: cs) = match lines cs with
      | [] => [[c]]
      | l :: ls => (c :: l) :: ls := by
  rw [lines]
  · exact fun h => hc.1 h
  · exact fun _ h _ => hc.2 h
  · exact fun h => hc.2 h

theorem lines_line {w : List Char} (hw : ∀ c ∈ w, NoBreak c) (t : List Char) :
    lines (w ++ '\n' :: t) = w :: lines t := by
  induction w with
  | nil => rfl
  | cons c w ih =>
    rw [List.cons_append, lines_cons (hw c List.mem_cons_self),
      ih fun c' hc' => hw c' (List.mem_cons_of_mem _ hc')]

theorem lines_last {w : List Char} (hw : ∀ c ∈ w, NoBreak c) (hne : w ≠ []) :
    lines w = [w] := by
  induction w with
  | nil => exact absurd rfl hne
  | cons c w ih =>
    rw [lines_cons (hw c List.mem_cons_self)]
    cases w with
    | nil => rfl
    | cons d w =>
      rw [ih (fun c' hc' => hw c' (List.mem_cons_of_mem _ hc')) (List.cons_ne_nil _ _)]

theorem AtLineStart.tail {c : Char} {cs : List Char} (h : AtLineStart (c :: cs)) :
    AtLineStart cs := by
  cases cs with
  | nil => simp [AtLineStart]
  | cons d cs => simpa [AtLineStart] using h

theorem lines_eq_nil_iff {cs : List Char} : lines cs = [] ↔ cs = [] := by
  refine ⟨fun h => ?_, fun h => by rw [h]; rfl⟩
  fun_cases lines cs with
  | case1 => rfl
  | _ => simp_all [lines]

theorem lines_append {u t : List Char} (hu : AtLineStart u) (ht : ∀ c ∈ t.head?, NoBreak c) :
    lines (u ++ t) = lines u ++ lines t := by
  fun_induction lines u with
  | case1 => rfl
  | case2 cs ih => rw [List.cons_append, lines, ih hu.tail, List.cons_append]
  | case3 cs ih =>
    rw [List.cons_append, List.cons_append, lines, ih hu.tail.tail, List.cons_append]
  | case4 cs hcs ih =>
    rw [List.cons_append, lines, ih hu.tail, List.cons_append]
    rintro r hr
    cases cs with
    | nil => exact (ht '\n' (by rw [List.nil_append] at hr; rw [hr]; rfl)).1 rfl
    | cons d cs => exact hcs cs (by rw [(List.cons.inj hr).1])
  | case5 c cs h1 h2 h3 hl ih =>
    obtain rfl := lines_eq_nil_iff.1 hl
    rcases hu c rfl with rfl | rfl
    · exact absurd rfl h1
    · exact absurd rfl h3
  | case6 c cs h1 h2 h3 l ls hl ih =>
    rw [List.cons_append, lines_cons ⟨h1, h3⟩, ih hu.tail, hl]
    rfl

/-- The characters `str.isspace` accepts. -/
def isSpace (c : Char) : Bool :=
  let n := c.toNat
  (9 ≤ n && n ≤ 13) || (28 ≤ n && n ≤ 32) || n = 0x85 || n = 0xa0 || n = 0x1680 ||
    (0x2000 ≤ n && n ≤ 0x200a) || n = 0x2028 || n = 0x2029 || n = 0x202f || n = 0x205f || n = 0x3000

/-- `str.strip`. -/
def strip (cs : List Char) : List Char :=
  ((cs.dropWhile isSpace).reverse.dropWhile isSpace).reverse

theorem length_strip_le (cs : List Char) : (strip cs).length ≤ cs.length := by
  have h1 := (List.dropWhile_sublist (l := (cs.dropWhile isSpace).reverse) isSpace).length_le
  have h2 := (List.dropWhile_sublist (l := cs) isSpace).length_le
  rw [List.length_reverse] at h1
  rw [strip, List.length_reverse]
  omega

/-- A text on one line, with no white space at its ends. -/
structure Solid (t : List Char) : Prop where
  /-- It is one line. -/
  noBreak : ∀ c ∈ t, NoBreak c
  /-- It starts with no white space. -/
  head : ∃ c ∈ t.head?, isSpace c = false
  /-- It ends with no white space. -/
  last : ∃ c ∈ t.getLast?, isSpace c = false

theorem Solid.ne_nil {t : List Char} (h : Solid t) : t ≠ [] := by
  rintro rfl
  obtain ⟨c, hc, -⟩ := h.head
  exact absurd hc (by simp)

theorem Solid.strip_eq {t : List Char} (h : Solid t) : strip t = t := by
  obtain ⟨c, hc, hcs⟩ := h.head
  obtain ⟨d, hd, hds⟩ := h.last
  obtain ⟨r, rfl⟩ := List.head?_eq_some_iff.1 hc
  obtain ⟨i, hi⟩ := List.getLast?_eq_some_iff.1 hd
  rw [strip, List.dropWhile_cons_of_neg (by simp [hcs]), hi, List.reverse_concat,
    List.dropWhile_cons_of_neg (by simp [hds]), ← List.reverse_concat, List.reverse_reverse]

/-- Stripping what is left of a text that was cut only cuts more of it. -/
theorem Solid.isPrefix_strip {t p : List Char} (h : Solid t) (hp : p <+: t) : strip p <+: p := by
  cases p with
  | nil => exact List.nil_prefix
  | cons c p =>
    obtain ⟨d, hd, hds⟩ := h.head
    obtain ⟨r, rfl⟩ := List.head?_eq_some_iff.1 hd
    obtain ⟨rfl, -⟩ := List.cons_prefix_cons.1 hp
    rw [strip, List.dropWhile_cons_of_neg (by simp [hds])]
    exact List.reverse_suffix.1 (by rw [List.reverse_reverse]; exact List.dropWhile_suffix _)

/-- Joining two texts, of which the first starts and the second ends well. -/
theorem Solid.append {u v : List Char} (hu : ∀ c ∈ u, NoBreak c)
    (hhead : ∃ c ∈ u.head?, isSpace c = false) (hv : Solid v) : Solid (u ++ v) where
  noBreak c hc := (List.mem_append.1 hc).elim (hu c) (hv.noBreak c)
  head := by
    obtain ⟨c, hc, h⟩ := hhead
    exact ⟨c, by rw [List.head?_append, Option.mem_def.1 hc]; rfl, h⟩
  last := by
    obtain ⟨c, hc, h⟩ := hv.last
    exact ⟨c, by rw [List.getLast?_append, Option.mem_def.1 hc]; rfl, h⟩

end Text

end AnnyRuntime
