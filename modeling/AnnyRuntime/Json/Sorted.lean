import AnnyRuntime.Json.Encode
import AnnyRuntime.Lib.Dict
import Mathlib.Data.List.Sort
import Mathlib.Data.String.Basic

/-!
# Encoding with sorted keys

`json.dumps(v, sort_keys=True)` writes the members of every dictionary in the order of their keys,
and raises for an object that it does not know (`PyVal.encodeSorted`).  Keys that are numbers are
sorted by their texts here.

* `encodeSorted_ofJson` : what was written and decoded is written as the same text again.
* `truthy_reload`, `reload_eq_str`, `reload_eq_none` : neither the truth value nor whether it is a
  given string or `None` changes on the way.
-/

namespace AnnyRuntime

namespace Json

/-! ### Sorting -/

/-- The order of the members of an object. -/
def KeyLE (a b : String × Json) : Prop := a.1 ≤ b.1

instance : DecidableRel KeyLE := fun a b => inferInstanceAs (Decidable (a.1 ≤ b.1))

instance : Std.Total KeyLE := ⟨fun a b => le_total a.1 b.1⟩

instance : IsTrans (String × Json) KeyLE := ⟨fun _ _ _ h h' => le_trans h h'⟩

mutual

/-- The value with the members of its objects in the order of their keys. -/
def sortKeys : Json → Json
  | .arr l => .arr (sortElems l)
  | .obj ms => .obj ((sortMembers ms).insertionSort KeyLE)
  | j => j

/-- The elements of an array. -/
def sortElems : List Json → List Json
  | [] => []
  | v :: vs => sortKeys v :: sortElems vs

/-- The members of an object, as they stand in it. -/
def sortMembers : List (String × Json) → List (String × Json)
  | [] => []
  | (k, v) :: ms => (k, sortKeys v) :: sortMembers ms

end

theorem length_sortElems (l : List Json) : (sortElems l).length = l.length := by
  induction l with
  | nil => rfl
  | cons v vs ih => rw [sortElems, List.length_cons, List.length_cons, ih]

theorem sortMembers_eq_map (ms : List (String × Json)) :
    sortMembers ms = ms.map fun m => (m.1, sortKeys m.2) := by
  induction ms with
  | nil => rfl
  | cons m ms ih => rw [sortMembers, List.map_cons, ih]

mutual

/-- **Sorting twice is sorting once.** -/
theorem sortKeys_sortKeys : ∀ j : Json, sortKeys (sortKeys j) = sortKeys j
  | .null | .bool _ | .int _ | .float _ | .str _ => rfl
  | .arr l => by rw [sortKeys, sortKeys, sortElems_sortElems l]
  | .obj ms => by
    rw [sortKeys, sortKeys, sortMembers_eq_map]
    -- the members of the sorted object are sorted themselves, so that nothing moves
    have hfix : ((sortMembers ms).insertionSort KeyLE).map (fun m => (m.1, sortKeys m.2)) =
        (sortMembers ms).insertionSort KeyLE := by
      rw [List.map_congr_left (g := id), List.map_id]
      intro m hm
      rw [List.mem_insertionSort] at hm
      rw [sortMembers_sortMembers ms m hm]
      rfl
    rw [hfix, (List.pairwise_insertionSort KeyLE _).insertionSort_eq]

/-- The elements of an array. -/
theorem sortElems_sortElems : ∀ l : List Json, sortElems (sortElems l) = sortElems l
  | [] => rfl
  | v :: vs => by
    rw [sortElems, sortElems, sortKeys_sortKeys v, sortElems_sortElems vs]

/-- The members of an object. -/
theorem sortMembers_sortMembers : ∀ (ms : List (String × Json)), ∀ m ∈ sortMembers ms,
    sortKeys m.2 = m.2
  | [], _, h => by simp [sortMembers] at h
  | (k, v) :: ms, m, h => by
    rw [sortMembers, List.mem_cons] at h
    rcases h with rfl | h
    · exact sortKeys_sortKeys v
    · exact sortMembers_sortMembers ms m h

end

/-- An object whose keys differ has exactly the members that are looked up in it. -/
theorem lookup_eq_some_iff_mem {k : String} {v : Json} {ms : List (String × Json)}
    (h : (ms.map Prod.fst).Nodup) : lookup k ms = some v ↔ (k, v) ∈ ms := by
  have hrev : (ms.reverse.map Prod.fst).Nodup := by
    rw [List.map_reverse]
    exact List.nodup_reverse.2 h
  exact (Dict.get?_eq_some_iff (d := ⟨ms.reverse, hrev⟩)).trans List.mem_reverse

/-- Sorting the keys of an object keeps its members. -/
theorem lookup_insertionSort {k : String} {v : Json} {ms : List (String × Json)}
    (h : (ms.map Prod.fst).Nodup) (hv : (k, v) ∈ ms) :
    lookup k ((sortMembers ms).insertionSort KeyLE) = some (sortKeys v) := by
  have hperm := List.perm_insertionSort KeyLE (sortMembers ms)
  have hkeys : ((sortMembers ms).map Prod.fst).Nodup := by
    rw [sortMembers_eq_map, List.map_map]
    exact h
  rw [lookup_eq_some_iff_mem ((hperm.map Prod.fst).nodup_iff.2 hkeys), hperm.mem_iff,
    sortMembers_eq_map]
  exact List.mem_map.2 ⟨(k, v), hv, rfl⟩

end Json

namespace PyVal

/-! ### Equality -/

mutual

/-- `v == w`.  Numbers of one value are equal, but for a float and an integer; an object is only
equal to itself. -/
def beq : PyVal → PyVal → Bool
  | none, none => true
  | bool a, bool b => a == b
  | bool a, int n | int n, bool a => n == if a then 1 else 0
  | int m, int n => m == n
  | float x, float y => x == y && x != .nan
  | str s, str t => s == t
  | list l, list l' => beqElems l l'
  | dict ms, dict ms' => ms.length == ms'.length && beqMembers ms ms'
  | object o, object p => o.name == p.name
  | _, _ => false

/-- The lists have equal elements. -/
def beqElems : List PyVal → List PyVal → Bool
  | [], [] => true
  | v :: vs, w :: ws => beq v w && beqElems vs ws
  | _, _ => false

/-- The members of the first dictionary are in the second. -/
def beqMembers : List (PyKey × PyVal) → List (PyKey × PyVal) → Bool
  | [], _ => true
  | (k, v) :: ms, ms' =>
    (match ms'.lookup k with
      | some w => beq v w
      | Option.none => false) && beqMembers ms ms'

end

/-! ### Encoding -/

mutual

/-- The value has no object that JSON does not know. -/
def known : PyVal → Bool
  | list l => knownElems l
  | dict ms => knownMembers ms
  | object _ => false
  | _ => true

/-- The elements of a list. -/
def knownElems : List PyVal → Bool
  | [] => true
  | v :: vs => known v && knownElems vs

/-- The members of a dictionary. -/
def knownMembers : List (PyKey × PyVal) → Bool
  | [] => true
  | (_, v) :: ms => known v && knownMembers ms

end

/-- The JSON value whose text `json.dumps(v, sort_keys=True)` writes, unless it raises. -/
def encodeSorted (v : PyVal) : Option Json :=
  if v.known then (v.encode true).map Json.sortKeys else Option.none

mutual

theorem known_ofJson : ∀ j : Json, (ofJson j).known = true
  | .null | .bool _ | .int _ | .float _ | .str _ => rfl
  | .arr l => by rw [ofJson, known, knownElems_ofElems l]
  | .obj ms => by rw [ofJson, known, knownMembers_ofPairs ms]

theorem knownElems_ofElems : ∀ l : List Json, knownElems (ofElems l) = true
  | [] => rfl
  | v :: vs => by rw [ofElems, knownElems, known_ofJson v, knownElems_ofElems vs, Bool.and_self]

theorem knownMembers_ofPairs : ∀ ms : List (String × Json), knownMembers (ofPairs ms) = true
  | [] => rfl
  | (k, v) :: ms => by
    rw [ofPairs, knownMembers, known_ofJson v, knownMembers_ofPairs ms, Bool.and_self]

end

theorem sortable_ofPairs (ms : List (String × Json)) :
    PyKey.sortable ((ofPairs ms).map Prod.fst) = true := by
  have hstr : ((ofPairs ms).map Prod.fst).all PyKey.isStr = true := by
    induction ms with
    | nil => rfl
    | cons m ms ih => rw [ofPairs, List.map_cons, List.all_cons, ih]; rfl
  rw [PyKey.sortable, hstr, Bool.or_true, Bool.true_or]

mutual

/-- A JSON value is encoded as itself. -/
theorem encode_ofJson (b : Bool) : ∀ j : Json, (ofJson j).encode b = some j
  | .null | .bool _ | .int _ | .float _ | .str _ => rfl
  | .arr l => by rw [ofJson, encode, encodeElems_ofElems b l, Option.map_some]
  | .obj ms => by
    rw [ofJson, encode, sortable_ofPairs, Bool.not_true, Bool.and_false, if_neg Bool.false_ne_true,
      encodeMembers_ofPairs b ms, Option.map_some]

/-- The elements of an array. -/
theorem encodeElems_ofElems (b : Bool) : ∀ l : List Json, encodeElems b (ofElems l) = some l
  | [] => rfl
  | v :: vs => by
    rw [ofElems, encodeElems, encode_ofJson b v, encodeElems_ofElems b vs]
    rfl

/-- The members of an object. -/
theorem encodeMembers_ofPairs (b : Bool) : ∀ ms : List (String × Json),
    encodeMembers b (ofPairs ms) = some ms
  | [] => rfl
  | (k, v) :: ms => by
    rw [ofPairs, encodeMembers, encode_ofJson b v, encodeMembers_ofPairs b ms]
    rfl

end

variable {v : PyVal} {j : Json}

theorem encodeSorted_eq_some : v.encodeSorted = some j ↔
    v.known = true ∧ ∃ i, v.encode true = some i ∧ Json.sortKeys i = j := by
  rw [encodeSorted]
  split_ifs with h
  · simp [h, Option.map_eq_some_iff]
  · simp [h]

/-- **Round trip.**  What was written and decoded is written as the same value again. -/
theorem encodeSorted_ofJson (h : v.encodeSorted = some j) : (ofJson j).encodeSorted = some j := by
  obtain ⟨-, i, -, rfl⟩ := encodeSorted_eq_some.1 h
  exact encodeSorted_eq_some.2 ⟨known_ofJson _, _, encode_ofJson true _, Json.sortKeys_sortKeys i⟩

theorem length_encodeElems {l : List PyVal} {js : List Json} {b : Bool}
    (h : encodeElems b l = some js) : js.length = l.length := by
  induction l generalizing js with
  | nil => rw [← Option.some.inj h]; rfl
  | cons v vs ih =>
    simp only [encodeElems, Option.bind_eq_some_iff, Option.map_eq_some_iff] at h
    obtain ⟨j, -, ks, hks, rfl⟩ := h
    rw [List.length_cons, List.length_cons, ih hks]

theorem length_encodeMembers {ms : List (PyKey × PyVal)} {js : List (String × Json)} {b : Bool}
    (h : encodeMembers b ms = some js) : js.length = ms.length := by
  induction ms generalizing js with
  | nil => rw [← Option.some.inj h]; rfl
  | cons m ms ih =>
    simp only [encodeMembers, Option.bind_eq_some_iff, Option.map_eq_some_iff] at h
    obtain ⟨t, -, j, -, ks, hks, rfl⟩ := h
    rw [List.length_cons, List.length_cons, ih hks]

theorem length_ofElems (l : List Json) : (ofElems l).length = l.length := by
  induction l with
  | nil => rfl
  | cons v vs ih => rw [ofElems, List.length_cons, List.length_cons, ih]

theorem length_ofPairs (ms : List (String × Json)) : (ofPairs ms).length = ms.length := by
  induction ms with
  | nil => rfl
  | cons m ms ih => rw [ofPairs, List.length_cons, List.length_cons, ih]

theorem isEmpty_congr {α β : Type*} {l : List α} {m : List β} (h : l.length = m.length) :
    l.isEmpty = m.isEmpty := by
  rw [Bool.eq_iff_iff, List.isEmpty_iff_length_eq_zero, List.isEmpty_iff_length_eq_zero, h]

/-- The truth value is that of what was written. -/
theorem truthy_of_encodeSorted (h : v.encodeSorted = some j) : (ofJson j).truthy = v.truthy := by
  obtain ⟨hknown, i, hi, rfl⟩ := encodeSorted_eq_some.1 h
  cases v with
  | none | bool _ | int _ | float _ | str _ => obtain rfl := Option.some.inj hi; rfl
  | list l =>
    obtain ⟨js, hjs, rfl⟩ := Option.map_eq_some_iff.1 hi
    have hlen : (ofElems (Json.sortElems js)).length = l.length := by
      rw [length_ofElems, Json.length_sortElems, length_encodeElems hjs]
    rw [Json.sortKeys, ofJson, truthy, truthy, isEmpty_congr hlen]
  | dict ms =>
    rw [encode] at hi
    split_ifs at hi
    obtain ⟨js, hjs, rfl⟩ := Option.map_eq_some_iff.1 hi
    have hlen : (ofPairs ((Json.sortMembers js).insertionSort Json.KeyLE)).length = ms.length := by
      rw [length_ofPairs, List.length_insertionSort, Json.sortMembers_eq_map, List.length_map,
        length_encodeMembers hjs]
    rw [Json.sortKeys, ofJson, truthy, truthy, isEmpty_congr hlen]
  | object o => exact absurd hknown (by simp [known])
  | again => exact absurd hi (by simp [encode])

/-- Only a string is written as a string. -/
theorem ofJson_of_str {s : String} (h : v.encodeSorted = some j) :
    ofJson j = .str s ↔ v = .str s := by
  obtain ⟨hknown, i, hi, rfl⟩ := encodeSorted_eq_some.1 h
  cases v with
  | none | bool _ | int _ | float _ | str _ => obtain rfl := Option.some.inj hi; rfl
  | list l =>
    obtain ⟨js, -, rfl⟩ := Option.map_eq_some_iff.1 hi
    simp [Json.sortKeys, ofJson]
  | dict ms =>
    rw [encode] at hi
    split_ifs at hi
    obtain ⟨js, -, rfl⟩ := Option.map_eq_some_iff.1 hi
    simp [Json.sortKeys, ofJson]
  | object o => exact absurd hknown (by simp [known])
  | again => exact absurd hi (by simp [encode])

/-- Only `None` is written as `null`. -/
theorem ofJson_of_none (h : v.encodeSorted = some j) : ofJson j = .none ↔ v = .none := by
  obtain ⟨hknown, i, hi, rfl⟩ := encodeSorted_eq_some.1 h
  cases v with
  | none | bool _ | int _ | float _ | str _ => obtain rfl := Option.some.inj hi; rfl
  | list l =>
    obtain ⟨js, -, rfl⟩ := Option.map_eq_some_iff.1 hi
    simp [Json.sortKeys, ofJson]
  | dict ms =>
    rw [encode] at hi
    split_ifs at hi
    obtain ⟨js, -, rfl⟩ := Option.map_eq_some_iff.1 hi
    simp [Json.sortKeys, ofJson]
  | object o => exact absurd hknown (by simp [known])
  | again => exact absurd hi (by simp [encode])

/-! ### Dictionaries with string keys -/

/-- What comes back when the value was written and decoded. -/
def reload (v : PyVal) : PyVal := ofJson (v.encodeSorted.getD .null)

theorem encodeSorted_reload (h : v.encodeSorted.isSome = true) :
    v.reload.encodeSorted = v.encodeSorted := by
  obtain ⟨j, hj⟩ := Option.isSome_iff_exists.1 h
  rw [reload, hj, Option.getD_some, encodeSorted_ofJson hj]

theorem reload_eq (h : v.encodeSorted = some j) : v.reload = ofJson j := by
  rw [reload, h, Option.getD_some]

/-- Only a string comes back as a string. -/
theorem reload_eq_str (h : v.encodeSorted.isSome = true) {s : String} :
    v.reload = .str s ↔ v = .str s := by
  obtain ⟨j, hj⟩ := Option.isSome_iff_exists.1 h
  rw [reload_eq hj, ofJson_of_str hj]

/-- Only `None` comes back as `None`. -/
theorem reload_eq_none (h : v.encodeSorted.isSome = true) : v.reload = .none ↔ v = .none := by
  obtain ⟨j, hj⟩ := Option.isSome_iff_exists.1 h
  rw [reload_eq hj, ofJson_of_none hj]

/-- The truth value comes back. -/
theorem truthy_reload (h : v.encodeSorted.isSome = true) : v.reload.truthy = v.truthy := by
  obtain ⟨j, hj⟩ := Option.isSome_iff_exists.1 h
  rw [reload_eq hj, truthy_of_encodeSorted hj]

/-- A member of the written object. -/
def writtenMember (m : String × PyVal) : String × Json := (m.1, m.2.encodeSorted.getD .null)

theorem knownMembers_ofMembers (ms : List (String × PyVal)) :
    knownMembers (ms.map fun m => (.str m.1, m.2)) = true ↔ ∀ m ∈ ms, m.2.known = true := by
  induction ms with
  | nil => simp [knownMembers]
  | cons m ms ih => rw [List.map_cons, knownMembers, Bool.and_eq_true, ih, List.forall_mem_cons]

theorem encodeMembers_ofMembers {ms : List (String × PyVal)} {js : List (String × Json)} :
    encodeMembers true (ms.map fun m => (.str m.1, m.2)) = some js ↔
      (∀ m ∈ ms, (m.2.encode true).isSome = true) ∧
        js = ms.map fun m => (m.1, (m.2.encode true).getD .null) := by
  induction ms generalizing js with
  | nil => exact ⟨fun h => ⟨fun _ hm => absurd hm List.not_mem_nil, (Option.some.inj h).symm⟩,
      fun h => congrArg some h.2.symm⟩
  | cons m ms ih =>
    rw [List.map_cons, encodeMembers, PyKey.text?, Option.bind_some, List.forall_mem_cons,
      List.map_cons]
    cases hm : m.2.encode true with
    | none => simp
    | some j =>
      simp only [Option.bind_some, Option.map_eq_some_iff, ih, Option.isSome_some, true_and,
        Option.getD_some]
      constructor
      · rintro ⟨ks, ⟨hall, rfl⟩, rfl⟩
        exact ⟨hall, rfl⟩
      · rintro ⟨hall, rfl⟩
        exact ⟨_, ⟨hall, rfl⟩, rfl⟩

theorem isSome_encodeSorted : v.encodeSorted.isSome = true ↔
    v.known = true ∧ (v.encode true).isSome = true := by
  rw [encodeSorted]
  split_ifs with h <;> simp [h]

/-- **Writing a dictionary.**  It is written when its values can be, and its members come in the
order of their keys. -/
theorem encodeSorted_ofMembers {ms : List (String × PyVal)} : (ofMembers ms).encodeSorted = some j ↔
    (∀ m ∈ ms, m.2.encodeSorted.isSome = true) ∧
      j = .obj ((ms.map writtenMember).insertionSort Json.KeyLE) := by
  have hsortable : PyKey.sortable ((ms.map fun m => (PyKey.str m.1, m.2)).map Prod.fst) = true := by
    have hstr : ((ms.map fun m => (PyKey.str m.1, m.2)).map Prod.fst).all PyKey.isStr = true := by
      rw [List.map_map, List.all_map, List.all_eq_true]
      exact fun _ _ => rfl
    rw [PyKey.sortable, hstr, Bool.or_true, Bool.true_or]
  rw [encodeSorted_eq_some, ofMembers, known, knownMembers_ofMembers, encode, hsortable,
    Bool.not_true, Bool.and_false, if_neg Bool.false_ne_true]
  -- the members that are written, once the values can be
  have hwritten (hall : ∀ m ∈ ms, m.2.encodeSorted.isSome = true) :
      Json.sortMembers (ms.map fun m => (m.1, (m.2.encode true).getD .null)) =
        ms.map writtenMember := by
    rw [Json.sortMembers_eq_map, List.map_map]
    refine List.map_congr_left fun m hm => ?_
    obtain ⟨hk, he⟩ := isSome_encodeSorted.1 (hall m hm)
    obtain ⟨i, hi⟩ := Option.isSome_iff_exists.1 he
    simp [writtenMember, encodeSorted, hk, hi]
  constructor
  · rintro ⟨hknown, i, hi, rfl⟩
    obtain ⟨js, hjs, rfl⟩ := Option.map_eq_some_iff.1 hi
    obtain ⟨hall, rfl⟩ := encodeMembers_ofMembers.1 hjs
    have hsome : ∀ m ∈ ms, m.2.encodeSorted.isSome = true := fun m hm =>
      isSome_encodeSorted.2 ⟨hknown m hm, hall m hm⟩
    exact ⟨hsome, by rw [Json.sortKeys, hwritten hsome]⟩
  · rintro ⟨hsome, rfl⟩
    refine ⟨fun m hm => (isSome_encodeSorted.1 (hsome m hm)).1, _, Option.map_eq_some_iff.2
      ⟨_, encodeMembers_ofMembers.2 ⟨fun m hm => (isSome_encodeSorted.1 (hsome m hm)).2, rfl⟩,
        rfl⟩, ?_⟩
    rw [Json.sortKeys, hwritten hsome]

end PyVal

end AnnyRuntime
