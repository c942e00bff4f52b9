import AnnyRuntime.Json.Basic
import Mathlib.Data.List.Nodup

/-!
# Dataclasses from JSON objects

`Cls(**data)` for a Python dataclass: every key of the dictionary has to be a field, every field
without a default has to be a key, and nothing checks the types of the values.

A dataclass is its list of fields.  `bindKwargs_zip` : binding the dictionary of an instance's
fields (`dataclasses.asdict`) gives the instance's values back.
-/

namespace AnnyRuntime

namespace Json

/-- A field of a dataclass. -/
structure Field where
  /-- Its name. -/
  name : String
  /-- Its default, when it has one. -/
  default : Option Json := none
  deriving DecidableEq

/-- The values of the fields: from the keyword arguments, or else from the defaults. -/
def bindFields (kw : List (String × Json)) : List Field → Option (List Json)
  | [] => some []
  | f :: fs =>
    match (lookup f.name kw).or f.default with
    | none => none
    | some v => (bindFields kw fs).map (v :: ·)

/-- `Cls(**kw)`: the values of the fields, or a `TypeError`. -/
def bindKwargs (fields : List Field) (kw : List (String × Json)) : Option (List Json) :=
  if kw.all fun m => fields.any fun f => f.name = m.1 then bindFields kw fields else none

/-- The dictionary of the fields of an instance. -/
def zipFields (fields : List Field) (vs : List Json) : List (String × Json) :=
  (fields.map Field.name).zip vs

theorem lookup_of_mem {ms : List (String × Json)} (hnd : (ms.map Prod.fst).Nodup) {k : String}
    {v : Json} (h : (k, v) ∈ ms) : lookup k ms = some v := by
  have hnd' : (ms.reverse.map Prod.fst).Nodup := by
    rw [List.map_reverse]; exact List.nodup_reverse.2 hnd
  have h' : (k, v) ∈ ms.reverse := List.mem_reverse.2 h
  rw [lookup]
  generalize ms.reverse = l at hnd' h'
  induction l with
  | nil => exact absurd h' (by simp)
  | cons m l ih =>
    rw [List.map_cons, List.nodup_cons] at hnd'
    rcases List.mem_cons.1 h' with rfl | hl
    · rw [List.lookup_cons_self]
    · have hne : (k == m.1) = false := beq_eq_false_iff_ne.2 fun he =>
        hnd'.1 (he ▸ List.mem_map_of_mem hl)
      rw [List.lookup_cons, hne]
      exact ih hnd'.2 hl

theorem bindFields_eq {kw : List (String × Json)} {fs : List Field} {vs : List Json}
    (hlen : fs.length = vs.length)
    (h : ∀ m ∈ zipFields fs vs, lookup m.1 kw = some m.2) : bindFields kw fs = some vs := by
  induction fs generalizing vs with
  | nil =>
    rw [List.length_nil] at hlen
    rw [List.eq_nil_of_length_eq_zero hlen.symm]
    rfl
  | cons f fs ih =>
    cases vs with
    | nil => exact absurd hlen (by simp)
    | cons v vs =>
      have hf : lookup f.name kw = some v := h (f.name, v) (by simp [zipFields])
      have hrest : bindFields kw fs = some vs := ih (by simpa using hlen) fun m hm => h m (by
        simp only [zipFields, List.map_cons, List.zip_cons_cons, List.mem_cons]
        exact Or.inr hm)
      rw [bindFields, hf]
      simp [hrest]

/-- **Round trip.** Binding the members of an instance, in any order, gives its values. -/
theorem bindKwargs_perm {fs : List Field} (hnd : (fs.map Field.name).Nodup) {vs : List Json}
    (hlen : fs.length = vs.length) {kw : List (String × Json)} (hkw : kw.Perm (zipFields fs vs)) :
    bindKwargs fs kw = some vs := by
  have hfst : (zipFields fs vs).map Prod.fst = fs.map Field.name :=
    List.map_fst_zip (by simp [hlen])
  have hall : kw.all (fun m => fs.any fun f => f.name = m.1) = true := by
    rw [List.all_eq_true]
    intro m hm
    have hm' : m.1 ∈ fs.map Field.name := hfst ▸ List.mem_map_of_mem (hkw.mem_iff.1 hm)
    obtain ⟨f, hf, hfm⟩ := List.mem_map.1 hm'
    exact List.any_eq_true.2 ⟨f, hf, by simpa using hfm⟩
  have hkeys : (kw.map Prod.fst).Nodup := ((hkw.map Prod.fst).nodup_iff).2 (hfst ▸ hnd)
  rw [bindKwargs, if_pos hall]
  exact bindFields_eq hlen fun m hm => lookup_of_mem hkeys (hkw.mem_iff.2 hm)

/-- Binding the dictionary of an instance gives its values. -/
theorem bindKwargs_zip {fs : List Field} (hnd : (fs.map Field.name).Nodup) {vs : List Json}
    (hlen : fs.length = vs.length) : bindKwargs fs (zipFields fs vs) = some vs :=
  bindKwargs_perm hnd hlen (List.Perm.refl _)

/-- A member of an instance is found under the name of its field. -/
theorem lookup_zipFields {fs : List Field} (hnd : (fs.map Field.name).Nodup) {vs : List Json}
    (hlen : fs.length = vs.length) {i : ℕ} {f : Field} {v : Json} (hf : fs[i]? = some f)
    (hv : vs[i]? = some v) : lookup f.name (zipFields fs vs) = some v := by
  have hfst : (zipFields fs vs).map Prod.fst = fs.map Field.name :=
    List.map_fst_zip (by simp [hlen])
  refine lookup_of_mem (hfst ▸ hnd) (List.mem_of_getElem? (i := i) ?_)
  simp [zipFields, List.getElem?_zip_eq_some, hf, hv]

/-- The values that fields are bound to. -/
theorem bindFields_eq_some {kw : List (String × Json)} {fs : List Field} {vs : List Json} :
    bindFields kw fs = some vs ↔
      fs.map (fun f => (lookup f.name kw).or f.default) = vs.map some := by
  induction fs generalizing vs with
  | nil => cases vs <;> simp [bindFields]
  | cons f fs ih =>
    rw [bindFields, List.map_cons]
    cases hf : (lookup f.name kw).or f.default with
    | none => cases vs <;> simp
    | some v =>
      cases vs with
      | nil => simp
      | cons w vs =>
        simp only [Option.map_eq_some_iff, List.map_cons, List.cons.injEq, Option.some.injEq, ← ih]
        constructor
        · rintro ⟨us, hus, rfl, rfl⟩
          exact ⟨rfl, hus⟩
        · rintro ⟨rfl, hvs⟩
          exact ⟨vs, hvs, rfl, rfl⟩

theorem length_of_bindKwargs {kw : List (String × Json)} {fs : List Field} {vs : List Json}
    (h : bindKwargs fs kw = some vs) : vs.length = fs.length := by
  unfold bindKwargs at h
  split_ifs at h
  simpa using (congrArg List.length (bindFields_eq_some.1 h)).symm

/-- The value of a field without a default. -/
theorem getElem?_of_bindKwargs {kw : List (String × Json)} {fs : List Field} {vs : List Json}
    (h : bindKwargs fs kw = some vs) {i : ℕ} {f : Field} (hf : fs[i]? = some f)
    (hdefault : f.default = none) : vs[i]? = lookup f.name kw := by
  unfold bindKwargs at h
  split_ifs at h
  have hi := congrArg (fun l => l[i]?) (bindFields_eq_some.1 h)
  simp only [List.getElem?_map, hf, Option.map_some, hdefault, Option.or_none] at hi
  cases hv : vs[i]? with
  | none => simp [hv] at hi
  | some v => simpa [hv] using hi.symm

/-- Decoding a list element by element, as an equation between lists. -/
theorem mapM_eq_some_iff {α β : Type*} {f : α → Option β} {l : List α} {r : List β} :
    l.mapM f = some r ↔ l.map f = r.map some := by
  induction l generalizing r with
  | nil => cases r <;> simp
  | cons a l ih =>
    rw [List.mapM_cons, List.map_cons]
    cases hf : f a with
    | none => cases r <;> simp
    | some b =>
      cases hl : l.mapM f with
      | none =>
        cases r with
        | nil => simp
        | cons c r =>
          have hne : l.map f ≠ r.map some := fun h => by simp [ih.2 h] at hl
          simp [hne]
      | some bs =>
        cases r with
        | nil => simp
        | cons c r => simp [ih.1 hl, List.map_inj_right]

/-- A mapping succeeds when it does on every element. -/
theorem exists_mapM_eq_some {α β : Type*} {f : α → Option β} {l : List α} :
    (∃ r, l.mapM f = some r) ↔ ∀ a ∈ l, (f a).isSome = true := by
  simp only [mapM_eq_some_iff]
  constructor
  · rintro ⟨r, hr⟩ a ha
    have hmem : f a ∈ r.map some := hr ▸ List.mem_map_of_mem ha
    obtain ⟨b, -, hb⟩ := List.mem_map.1 hmem
    exact hb ▸ rfl
  · intro h
    induction l with
    | nil => exact ⟨[], rfl⟩
    | cons a l ih =>
      obtain ⟨b, hb⟩ := Option.isSome_iff_exists.1 (h a List.mem_cons_self)
      obtain ⟨r, hr⟩ := ih fun c hc => h c (List.mem_cons_of_mem _ hc)
      exact ⟨b :: r, by rw [List.map_cons, List.map_cons, hb, hr]⟩

/-- Decoding a list element by element gives back what was encoded. -/
theorem mapM_map_eq_some {α β : Type*} {f : α → β} {g : β → Option α} {l : List α}
    (h : ∀ a ∈ l, g (f a) = some a) : (l.map f).mapM g = some l := by
  rw [mapM_eq_some_iff, List.map_map]
  exact List.map_congr_left h

end Json

end AnnyRuntime
