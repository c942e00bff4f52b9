import AnnyRuntime.Lib.Dict

/-!
# Calls and signatures

A Python call passes positional and keyword arguments to a function with named parameters.  The
positional ones fill the parameters from the left, and the others are filled by keyword or by their
defaults.  A call that leaves a parameter empty, fills one twice, or passes what no parameter takes
is a `TypeError`, and the body does not run.  `bind_isSome_iff` says which calls fit.
-/

namespace AnnyRuntime

namespace Call

variable {ν : Type*}

/-- A parameter, and its default when it has one. -/
structure Param (ν : Type*) where
  name : String
  default : Option ν := none

/-- The values of the parameters, in their order. -/
def fill (keywords : Dict String ν) : List (Param ν) → List ν → Option (List ν)
  | [], [] => some []
  | [], _ :: _ => none
  | p :: ps, v :: vs =>
    if keywords.contains p.name then none else (fill keywords ps vs).map (v :: ·)
  | p :: ps, [] =>
    ((keywords.get? p.name).or p.default).bind fun v => (fill keywords ps []).map (v :: ·)

/-- `f(*positional, **keywords)` for a function with the parameters: what they are bound to, or a
`TypeError`. -/
def bind (params : List (Param ν)) (positional : List ν) (keywords : Dict String ν) :
    Option (List ν) :=
  if ∀ k ∈ keywords.keys, k ∈ params.map Param.name then fill keywords params positional else none

/-- A parameter that has a value without a positional argument. -/
def Filled (keywords : Dict String ν) (p : Param ν) : Prop :=
  p.name ∈ keywords.keys ∨ p.default.isSome

variable {keywords : Dict String ν}

theorem contains_iff {k : String} : keywords.contains k ↔ k ∈ keywords.keys := by
  rw [Dict.contains, Option.isSome_iff_ne_none, ne_eq, Dict.get?_eq_none_iff, not_not]

theorem filled_iff {p : Param ν} :
    Filled keywords p ↔ ((keywords.get? p.name).or p.default).isSome := by
  rw [Filled, ← contains_iff, Dict.contains, Option.isSome_or, Bool.or_eq_true]

/-- **Which calls fill the parameters**: those with no more positional arguments than parameters, no
keyword for a parameter that is filled already, and a value for every other one. -/
theorem fill_isSome_iff {params : List (Param ν)} {positional : List ν} :
    (fill keywords params positional).isSome ↔
      positional.length ≤ params.length ∧
        (∀ p ∈ params.take positional.length, p.name ∉ keywords.keys) ∧
        ∀ p ∈ params.drop positional.length, Filled keywords p := by
  induction params generalizing positional with
  | nil =>
    cases positional with
    | nil => simp [fill]
    | cons v vs => simp [fill]
  | cons p ps ih =>
    cases positional with
    | nil =>
      have hrest := @ih []
      simp only [List.length_nil, Nat.zero_le, List.take_zero, List.drop_zero, true_and,
        List.not_mem_nil, false_imp_iff, implies_true] at hrest
      simp only [fill, List.length_nil, Nat.zero_le, List.take_zero, List.drop_zero, true_and,
        List.not_mem_nil, false_imp_iff, implies_true, List.forall_mem_cons]
      rw [← hrest, filled_iff]
      cases (keywords.get? p.name).or p.default with
      | none => simp
      | some v => simp
    | cons v vs =>
      simp only [fill, List.length_cons, List.take_succ_cons, List.drop_succ_cons,
        List.forall_mem_cons, Nat.add_le_add_iff_right]
      by_cases hp : p.name ∈ keywords.keys
      · simp [contains_iff.2 hp, hp]
      · rw [if_neg (fun h => hp (contains_iff.1 h)), Option.isSome_map, ih]
        simp [hp]

/-- **Which calls fit the signature.** -/
theorem bind_isSome_iff {params : List (Param ν)} {positional : List ν} :
    (bind params positional keywords).isSome ↔
      (∀ k ∈ keywords.keys, k ∈ params.map Param.name) ∧
        positional.length ≤ params.length ∧
        (∀ p ∈ params.take positional.length, p.name ∉ keywords.keys) ∧
        ∀ p ∈ params.drop positional.length, Filled keywords p := by
  rw [bind]
  split_ifs with h
  · rw [fill_isSome_iff]
    exact ⟨fun hf => ⟨h, hf⟩, And.right⟩
  · exact ⟨fun hf => absurd hf Bool.false_ne_true, fun hf => absurd hf.1 h⟩

/-- A call with positional arguments only binds them, followed by defaults. -/
theorem bind_positional {params : List (Param ν)} {positional values : List ν}
    (h : bind params positional .empty = some values) : positional <+: values := by
  replace h : fill .empty params positional = some values := by
    rw [bind, if_pos (by simp)] at h
    exact h
  induction params generalizing positional values with
  | nil =>
    cases positional with
    | nil => exact List.nil_prefix
    | cons v vs => exact nomatch h
  | cons p ps ih =>
    cases positional with
    | nil => exact List.nil_prefix
    | cons v vs =>
      rw [fill, if_neg (by simp [Dict.contains])] at h
      obtain ⟨ws, hws, rfl⟩ := Option.map_eq_some_iff.1 h
      exact (List.prefix_cons_inj v).2 (ih hws)

/-- Without keywords every value is a positional argument or a default. -/
theorem mem_of_bind {params : List (Param ν)} {positional values : List ν} {v : ν}
    (h : bind params positional .empty = some values) (hv : v ∈ values) :
    v ∈ positional ∨ ∃ p ∈ params, p.default = some v := by
  replace h : fill .empty params positional = some values := by
    rw [bind, if_pos (by simp)] at h
    exact h
  induction params generalizing positional values with
  | nil =>
    cases positional with
    | nil => exact .inl (Option.some.inj h ▸ hv)
    | cons u us => exact nomatch h
  | cons p ps ih =>
    have hlater : (∃ q ∈ ps, q.default = some v) → ∃ q ∈ p :: ps, q.default = some v :=
      fun ⟨q, hq, hd⟩ => ⟨q, List.mem_cons_of_mem p hq, hd⟩
    cases positional with
    | nil =>
      obtain ⟨u, hu, hrest⟩ := Option.bind_eq_some_iff.1 h
      obtain ⟨ws, hws, rfl⟩ := Option.map_eq_some_iff.1 hrest
      obtain rfl | hv := List.mem_cons.1 hv
      · exact .inr ⟨p, List.mem_cons_self, by simpa using hu⟩
      · exact (ih hv hws).elim (fun h => absurd h List.not_mem_nil) fun h => .inr (hlater h)
    | cons u us =>
      rw [fill, if_neg (by simp [Dict.contains])] at h
      obtain ⟨ws, hws, rfl⟩ := Option.map_eq_some_iff.1 h
      obtain rfl | hv := List.mem_cons.1 hv
      · exact .inl List.mem_cons_self
      · exact (ih hv hws).imp (List.mem_cons_of_mem u) hlater

end Call

end AnnyRuntime
