import AnnyRuntime.Telemetry.Scrubber

/-!
# What the scrubber hides

`complete_iff`: scrubbing does what it is for exactly on the values that are `covered`.

* A covered value is scrubbed as the value without its secrets is (`scrub_erase`), so two of them
  that only differ there have one scrubbed value.
* A secret below a container that is written as text shows: another secret makes the text longer
  (`exists_long_repr`).
* A secret key that the pattern misses shows: the value below it is copied.
-/

namespace AnnyRuntime

namespace Telemetry

variable {printable : Char → Bool}

theorem Key.secret_of_text {k : Key} {t : List Char} (h : k.text? = some t) :
    k.secret = hasSensitiveWord t := by
  simp [Key.secret, h]

theorem not_isSensitiveKey {t : List Char} (h : hasSensitiveWord t = false) :
    isSensitiveKey t = false := by
  rw [← Bool.not_eq_true, isSensitiveKey_iff, h]
  simp

namespace Value

theorem coveredMembers_cons {k : Key} {v : Value} {ms : List (Key × Value)} :
    coveredMembers printable ((k, v) :: ms) = true ↔ ∃ t, k.text? = some t ∧
      (if hasSensitiveWord t then isSensitiveKey t else v.covered printable) = true ∧
        coveredMembers printable ms = true := by
  rw [coveredMembers, Bool.and_eq_true]
  cases ht : k.text? <;> simp

/-! ### Erasing -/

theorem keyTexts_eraseMembers (ms : List (Key × Value)) :
    keyTexts (eraseMembers ms) = keyTexts ms := by
  induction ms with
  | nil => rfl
  | cons m ms ih => simp only [keyTexts, eraseMembers, List.filterMap_cons] at ih ⊢; rw [ih]

mutual

theorem mentions_erase : ∀ v : Value, v.erase.mentions = v.mentions
  | none | bool _ | int _ | float _ | str _ | object _ => rfl
  | list l => mentionsElems_erase l
  | dict ms => mentionsMembers_erase ms
  | container _ items _ => mentionsItems_erase items

theorem mentionsElems_erase : ∀ l : List Value, mentionsElems (eraseElems l) = mentionsElems l
  | [] => rfl
  | v :: vs => by simp only [eraseElems, mentionsElems, mentions_erase v, mentionsElems_erase vs]

theorem mentionsMembers_erase : ∀ ms : List (Key × Value),
    mentionsMembers (eraseMembers ms) = mentionsMembers ms
  | [] => rfl
  | (k, v) :: ms => by
    simp only [eraseMembers, mentionsMembers, mentionsMembers_erase ms]
    cases hk : k.secret <;> simp [mentions_erase v]

theorem mentionsItems_erase : ∀ items : List (List Char × Value),
    mentionsItems (eraseItems items) = mentionsItems items
  | [] => rfl
  | (_, v) :: items => by
    simp only [eraseItems, mentionsItems, mentions_erase v, mentionsItems_erase items]

end

mutual

/-- Where no secret key stands there is nothing to erase. -/
theorem erase_of_not_mentions : ∀ v : Value, v.mentions = false → v.erase = v
  | none, _ | bool _, _ | int _, _ | float _, _ | str _, _ | object _, _ => rfl
  | list l, h => by rw [erase, eraseElems_of_not_mentions l h]
  | dict ms, h => by rw [erase, eraseMembers_of_not_mentions ms h]
  | container _ items _, h => by rw [erase, eraseItems_of_not_mentions items h]

theorem eraseElems_of_not_mentions : ∀ l : List Value, mentionsElems l = false → eraseElems l = l
  | [], _ => rfl
  | v :: vs, h => by
    simp only [mentionsElems, Bool.or_eq_false_iff] at h
    rw [eraseElems, erase_of_not_mentions v h.1, eraseElems_of_not_mentions vs h.2]

theorem eraseMembers_of_not_mentions : ∀ ms : List (Key × Value),
    mentionsMembers ms = false → eraseMembers ms = ms
  | [], _ => rfl
  | (k, v) :: ms, h => by
    simp only [mentionsMembers, Bool.or_eq_false_iff] at h
    rw [eraseMembers, h.1.1, if_neg (by simp), erase_of_not_mentions v h.1.2,
      eraseMembers_of_not_mentions ms h.2]

theorem eraseItems_of_not_mentions : ∀ items : List (List Char × Value),
    mentionsItems items = false → eraseItems items = items
  | [], _ => rfl
  | (_, v) :: items, h => by
    simp only [mentionsItems, Bool.or_eq_false_iff] at h
    rw [eraseItems, erase_of_not_mentions v h.1, eraseItems_of_not_mentions items h.2]

end

mutual

/-- Being covered does not depend on the secrets. -/
theorem covered_erase : ∀ v : Value, v.erase.covered printable = v.covered printable
  | none | bool _ | int _ | float _ | str _ | object _ => rfl
  | list l => coveredElems_erase l
  | dict ms => by
    rw [erase, covered, covered, keyTexts_eraseMembers, coveredMembers_erase ms]
  | container opening items closing => by
    rw [erase, covered, covered, mentionsItems_erase]
    cases hm : mentionsItems items with
    | true => simp
    | false => rw [eraseItems_of_not_mentions items hm]

theorem coveredElems_erase : ∀ l : List Value,
    coveredElems printable (eraseElems l) = coveredElems printable l
  | [] => rfl
  | v :: vs => by simp only [eraseElems, coveredElems, covered_erase v, coveredElems_erase vs]

theorem coveredMembers_erase : ∀ ms : List (Key × Value),
    coveredMembers printable (eraseMembers ms) = coveredMembers printable ms
  | [] => rfl
  | (k, v) :: ms => by
    simp only [eraseMembers, coveredMembers, coveredMembers_erase ms]
    cases ht : k.text? with
    | none => simp
    | some t => cases hw : hasSensitiveWord t <;> simp [Key.secret, ht, hw, covered_erase v]

end

/-! ### Tuples, sets and dataclasses -/

theorem mentionsItems_map {α : Type} (label : α → List Char) (value : α → Value) (l : List α) :
    mentionsItems (l.map fun a => (label a, value a)) = mentionsElems (l.map value) := by
  induction l with
  | nil => rfl
  | cons a l ih => simp only [List.map_cons, mentionsItems, mentionsElems, ih]

theorem mentions_tuple (l : List Value) : (tuple l).mentions = mentionsElems l := by
  rw [tuple, mentions, mentionsItems_map, List.map_id']

theorem mentions_set (l : List Value) : (set l).mentions = mentionsElems l := by
  unfold set
  split_ifs with h
  · rw [h]
    rfl
  · rw [mentions, mentionsItems_map, List.map_id']

theorem mentions_record (name : String) (fields : List (String × Value)) :
    (record name fields).mentions = mentionsElems (fields.map Prod.snd) := by
  rw [record, mentions, mentionsItems_map]

/-! ### A covered value is scrubbed as if its secrets were not there -/

mutual

theorem scrub_erase : ∀ v : Value, v.covered printable = true →
    scrubMetadata printable v.erase = scrubMetadata printable v
  | none, _ | bool _, _ | int _, _ | float _, _ | str _, _ | object _, _ => rfl
  | list l, h => by rw [erase, scrubMetadata, scrubMetadata, scrubElems_erase l h]
  | dict ms, h => by
    simp only [covered, Bool.and_eq_true] at h
    rw [erase, scrubMetadata, scrubMetadata, scrubMembers_erase ms h.2]
  | container opening items closing, h => by
    simp only [covered, Bool.and_eq_true, Bool.not_eq_true'] at h
    rw [erase, eraseItems_of_not_mentions items h.2]

theorem scrubElems_erase : ∀ l : List Value, coveredElems printable l = true →
    scrubElems printable (eraseElems l) = scrubElems printable l
  | [], _ => rfl
  | v :: vs, h => by
    simp only [coveredElems, Bool.and_eq_true] at h
    rw [eraseElems, scrubElems, scrubElems, scrub_erase v h.1, scrubElems_erase vs h.2]

theorem scrubMembers_erase : ∀ ms : List (Key × Value), coveredMembers printable ms = true →
    scrubMembers printable (eraseMembers ms) = scrubMembers printable ms
  | [], _ => rfl
  | (k, v) :: ms, h => by
    simp only [coveredMembers, Bool.and_eq_true] at h
    rw [eraseMembers, scrubMembers, scrubMembers, scrubMembers_erase ms h.2]
    cases ht : k.text? with
    | none => rfl
    | some t =>
      have hc := h.1
      rw [ht, Option.any_some] at hc
      rw [Key.secret_of_text ht]
      cases hw : hasSensitiveWord t with
      | true =>
        rw [if_pos hw] at hc
        simp [hc]
      | false =>
        rw [if_neg (by simp [hw])] at hc
        simp [scrub_erase v hc]

end

/-- **Nothing below a secret key shows**: covered values that only differ there have one scrubbed
value. -/
theorem scrub_congr {v w : Value} (hv : v.covered printable = true) (h : w.erase = v.erase) :
    scrubMetadata printable w = scrubMetadata printable v := by
  have hw : w.covered printable = true := by rw [← covered_erase, h, covered_erase, hv]
  rw [← scrub_erase w hw, h, scrub_erase v hv]

/-! ### A covered value keeps its other keys -/

/-- The keys that are assigned are the texts of the keys. -/
theorem map_fst_scrubMembers : ∀ {ms : List (Key × Value)} {es : List (String × Json)},
    scrubMembers printable ms = some es → es.map Prod.fst = keyTexts ms
  | [], es, h => by
    obtain rfl : es = [] := (Option.some.inj h).symm
    rfl
  | (k, v) :: ms, es, h => by
    rw [scrubMembers] at h
    obtain ⟨t, ht, h⟩ := Option.bind_eq_some_iff.1 h
    obtain ⟨j, -, h⟩ := Option.bind_eq_some_iff.1 h
    obtain ⟨es', hes', rfl⟩ := Option.map_eq_some_iff.1 h
    simp [keyTexts, ht, map_fst_scrubMembers hes']

mutual

/-- A covered value is scrubbed, and what is scrubbed of it keeps the other keys. -/
theorem kept_of_covered : ∀ v : Value, v.covered printable = true →
    ∃ j, scrubMetadata printable v = some j ∧ v.Kept j
  | none, _ | bool _, _ | int _, _ | float _, _ | str _, _ => ⟨_, rfl, rfl⟩
  | list l, h => by
    obtain ⟨js, hjs, hkept⟩ := keptElems_of_covered l h
    exact ⟨.arr js, by rw [scrubMetadata, hjs]; rfl, js, rfl, hkept⟩
  | dict ms, h => by
    simp only [covered, Bool.and_eq_true, decide_eq_true_eq] at h
    obtain ⟨es, hes, hkept⟩ := keptMembers_of_covered ms h.2
    have hnodup : ((es.map Prod.fst).filter isOther).Nodup := by
      rw [map_fst_scrubMembers hes]
      exact h.1
    refine ⟨_, by rw [scrubMetadata, hes]; rfl, _, rfl, ?_, ?_⟩
    · rw [← map_fst_scrubMembers hes]
      exact Dict.filter_keys_ofList hnodup
    · exact hkept _ fun t j hj ht => Dict.mem_entries_ofList hnodup hj ht
  | container opening items closing, h => by
    simp only [covered, Bool.and_eq_true] at h
    obtain ⟨t, ht⟩ := Option.isSome_iff_exists.1 h.1
    exact ⟨_, by rw [scrubMetadata, ht]; rfl, _, rfl⟩
  | object o, h => by
    obtain ⟨t, ht⟩ := Option.isSome_iff_exists.1 h
    exact ⟨_, by rw [scrubMetadata, ht]; rfl, _, rfl⟩

theorem keptElems_of_covered : ∀ l : List Value, coveredElems printable l = true →
    ∃ js, scrubElems printable l = some js ∧ KeptElems l js
  | [], _ => ⟨[], rfl, rfl⟩
  | v :: vs, h => by
    simp only [coveredElems, Bool.and_eq_true] at h
    obtain ⟨j, hj, hkept⟩ := kept_of_covered v h.1
    obtain ⟨js, hjs, hkepts⟩ := keptElems_of_covered vs h.2
    exact ⟨j :: js, by rw [scrubElems, hj, hjs]; rfl, j, js, rfl, hkept, hkepts⟩

/-- The members are kept by every dictionary that has the assigned items whose keys are not
secret. -/
theorem keptMembers_of_covered : ∀ ms : List (Key × Value), coveredMembers printable ms = true →
    ∃ es, scrubMembers printable ms = some es ∧ ∀ js : List (String × Json),
      (∀ t j, (t, j) ∈ es → isOther t = true → (t, j) ∈ js) → KeptMembers ms js
  | [], _ => ⟨[], rfl, fun _ _ => trivial⟩
  | (k, v) :: ms, h => by
    obtain ⟨t, ht, hcov, hms⟩ := coveredMembers_cons.1 h
    obtain ⟨es, hes, hkept⟩ := keptMembers_of_covered ms hms
    cases hw : hasSensitiveWord t with
    | true =>
      rw [if_pos hw] at hcov
      refine ⟨(String.ofList t, redacted) :: es, by rw [scrubMembers, ht, hes]; simp [hcov], ?_⟩
      intro js hjs
      refine ⟨fun t' ht' hw' => ?_, hkept js fun t j hj => hjs t j (List.mem_cons_of_mem _ hj)⟩
      obtain rfl : t = t' := Option.some.inj (ht.symm.trans ht')
      rw [hw] at hw'
      cases hw'
    | false =>
      rw [if_neg (by simp [hw])] at hcov
      obtain ⟨j, hj, hkeptv⟩ := kept_of_covered v hcov
      refine ⟨(String.ofList t, j) :: es, by
        rw [scrubMembers, ht, hes]; simp [not_isSensitiveKey hw, hj], ?_⟩
      intro js hjs
      refine ⟨fun t' ht' _ => ?_, hkept js fun t j hj => hjs t j (List.mem_cons_of_mem _ hj)⟩
      obtain rfl : t = t' := Option.some.inj (ht.symm.trans ht')
      exact ⟨j, hjs _ j List.mem_cons_self (by simp [isOther, hw]), hkeptv⟩

end

/-! ### Scrubbing twice -/

/-- Items whose values are scrubbed already are assigned as they are. -/
theorem scrubMembers_ofMembers {es : List (String × Json)}
    (h : ∀ t j, (t, j) ∈ es → (if isSensitiveKey t.toList then some redacted
      else scrubMetadata printable (ofJson j)) = some j) :
    scrubMembers printable (ofMembers es) = some es := by
  induction es with
  | nil => rfl
  | cons e es ih =>
    obtain ⟨t, j⟩ := e
    rw [ofMembers, scrubMembers, ih fun t j hj => h t j (List.mem_cons_of_mem _ hj)]
    have htext : (Key.str t).text? = some t.toList := rfl
    rw [htext, Option.bind_some, h t j List.mem_cons_self]
    simp

mutual

/-- **Stability.**  What was scrubbed is not changed by scrubbing it again. -/
theorem scrub_ofJson : ∀ (v : Value) (j : Json), scrubMetadata printable v = some j →
    scrubMetadata printable (ofJson j) = some j
  | none, _, h | bool _, _, h | int _, _, h | float _, _, h | str _, _, h => by
    obtain rfl := Option.some.inj h
    rfl
  | list l, j, h => by
    rw [scrubMetadata] at h
    obtain ⟨js, hjs, rfl⟩ := Option.map_eq_some_iff.1 h
    rw [ofJson, scrubMetadata, scrubElems_ofElems l js hjs]
    rfl
  | dict ms, j, h => by
    rw [scrubMetadata] at h
    obtain ⟨es, hes, rfl⟩ := Option.map_eq_some_iff.1 h
    have hmem := mem_scrubMembers ms es hes
    rw [ofJson, scrubMetadata, scrubMembers_ofMembers, Option.map_some, Dict.ofList_entries]
    exact fun t j hj => hmem t j (Dict.mem_of_get?_ofList (Dict.get?_of_mem_entries hj))
  | container _ _ _, j, h | object _, j, h => by
    rw [scrubMetadata] at h
    obtain ⟨t, -, rfl⟩ := Option.map_eq_some_iff.1 h
    rfl

theorem scrubElems_ofElems : ∀ (l : List Value) (js : List Json),
    scrubElems printable l = some js → scrubElems printable (ofElems js) = some js
  | [], _, h => by
    obtain rfl := Option.some.inj h
    rfl
  | v :: vs, js, h => by
    rw [scrubElems] at h
    obtain ⟨j, hj, h⟩ := Option.bind_eq_some_iff.1 h
    obtain ⟨js', hjs', rfl⟩ := Option.map_eq_some_iff.1 h
    rw [ofElems, scrubElems, scrub_ofJson v j hj, scrubElems_ofElems vs js' hjs']
    rfl

/-- Every item that is assigned would be assigned again. -/
theorem mem_scrubMembers : ∀ (ms : List (Key × Value)) (es : List (String × Json)),
    scrubMembers printable ms = some es → ∀ t j, (t, j) ∈ es →
      (if isSensitiveKey t.toList then some redacted
        else scrubMetadata printable (ofJson j)) = some j
  | [], _, h => by
    obtain rfl := Option.some.inj h
    intro _ _ hmem
    cases hmem
  | (k, v) :: ms, es, h => by
    rw [scrubMembers] at h
    obtain ⟨t, ht, h⟩ := Option.bind_eq_some_iff.1 h
    obtain ⟨j, hj, h⟩ := Option.bind_eq_some_iff.1 h
    obtain ⟨es', hes', rfl⟩ := Option.map_eq_some_iff.1 h
    intro t' j' hmem
    rcases List.mem_cons.1 hmem with heq | hmem
    · obtain ⟨rfl, rfl⟩ := Prod.mk.inj heq
      rw [String.toList_ofList]
      split_ifs at hj ⊢ with hs
      · exact hj
      · exact scrub_ofJson v _ hj
    · exact mem_scrubMembers ms es' hes' t' j' hmem

end

theorem complete_of_covered {v : Value} (h : v.covered printable = true) :
    Complete printable v := by
  obtain ⟨j, hj, hkept⟩ := kept_of_covered v h
  refine ⟨⟨j, hj⟩, fun w hw => scrub_congr h hw, fun j' hj' => ?_, fun j' => scrub_ofJson v j'⟩
  rwa [← Option.some.inj (hj.symm.trans hj')]

/-! ### A secret that is written as text shows -/

mutual

/-- A value that mentions a secret key has texts of any length, as the secret varies. -/
theorem exists_long_repr : ∀ (v : Value) (t : List Char), v.mentions = true →
    v.repr printable = some t → ∀ n, ∃ w : Value, w.erase = v.erase ∧
      ∃ u, w.repr printable = some u ∧ n ≤ u.length
  | none, _, hm, _ | bool _, _, hm, _ | int _, _, hm, _ | float _, _, hm, _ | str _, _, hm, _
  | object _, _, hm, _ => by simp [mentions] at hm
  | list l, t, hm, h => by
    intro n
    rw [repr] at h
    obtain ⟨ts, hts, rfl⟩ := Option.map_eq_some_iff.1 h
    obtain ⟨l', hl', us, hus, u, hu, hn⟩ := exists_long_reprElems l ts hm hts n
    refine ⟨list l', by rw [erase, erase, hl'], _, by rw [repr, hus]; rfl, ?_⟩
    have := length_le_joined hu
    simp only [List.length_cons, List.length_append]
    omega
  | dict ms, t, hm, h => by
    intro n
    rw [repr] at h
    obtain ⟨ts, hts, rfl⟩ := Option.map_eq_some_iff.1 h
    obtain ⟨l', hl', us, hus, u, hu, hn⟩ := exists_long_reprMembers ms ts hm hts n
    refine ⟨dict l', by rw [erase, erase, hl'], _, by rw [repr, hus]; rfl, ?_⟩
    have := length_le_joined hu
    simp only [List.length_cons, List.length_append]
    omega
  | container opening items closing, t, hm, h => by
    intro n
    rw [repr] at h
    obtain ⟨ts, hts, rfl⟩ := Option.map_eq_some_iff.1 h
    obtain ⟨l', hl', us, hus, u, hu, hn⟩ := exists_long_reprItems items ts hm hts n
    refine ⟨container opening l' closing, by rw [erase, erase, hl'], _, by rw [repr, hus]; rfl, ?_⟩
    have := length_le_joined hu
    simp only [List.length_append]
    omega

theorem exists_long_reprElems : ∀ (l : List Value) (ts : List (List Char)),
    mentionsElems l = true → reprElems printable l = some ts →
      ∀ n, ∃ l', eraseElems l' = eraseElems l ∧
        ∃ us, reprElems printable l' = some us ∧ ∃ u ∈ us, n ≤ u.length
  | [], _, hm, _ => by simp [mentionsElems] at hm
  | v :: vs, ts, hm, h => by
    intro n
    rw [reprElems] at h
    obtain ⟨t, ht, h⟩ := Option.bind_eq_some_iff.1 h
    obtain ⟨ts', hts', rfl⟩ := Option.map_eq_some_iff.1 h
    rw [mentionsElems, Bool.or_eq_true] at hm
    rcases hm with hm | hm
    · obtain ⟨w, hw, u, hu, hn⟩ := exists_long_repr v t hm ht n
      exact ⟨w :: vs, by rw [eraseElems, eraseElems, hw], u :: ts',
        by rw [reprElems, hu, hts']; rfl, u, List.mem_cons_self, hn⟩
    · obtain ⟨l', hl', us, hus, u, hu, hn⟩ := exists_long_reprElems vs ts' hm hts' n
      exact ⟨v :: l', by rw [eraseElems, eraseElems, hl'], t :: us,
        by rw [reprElems, ht, hus]; rfl, u, List.mem_cons_of_mem _ hu, hn⟩

theorem exists_long_reprMembers : ∀ (ms : List (Key × Value)) (ts : List (List Char)),
    mentionsMembers ms = true → reprMembers printable ms = some ts →
      ∀ n, ∃ ms', eraseMembers ms' = eraseMembers ms ∧
        ∃ us, reprMembers printable ms' = some us ∧ ∃ u ∈ us, n ≤ u.length
  | [], _, hm, _ => by simp [mentionsMembers] at hm
  | (k, v) :: ms, ts, hm, h => by
    intro n
    rw [reprMembers] at h
    obtain ⟨s, hs, h⟩ := Option.bind_eq_some_iff.1 h
    obtain ⟨t, ht, h⟩ := Option.bind_eq_some_iff.1 h
    obtain ⟨ts', hts', rfl⟩ := Option.map_eq_some_iff.1 h
    rw [mentionsMembers, Bool.or_eq_true, Bool.or_eq_true] at hm
    rcases hm with (hk | hm) | hm
    · -- the secret itself: a string of the wanted length takes its place
      have hlong := length_le_strRepr printable (List.replicate n 'a')
      refine ⟨(k, str (String.ofList (List.replicate n 'a'))) :: ms,
        by rw [eraseMembers, eraseMembers, hk]; rfl, _,
        by rw [reprMembers, hs, repr, hts']; rfl, _, List.mem_cons_self, ?_⟩
      simp only [String.toList_ofList, List.length_append, List.length_cons, List.length_replicate]
        at hlong ⊢
      omega
    · obtain ⟨w, hw, u, hu, hn⟩ := exists_long_repr v t hm ht n
      refine ⟨(k, w) :: ms, by rw [eraseMembers, eraseMembers, hw], _,
        by rw [reprMembers, hs, hu, hts']; rfl, _, List.mem_cons_self, ?_⟩
      simp only [List.length_append, List.length_cons]
      omega
    · obtain ⟨l', hl', us, hus, u, hu, hn⟩ := exists_long_reprMembers ms ts' hm hts' n
      exact ⟨(k, v) :: l', by rw [eraseMembers, eraseMembers, hl'], _ :: us,
        by rw [reprMembers, hs, ht, hus]; rfl, u, List.mem_cons_of_mem _ hu, hn⟩

theorem exists_long_reprItems : ∀ (items : List (List Char × Value)) (ts : List (List Char)),
    mentionsItems items = true → reprItems printable items = some ts →
      ∀ n, ∃ items', eraseItems items' = eraseItems items ∧
        ∃ us, reprItems printable items' = some us ∧ ∃ u ∈ us, n ≤ u.length
  | [], _, hm, _ => by simp [mentionsItems] at hm
  | (label, v) :: items, ts, hm, h => by
    intro n
    rw [reprItems] at h
    obtain ⟨t, ht, h⟩ := Option.bind_eq_some_iff.1 h
    obtain ⟨ts', hts', rfl⟩ := Option.map_eq_some_iff.1 h
    rw [mentionsItems, Bool.or_eq_true] at hm
    rcases hm with hm | hm
    · obtain ⟨w, hw, u, hu, hn⟩ := exists_long_repr v t hm ht n
      refine ⟨(label, w) :: items, by rw [eraseItems, eraseItems, hw], _,
        by rw [reprItems, hu, hts']; rfl, _, List.mem_cons_self, ?_⟩
      rw [List.length_append]
      omega
    · obtain ⟨l', hl', us, hus, u, hu, hn⟩ := exists_long_reprItems items ts' hm hts' n
      exact ⟨(label, v) :: l', by rw [eraseItems, eraseItems, hl'], _ :: us,
        by rw [reprItems, ht, hus]; rfl, u, List.mem_cons_of_mem _ hu, hn⟩

end

/-! ### Only covered values are hidden and kept -/

/-- A value that is scrubbed, keeps its other keys and shows nothing below a secret key. -/
structure Tight (printable : Char → Bool) (v : Value) : Prop where
  kept : ∃ j, scrubMetadata printable v = some j ∧ v.Kept j
  hidden : ∀ w : Value, w.erase = v.erase → scrubMetadata printable w = scrubMetadata printable v

/-- The elements of a list are. -/
structure TightElems (printable : Char → Bool) (l : List Value) : Prop where
  kept : ∃ js, scrubElems printable l = some js ∧ KeptElems l js
  hidden : ∀ l', eraseElems l' = eraseElems l → scrubElems printable l' = scrubElems printable l

theorem TightElems.head {v : Value} {vs : List Value} (h : TightElems printable (v :: vs)) :
    Tight printable v := by
  obtain ⟨js, hjs, j, js', rfl, hkept, -⟩ := h.kept
  rw [scrubElems] at hjs
  obtain ⟨i, hi, hjs⟩ := Option.bind_eq_some_iff.1 hjs
  obtain ⟨is, his, heq⟩ := Option.map_eq_some_iff.1 hjs
  obtain ⟨rfl, rfl⟩ := List.cons.inj heq
  refine ⟨⟨i, hi, hkept⟩, fun w hw => ?_⟩
  have hcons := h.hidden (w :: vs) (by rw [eraseElems, eraseElems, hw])
  rw [scrubElems, scrubElems, hi, his] at hcons
  obtain ⟨j, hj, hcons⟩ := Option.bind_eq_some_iff.1 hcons
  rw [hj, hi, ← (List.cons.inj (Option.some.inj hcons)).1]

theorem TightElems.tail {v : Value} {vs : List Value} (h : TightElems printable (v :: vs)) :
    TightElems printable vs := by
  obtain ⟨js, hjs, j, js', rfl, -, hkept⟩ := h.kept
  rw [scrubElems] at hjs
  obtain ⟨i, hi, hjs⟩ := Option.bind_eq_some_iff.1 hjs
  obtain ⟨is, his, heq⟩ := Option.map_eq_some_iff.1 hjs
  obtain ⟨rfl, rfl⟩ := List.cons.inj heq
  refine ⟨⟨is, his, hkept⟩, fun l' hl' => ?_⟩
  have hcons := h.hidden (v :: l') (by rw [eraseElems, eraseElems, hl'])
  rw [scrubElems, scrubElems, hi, his] at hcons
  obtain ⟨is', his', hcons⟩ := Option.map_eq_some_iff.1 hcons
  rw [his', his, (List.cons.inj hcons).2]

theorem Tight.elems {l : List Value} (h : Tight printable (list l)) : TightElems printable l := by
  obtain ⟨j, hj, js, rfl, hkept⟩ := h.kept
  rw [scrubMetadata] at hj
  obtain ⟨js', hjs, heq⟩ := Option.map_eq_some_iff.1 hj
  obtain rfl := Json.arr.inj heq
  refine ⟨⟨_, hjs, hkept⟩, fun l' hl' => ?_⟩
  have hlist := h.hidden (list l') (by rw [erase, erase, hl'])
  rw [scrubMetadata, scrubMetadata, hjs] at hlist
  obtain ⟨js, hjs', heq⟩ := Option.map_eq_some_iff.1 hlist
  rw [hjs', hjs, Json.arr.inj heq]

theorem eraseMembers_append (ms ns : List (Key × Value)) :
    eraseMembers (ms ++ ns) = eraseMembers ms ++ eraseMembers ns := by
  induction ms with
  | nil => rfl
  | cons m ms ih => rw [List.cons_append, eraseMembers, ih, eraseMembers, List.cons_append]

theorem scrubMembers_append {ms ns : List (Key × Value)} {es : List (String × Json)}
    (h : scrubMembers printable (ms ++ ns) = some es) :
    ∃ es₁ es₂, scrubMembers printable ms = some es₁ ∧ scrubMembers printable ns = some es₂ ∧
      es = es₁ ++ es₂ := by
  induction ms generalizing es with
  | nil => exact ⟨[], es, rfl, h, rfl⟩
  | cons m ms ih =>
    rw [List.cons_append, scrubMembers] at h
    obtain ⟨t, ht, h⟩ := Option.bind_eq_some_iff.1 h
    obtain ⟨j, hj, h⟩ := Option.bind_eq_some_iff.1 h
    obtain ⟨es', hes', rfl⟩ := Option.map_eq_some_iff.1 h
    obtain ⟨es₁, es₂, h₁, h₂, rfl⟩ := ih hes'
    refine ⟨(String.ofList t, j) :: es₁, es₂, ?_, h₂, rfl⟩
    rw [scrubMembers, ht, Option.bind_some, hj, h₁]
    rfl

/-- The last member with a text is the one that the scrubbed dictionary has. -/
theorem get?_scrubMembers_last {pre post : List (Key × Value)} {k : Key} {v : Value} {t : List Char}
    {es : List (String × Json)} (ht : k.text? = some t)
    (h : scrubMembers printable (pre ++ (k, v) :: post) = some es)
    (hlast : String.ofList t ∉ keyTexts post) :
    (if isSensitiveKey t then some redacted else scrubMetadata printable v) =
      (Dict.ofList es).get? (String.ofList t) := by
  obtain ⟨es₁, es₂, -, h₂, rfl⟩ := scrubMembers_append h
  rw [scrubMembers, ht, Option.bind_some] at h₂
  obtain ⟨j, hj, h₂⟩ := Option.bind_eq_some_iff.1 h₂
  obtain ⟨es₃, h₃, rfl⟩ := Option.map_eq_some_iff.1 h₂
  rw [hj, Dict.get?_ofList_last]
  rwa [map_fst_scrubMembers h₃]

/-- The last member with a text may be replaced by one that only differs in its secrets. -/
theorem Tight.replace {pre post : List (Key × Value)} {k : Key} {v w : Value} {t : List Char}
    (h : Tight printable (dict (pre ++ (k, v) :: post))) (ht : k.text? = some t)
    (hlast : String.ofList t ∉ keyTexts post)
    (hw : (if k.secret then none else w.erase) = if k.secret then none else v.erase) :
    (if isSensitiveKey t then some redacted else scrubMetadata printable w) =
      if isSensitiveKey t then some redacted else scrubMetadata printable v := by
  obtain ⟨j, hj, -⟩ := h.kept
  rw [scrubMetadata] at hj
  obtain ⟨es, hes, rfl⟩ := Option.map_eq_some_iff.1 hj
  have hsame := h.hidden (dict (pre ++ (k, w) :: post)) (by
    rw [erase, erase, eraseMembers_append, eraseMembers_append, eraseMembers, eraseMembers, hw])
  rw [scrubMetadata, scrubMetadata, hes] at hsame
  obtain ⟨es', hes', heq⟩ := Option.map_eq_some_iff.1 hsame
  have hdict : Dict.ofList es' = Dict.ofList es := Dict.ext (Json.obj.inj heq)
  rw [get?_scrubMembers_last ht hes' hlast, hdict, get?_scrubMembers_last ht hes hlast]

/-- A text that a key has is that of a last member. -/
theorem exists_last {t : List Char} : ∀ {ms : List (Key × Value)}, String.ofList t ∈ keyTexts ms →
    ∃ pre k v post, ms = pre ++ (k, v) :: post ∧ k.text? = some t ∧
      String.ofList t ∉ keyTexts post
  | [], h => by cases h
  | (k, v) :: ms, h => by
    by_cases hms : String.ofList t ∈ keyTexts ms
    · obtain ⟨pre, k', v', post, rfl, ht, hlast⟩ := exists_last hms
      exact ⟨(k, v) :: pre, k', v', post, rfl, ht, hlast⟩
    · refine ⟨[], k, v, ms, rfl, ?_, hms⟩
      rw [keyTexts, List.filterMap_cons] at h
      cases hk : k.text? with
      | none =>
        rw [hk] at h
        exact absurd h hms
      | some u =>
        rw [hk] at h
        rcases List.mem_cons.1 h with heq | hmem
        · rw [String.ofList_injective heq]
        · exact absurd hmem hms

theorem KeptMembers.mem {js : List (String × Json)} {k : Key} {v : Value} {t : List Char} :
    ∀ {ms : List (Key × Value)}, KeptMembers ms js → (k, v) ∈ ms → k.text? = some t →
      hasSensitiveWord t = false → ∃ j, (String.ofList t, j) ∈ js ∧ v.Kept j
  | [], _, hmem, _, _ => by cases hmem
  | (_, _) :: _, h, hmem, ht, hw => by
    rcases List.mem_cons.1 hmem with heq | hmem
    · obtain ⟨rfl, rfl⟩ := Prod.mk.inj heq
      exact h.1 _ ht hw
    · exact h.2.mem hmem ht hw

/-- The keys of a tight dictionary that are not secret have different texts. -/
theorem Tight.nodup {ms : List (Key × Value)} (h : Tight printable (dict ms)) :
    ((keyTexts ms).filter isOther).Nodup := by
  obtain ⟨j, hj, js, rfl, hkeys, -⟩ := h.kept
  rw [scrubMetadata] at hj
  obtain ⟨es, -, heq⟩ := Option.map_eq_some_iff.1 hj
  rw [← hkeys, ← Json.obj.inj heq]
  exact (Dict.ofList es).nodup.filter _

/-- Each member of a tight dictionary is redacted when its key is secret, and tight when it is
not. -/
theorem Tight.member {ms : List (Key × Value)} (h : Tight printable (dict ms)) {k : Key} {v : Value}
    (hmem : (k, v) ∈ ms) : ∃ t, k.text? = some t ∧
      (hasSensitiveWord t = true → isSensitiveKey t = true) ∧
      (hasSensitiveWord t = false → Tight printable v) := by
  obtain ⟨j, hj, js, rfl, -, hkept⟩ := h.kept
  rw [scrubMetadata] at hj
  obtain ⟨es, hes, heq⟩ := Option.map_eq_some_iff.1 hj
  obtain rfl := Json.obj.inj heq
  obtain ⟨pre, post, rfl⟩ := List.append_of_mem hmem
  obtain ⟨es₁, es₂, -, h₂, rfl⟩ := scrubMembers_append hes
  rw [scrubMembers] at h₂
  obtain ⟨t, ht, -⟩ := Option.bind_eq_some_iff.1 h₂
  have hkey : String.ofList t ∈ keyTexts (pre ++ (k, v) :: post) := by
    simp [keyTexts, ht]
  refine ⟨t, ht, fun hw => ?_, fun hw => ?_⟩
  · -- the pattern misses the key: what stands below it is copied
    by_contra hs
    obtain ⟨pre', k', v', post', hsplit, ht', hlast⟩ := exists_last hkey
    rw [hsplit] at h
    have hk' : k'.secret = true := by rw [Key.secret_of_text ht', hw]
    have htrue := h.replace (w := bool true) ht' hlast (by simp [hk'])
    have hfalse := h.replace (w := bool false) ht' hlast (by simp [hk'])
    rw [if_neg hs, if_neg hs] at htrue hfalse
    exact absurd (htrue.trans hfalse.symm) (by simp [scrubMetadata])
  · have hs : ¬ isSensitiveKey t = true := by rw [not_isSensitiveKey hw]; simp
    have hlast : String.ofList t ∉ keyTexts post := by
      have hnodup := h.nodup
      have hother : isOther (String.ofList t) = true := by simp [isOther, hw]
      simp only [keyTexts, List.filterMap_append, List.filterMap_cons, ht, Option.map_some,
        List.filter_append, List.filter_cons, hother, if_true, List.nodup_append,
        List.nodup_cons] at hnodup
      exact fun hm => hnodup.2.1.1 (List.mem_filter.2 ⟨hm, hother⟩)
    have hget := get?_scrubMembers_last ht hes hlast
    rw [if_neg hs] at hget
    refine ⟨?_, fun w hw' => ?_⟩
    · obtain ⟨i, hi, hkepti⟩ := hkept.mem hmem ht hw
      exact ⟨i, hget.trans (Dict.get?_of_mem_entries hi), hkepti⟩
    · have := h.replace (w := w) ht hlast (by rw [hw'])
      rwa [if_neg hs, if_neg hs] at this

mutual

/-- **Only covered values.**  A value that is scrubbed, keeps its other keys and shows nothing below
a secret key is covered. -/
theorem covered_of_tight : ∀ v : Value, Tight printable v → v.covered printable = true
  | none, _ | bool _, _ | int _, _ | float _, _ | str _, _ => rfl
  | list l, h => coveredElems_of_tight l h.elems
  | dict ms, h => by
    rw [covered, Bool.and_eq_true, decide_eq_true_eq]
    exact ⟨h.nodup, coveredMembers_of_tight ms fun k v hmem => h.member hmem⟩
  | container opening items closing, h => by
    obtain ⟨j, hj, -⟩ := h.kept
    rw [scrubMetadata] at hj
    obtain ⟨t, ht, rfl⟩ := Option.map_eq_some_iff.1 hj
    rw [covered, ht, Option.isSome_some, Bool.true_and, Bool.not_eq_true', ← Bool.not_eq_true]
    intro hm
    -- the text for a longer secret is longer
    obtain ⟨w, hw, u, hu, hn⟩ :=
      exists_long_repr (container opening items closing) t hm ht (t.length + 1)
    cases w with
    | container _ _ _ =>
      have hsame := h.hidden _ hw
      rw [scrubMetadata, scrubMetadata, ht, hu] at hsame
      have htext := String.ofList_injective (Json.str.inj (Option.some.inj hsame))
      rw [htext] at hn
      omega
    | _ => simp [erase] at hw
  | object o, h => by
    obtain ⟨j, hj, -⟩ := h.kept
    rw [scrubMetadata] at hj
    obtain ⟨t, ht, -⟩ := Option.map_eq_some_iff.1 hj
    rw [covered, ht]
    rfl

theorem coveredElems_of_tight : ∀ l : List Value, TightElems printable l →
    coveredElems printable l = true
  | [], _ => rfl
  | v :: vs, h => by
    rw [coveredElems, covered_of_tight v h.head, coveredElems_of_tight vs h.tail]
    rfl

theorem coveredMembers_of_tight : ∀ ms : List (Key × Value),
    (∀ k v, (k, v) ∈ ms → ∃ t, k.text? = some t ∧
      (hasSensitiveWord t = true → isSensitiveKey t = true) ∧
      (hasSensitiveWord t = false → Tight printable v)) → coveredMembers printable ms = true
  | [], _ => rfl
  | (k, v) :: ms, h => by
    obtain ⟨t, ht, hsecret, hother⟩ := h k v List.mem_cons_self
    refine coveredMembers_cons.2 ⟨t, ht, ?_,
      coveredMembers_of_tight ms fun k v hmem => h k v (List.mem_cons_of_mem _ hmem)⟩
    split_ifs with hw
    · exact hsecret hw
    · exact covered_of_tight v (hother (by simpa using hw))

end

end Value

end Telemetry

end AnnyRuntime
