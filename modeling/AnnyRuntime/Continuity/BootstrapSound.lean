import AnnyRuntime.Continuity.CustomerZero

/-!
# The bootstrap loses no blocker

What the resolver returns is sound when it is consistent exactly if every required stage was read
and no blocker is declared, and every declared blocker, and every `blockers` or `scope` that is no
list, has a blocker in the result or blocks it.

* `readStages_meets_iff` : when the stages return a sound result, read by read.
* `bootstrap_sound_iff` : **the resolver returns a sound result exactly when no read that it comes
  to raises and, where it comes to the end, every `blockers` and `scope` that is there is a list,
  and a list in `BLOCKERS` reports the blockers of the current state as well.**
-/

namespace AnnyRuntime

namespace CustomerZero

open OperationalRepositoryProvider

/-! ### Sound results -/

/-- The stages that have to be read. -/
def requiredStages : List String := stagesBeforeAction ++ ["9.NEXT_ACTION"]

/-- The items of the list of blockers of a document that was read. -/
def itemsOf (doc : Except PyException (Option Members)) : List PyVal :=
  match doc with
  | .ok (some ms) => (blockersList ms).getD []
  | _ => []

/-- A document that was read has something else than a list for a key. -/
def NoList (key : String) (doc : Except PyException (Option Members)) : Prop :=
  ∃ ms v, doc = .ok (some ms) ∧ PyVal.get? key ms = some v ∧ ∀ l, v ≠ .list l

/-- A blocker of an item, of either document. -/
def Reports (y : Yaml) (item : PyVal) (b : Blocker) : Prop :=
  blockerOf y "BLOCKERS list" item = .ok b ∨ blockerOf y "CURRENT_STATE blockers" item = .ok b

section Spec

variable (p : Platform) (y : Yaml) (P : OperationalRepositoryProvider)

/-- The blockers that are declared. -/
def declared : List PyVal := itemsOf (P.readBlockers p y) ++ itemsOf (P.readCurrentState p y)

/-- A value that should be a list is none. -/
def IllFormed : Prop :=
  NoList "blockers" (P.readBlockers p y) ∨ NoList "blockers" (P.readCurrentState p y) ∨
    NoList "scope" (P.readCurrentMission p y)

/-- The result is right about the blockers.  An ill-formed value has a blocker of its own, that is
the blocker of no item. -/
structure SoundResult (r : BootstrapResult) : Prop where
  consistent : r.status = .consistent ↔
    (∀ stage ∈ requiredStages, stage ∈ r.stagesCompleted) ∧ declared p y P = []
  reported : r.status = .blocked ∨ ∀ item ∈ declared p y P, ∃ b ∈ r.blockers, Reports y item b
  illFormed : r.status = .blocked ∨
    (IllFormed p y P → ∃ b ∈ r.blockers, ∀ item ∈ declared p y P, ¬ Reports y item b)

/-- The resolver returns, and the result is right about the documents. -/
def Sound : Prop :=
  ∃ r, resolve p y P = .ok r ∧ SoundResult p y (P.resolveOperationalRepository p).2 r

end Spec

/-! ### The condition -/

/-- An item of the scope that is a task. -/
def TaskFits (item : PyVal) : Prop :=
  ∃ ms, item = .dict ms ∧ (getKey "id" ms).truthy = true ∧ (getKey "status" ms).truthy = true

/-- The lists are lists, and a list in `BLOCKERS` hides no blocker of the current state. -/
structure ListsFit (y : Yaml) (mission : Members) (doc : Option Members) (state : Members) :
    Prop where
  scope : ∀ v, PyVal.get? "scope" mission = some v → ∃ l, v = .list l
  document : ∀ ms v, doc = some ms → PyVal.get? "blockers" ms = some v → ∃ l, v = .list l
  current : ∀ v, PyVal.get? "blockers" state = some v → ∃ l, v = .list l
  hidden : ∀ items, doc.bind blockersList = some items →
    ∀ item ∈ (blockersList state).getD [], ∃ other ∈ items, ∃ b,
      blockerOf y "BLOCKERS list" other = .ok b ∧ Reports y item b

section Condition

variable (p : Platform) (y : Yaml) (P : OperationalRepositoryProvider)

/-- From the blockers on: every read answers, and every text that is needed can be written; at the
end the lists fit. -/
def FineBlockers (state mission : Members) : Prop :=
  Answers (P.readBlockers p y) ∧ ∀ doc, P.readBlockers p y = .ok doc →
    Answers (parsedBlockers y doc state) ∧ Answers (P.readNextAction p y) ∧
      ∀ next, P.readNextAction p y = .ok next →
        Answers (parsedNextAction y next state) ∧
          ∀ action, parsedNextAction y next state = .ok (some action) →
            (∀ stage ∈ stageDefinitions, Answers (P.pathExists p stage.2)) ∧
              ListsFit y mission doc state

/-- From the mission on: the first item of the scope that is no task can be written. -/
def FineMission (state : Members) : Prop :=
  Answers (P.readCurrentMission p y) ∧ ∀ mission, P.readCurrentMission p y = .ok (some mission) →
    (getKey "mission_id" mission).truthy = true → (getKey "status" mission).truthy = true →
      (∀ before item rest, scopeItems mission = before ++ item :: rest →
        (∀ i ∈ before, TaskFits i) → ¬ TaskFits item → Answers (written y item)) ∧
      ((∀ item ∈ scopeItems mission, TaskFits item) → FineBlockers p y P state mission)

/-- From the start. -/
def Fine : Prop :=
  Answers (P.readBootstrap p) ∧ ∀ contract, P.readBootstrap p = .ok contract →
    (contract.getD .null).truthy = true →
      Answers (P.pathExists p "constitution/") ∧ (P.pathExists p "constitution/" = .ok true →
        Answers (P.pathExists p "os/") ∧ (P.pathExists p "os/" = .ok true →
          Answers (P.readCurrentState p y) ∧
            ∀ state, P.readCurrentState p y = .ok (some state) → state ≠ [] →
              Answers (P.readL2Registry p y) ∧ FineMission p y P state))

end Condition

/-! ### Stage by stage -/

variable {p : Platform} {y : Yaml} {P : OperationalRepositoryProvider} {state mission : Members}
  {doc : Option Members} {r : BootstrapResult} {α : Type}

theorem soundResult_of_blocked (hstatus : r.status = .blocked)
    (hstages : "9.NEXT_ACTION" ∉ r.stagesCompleted) : SoundResult p y P r where
  consistent := by
    refine iff_of_false ?_ fun h => hstages (h.1 _ (by decide))
    rw [hstatus]
    decide
  reported := .inl hstatus
  illFormed := .inl hstatus

theorem blocked_meets {completed : List String} (h : "9.NEXT_ACTION" ∉ completed) (b : Blocker)
    (message : String) {Q : α → Prop} :
    (blocked completed b message : Stage α).Meets (SoundResult p y P) Q :=
  soundResult_of_blocked rfl h

theorem bootstrapContract_meets {Q : Unit → Prop} :
    (bootstrapContract p P).Meets (SoundResult p y P) Q ↔
      Answers (P.readBootstrap p) ∧ ∀ contract, P.readBootstrap p = .ok contract →
        (contract.getD .null).truthy = true → Q () := by
  rw [bootstrapContract, Early.meets_bind, Early.meets_ofExcept]
  refine and_congr_right fun _ => forall₂_congr fun contract _ => ?_
  split_ifs with h
  · simp [h]
  · exact iff_of_true (blocked_meets (by decide) _ _) fun h' => absurd h' h

theorem requiredDirectory_meets {path : String} {completed : List String}
    (h : "9.NEXT_ACTION" ∉ completed) (b : Blocker) (message : String) {Q : Unit → Prop} :
    (requiredDirectory p P path completed b message).Meets (SoundResult p y P) Q ↔
      Answers (P.pathExists p path) ∧ (P.pathExists p path = .ok true → Q ()) := by
  rw [requiredDirectory, Early.meets_bind, Early.meets_ofExcept]
  refine and_congr_right fun _ => ?_
  rw [Bool.forall_bool]
  refine (and_iff_right fun _ => ?_).trans Iff.rfl
  exact blocked_meets h b message

theorem currentState_meets {Q : Members → Prop} :
    (currentState p y P).Meets (SoundResult p y P) Q ↔
      Answers (P.readCurrentState p y) ∧
        ∀ state, P.readCurrentState p y = .ok (some state) → state ≠ [] → Q state := by
  rw [currentState, Early.meets_bind, Early.meets_ofExcept]
  refine and_congr_right fun _ => ?_
  constructor
  · intro h state hstate hne
    cases state with
    | nil => exact absurd rfl hne
    | cons m ms => exact h _ hstate
  · intro h state hstate
    split
    · exact h _ hstate (List.cons_ne_nil _ _)
    · exact blocked_meets (by decide) _ _

/-- The task of an item. -/
def taskOf (item : PyVal) : CurrentTask :=
  .ofMembers (match item with | .dict ms => ms | _ => [])

theorem scopeTask_meets (item : PyVal) (Q : CurrentTask → Prop) :
    (scopeTask y item).Meets (SoundResult p y P) Q ↔
      (TaskFits item → Q (taskOf item)) ∧
        (¬ TaskFits item → Answers (written y item)) := by
  have hwritten (b : String → Blocker) (message : String) :
      (do
        let text ← Early.ofExcept (written y item)
        blocked stagesBeforeMission (b text) message : Stage CurrentTask).Meets
          (SoundResult p y P) Q ↔ Answers (written y item) := by
    rw [Early.meets_bind, Early.meets_ofExcept]
    exact and_iff_left fun text _ => blocked_meets (by decide) _ _
  cases item with
  | dict ms =>
    have hfits : TaskFits (.dict ms) ↔
        (getKey "id" ms).truthy = true ∧ (getKey "status" ms).truthy = true := by
      simp [TaskFits]
    rw [scopeTask, hfits]
    split_ifs with hbad
    · rw [Bool.or_eq_true, Bool.not_eq_true', Bool.not_eq_true'] at hbad
      have hno : ¬ ((getKey "id" ms).truthy = true ∧ (getKey "status" ms).truthy = true) := by
        rcases hbad with hbad | hbad <;> simp [hbad]
      rw [hwritten]
      simp [hno]
    · rw [Bool.or_eq_true, Bool.not_eq_true', Bool.not_eq_true', not_or, Bool.not_eq_false,
        Bool.not_eq_false] at hbad
      simp [hbad, taskOf]
  | _ =>
    refine (hwritten _ _).trans ?_
    simp [TaskFits]

theorem currentMission_meets {Q : CurrentMission → Prop} :
    (currentMission p y P).Meets (SoundResult p y P) Q ↔
      Answers (P.readCurrentMission p y) ∧
        ∀ mission, P.readCurrentMission p y = .ok (some mission) →
          (getKey "mission_id" mission).truthy = true → (getKey "status" mission).truthy = true →
            (∀ before item rest, scopeItems mission = before ++ item :: rest →
              (∀ i ∈ before, TaskFits i) → ¬ TaskFits item → Answers (written y item)) ∧
            ((∀ item ∈ scopeItems mission, TaskFits item) →
              Q (.ofMembers mission ((scopeItems mission).map taskOf))) := by
  rw [currentMission, Early.meets_bind, Early.meets_ofExcept]
  refine and_congr_right fun _ => ⟨fun h mission hmission hid hstatus => ?_,
    fun h mission hmission => ?_⟩
  · cases mission with
    | nil => cases hid
    | cons m ms =>
      have hmeets := h _ hmission
      simp only [hid, hstatus, Bool.not_true, Bool.or_false, Bool.false_eq_true, if_false] at hmeets
      rw [Early.meets_bind, Early.meets_mapM scopeTask_meets] at hmeets
      exact hmeets
  · split
    · rename_i m ms
      simp only
      split_ifs with hbad
      · exact blocked_meets (by decide) _ _
      · rw [Bool.or_eq_true, Bool.not_eq_true', Bool.not_eq_true', not_or, Bool.not_eq_false,
          Bool.not_eq_false] at hbad
        rw [Early.meets_bind, Early.meets_mapM scopeTask_meets]
        exact h _ hmission hbad.1 hbad.2
    · exact blocked_meets (by decide) _ _

theorem nextAction_meets {blockers : List Blocker} {Q : NextAction → Prop} :
    (nextAction p y P state blockers).Meets (SoundResult p y P) Q ↔
      Answers (P.readNextAction p y) ∧ ∀ next, P.readNextAction p y = .ok next →
        Answers (parsedNextAction y next state) ∧
          ∀ action, parsedNextAction y next state = .ok (some action) → Q action := by
  rw [nextAction, Early.meets_bind, Early.meets_ofExcept]
  refine and_congr_right fun _ => forall₂_congr fun next _ => ?_
  rw [Early.meets_bind, Early.meets_ofExcept]
  refine and_congr_right fun _ => ⟨fun h action haction => h _ haction, fun h action haction => ?_⟩
  cases action with
  | some action => exact h action haction
  | none =>
    have hstages : "9.NEXT_ACTION" ∉ stagesBeforeAction := by decide
    exact soundResult_of_blocked rfl hstages

theorem answers_optionalStage (stage : String × String) :
    Answers (optionalStage p P stage) ↔ Answers (P.pathExists p stage.2) := by
  rw [optionalStage]
  cases P.pathExists p stage.2 <;> simp [Answers, bind, Except.bind, pure, Except.pure]

/-! ### The end -/

/-- The items whose blockers are parsed. -/
def itemsUsed (doc : Option Members) (state : Members) : List PyVal :=
  (doc.bind blockersList).getD ((blockersList state).getD [])

/-- How the list is called that they are in. -/
def sourceUsed (doc : Option Members) : String :=
  if (doc.bind blockersList).isSome then "BLOCKERS list" else "CURRENT_STATE blockers"

theorem parsedBlockers_eq (doc : Option Members) (state : Members) :
    parsedBlockers y doc state = (itemsUsed doc state).mapM (blockerOf y (sourceUsed doc)) := by
  rw [parsedBlockers, itemsUsed, sourceUsed]
  cases doc.bind blockersList with
  | some items => rfl
  | none => cases blockersList state <;> rfl

theorem reports_of_sourceUsed {item : PyVal} {b : Blocker}
    (h : blockerOf y (sourceUsed doc) item = .ok b) : Reports y item b := by
  rw [sourceUsed] at h
  split_ifs at h
  · exact .inl h
  · exact .inr h

theorem declared_eq (hstate : P.readCurrentState p y = .ok (some state))
    (hdoc : P.readBlockers p y = .ok doc) :
    declared p y P = (doc.bind blockersList).getD [] ++ (blockersList state).getD [] := by
  unfold declared itemsOf
  rw [hstate, hdoc]
  cases doc <;> rfl

theorem mem_declared_of_used (hstate : P.readCurrentState p y = .ok (some state))
    (hdoc : P.readBlockers p y = .ok doc) {item : PyVal} (h : item ∈ itemsUsed doc state) :
    item ∈ declared p y P := by
  rw [declared_eq hstate hdoc, List.mem_append]
  rw [itemsUsed] at h
  cases hlist : doc.bind blockersList with
  | some items => exact .inl (by simpa [hlist] using h)
  | none => exact .inr (by simpa [hlist] using h)

theorem exists_list_iff {ms : Members} {key : String} {read : Except PyException (Option Members)}
    (h : read = .ok (some ms)) :
    ¬ NoList key read ↔ ∀ v, PyVal.get? key ms = some v → ∃ l, v = .list l := by
  simp [NoList, h]

/-- The lists are lists where none is ill-formed. -/
theorem not_illFormed_iff (hstate : P.readCurrentState p y = .ok (some state))
    (hmission : P.readCurrentMission p y = .ok (some mission))
    (hdoc : P.readBlockers p y = .ok doc) :
    ¬ IllFormed p y P ↔
      (∀ ms v, doc = some ms → PyVal.get? "blockers" ms = some v → ∃ l, v = .list l) ∧
        (∀ v, PyVal.get? "blockers" state = some v → ∃ l, v = .list l) ∧
          ∀ v, PyVal.get? "scope" mission = some v → ∃ l, v = .list l := by
  rw [IllFormed, not_or, not_or, exists_list_iff hstate, exists_list_iff hmission]
  refine and_congr_left fun _ => ?_
  simp only [NoList, hdoc, Except.ok.injEq, not_exists, not_and, not_forall, not_not]

/-- **What the resolver returns at the end** is sound when the lists fit. -/
theorem soundResult_end_iff (hstate : P.readCurrentState p y = .ok (some state))
    (hmission : P.readCurrentMission p y = .ok (some mission))
    (hdoc : P.readBlockers p y = .ok doc) (hblockers : parsedBlockers y doc state = .ok r.blockers)
    (hstatus : r.status = if r.blockers.isEmpty then .consistent else .degraded)
    (hstages : ∀ stage ∈ requiredStages, stage ∈ r.stagesCompleted) :
    SoundResult p y P r ↔ ListsFit y mission doc state := by
  rw [parsedBlockers_eq] at hblockers
  have hmem (b : Blocker) := mem_mapM_iff hblockers b
  have hanswers := answers_mapM.1 ⟨_, hblockers⟩
  have hblocked : r.status ≠ .blocked := by
    rw [hstatus]
    split_ifs <;> decide
  have hused (item : PyVal) (h : item ∈ itemsUsed doc state) :
      ∃ b ∈ r.blockers, Reports y item b := by
    obtain ⟨b, hb⟩ := hanswers item h
    exact ⟨b, (hmem b).2 ⟨item, h, hb⟩, reports_of_sourceUsed hb⟩
  constructor
  · intro h
    have hill : ¬ IllFormed p y P := by
      intro hill
      obtain ⟨b, hb, hown⟩ := h.illFormed.resolve_left hblocked hill
      obtain ⟨item, hitem, hreports⟩ := (hmem b).1 hb
      exact hown item (mem_declared_of_used hstate hdoc hitem) (reports_of_sourceUsed hreports)
    obtain ⟨hdocument, hcurrent, hscope⟩ := (not_illFormed_iff hstate hmission hdoc).1 hill
    refine ⟨hscope, hdocument, hcurrent, fun items hitems item hitem => ?_⟩
    have hdeclared : item ∈ declared p y P := by
      rw [declared_eq hstate hdoc]
      exact List.mem_append_right _ hitem
    obtain ⟨b, hb, hreports⟩ := h.reported.resolve_left hblocked item hdeclared
    obtain ⟨other, hother, hb⟩ := (hmem b).1 hb
    rw [itemsUsed, hitems] at hother
    rw [sourceUsed, hitems] at hb
    exact ⟨other, hother, b, hb, hreports⟩
  · intro h
    have hreported (item : PyVal) (hitem : item ∈ declared p y P) :
        ∃ b ∈ r.blockers, Reports y item b := by
      rw [declared_eq hstate hdoc, List.mem_append] at hitem
      cases hlist : doc.bind blockersList with
      | none =>
        refine hused item ?_
        rw [itemsUsed, hlist]
        simpa [hlist] using hitem
      | some items =>
        rcases hitem with hitem | hitem
        · refine hused item ?_
          rw [itemsUsed, hlist]
          simpa [hlist] using hitem
        · obtain ⟨other, hother, b, hb, hreports⟩ := h.hidden items hlist item hitem
          refine ⟨b, (hmem b).2 ⟨other, ?_, ?_⟩, hreports⟩
          · rwa [itemsUsed, hlist]
          · rwa [sourceUsed, hlist]
    have hill := (not_illFormed_iff hstate hmission hdoc).2 ⟨h.document, h.current, h.scope⟩
    refine ⟨?_, .inr hreported, .inr fun hill' => absurd hill' hill⟩
    have hempty : r.blockers = [] ↔ declared p y P = [] := by
      constructor
      · intro hnil
        refine List.eq_nil_iff_forall_not_mem.2 fun item hitem => ?_
        obtain ⟨b, hb, -⟩ := hreported item hitem
        rw [hnil] at hb
        cases hb
      · intro hnil
        refine List.eq_nil_iff_forall_not_mem.2 fun b hb => ?_
        obtain ⟨item, hitem, -⟩ := (hmem b).1 hb
        have hdeclared := mem_declared_of_used hstate hdoc hitem
        rw [hnil] at hdeclared
        cases hdeclared
    rw [and_iff_right hstages, ← hempty, hstatus, ← List.isEmpty_iff]
    split_ifs with hnil <;> simp [hnil]

/-! ### All stages -/

/-- **When the stages return a sound result.** -/
theorem readStages_meets_iff (repo : RepoInfo) :
    (readStages p y P repo).Meets (SoundResult p y P) (SoundResult p y P) ↔ Fine p y P := by
  rw [readStages, Early.meets_bind, bootstrapContract_meets, Fine]
  refine and_congr_right fun _ => forall₃_congr fun _ _ _ => ?_
  rw [Early.meets_bind, constitution, requiredDirectory_meets (by decide)]
  refine and_congr_right fun _ => imp_congr_right fun _ => ?_
  rw [Early.meets_bind, operatingSystem, requiredDirectory_meets (by decide)]
  refine and_congr_right fun _ => imp_congr_right fun _ => ?_
  rw [Early.meets_bind, currentState_meets]
  refine and_congr_right fun _ => forall₃_congr fun state hstate _ => ?_
  rw [Early.meets_bind, l2Workers, Early.meets_bind, Early.meets_ofExcept]
  refine and_congr_right fun hworkers => ?_
  refine (forall₂_congr fun workers _ => ?_).trans (forall_ok_iff hworkers)
  rw [Early.meets_pure, Early.meets_bind, currentMission_meets, FineMission]
  refine and_congr_right fun _ => forall₄_congr fun mission hmission _ _ => ?_
  refine and_congr_right fun _ => imp_congr_right fun _ => ?_
  rw [Early.meets_bind, Early.meets_ofExcept, FineBlockers]
  refine and_congr_right fun _ => forall₂_congr fun doc hdoc => ?_
  rw [Early.meets_bind, Early.meets_ofExcept]
  refine and_congr_right fun hparsed => ?_
  refine (forall₂_congr fun blockers hblockers => ?_).trans (forall_ok_iff hparsed)
  rw [Early.meets_bind, nextAction_meets]
  refine and_congr_right fun _ => forall₂_congr fun next _ => ?_
  refine and_congr_right fun _ => forall₂_congr fun action _ => ?_
  rw [Early.meets_bind, Early.meets_ofExcept, answers_mapM]
  simp only [answers_optionalStage]
  refine and_congr_right fun hstages => ?_
  have hoptional : Answers (stageDefinitions.mapM (optionalStage p P)) :=
    answers_mapM.2 fun stage hstage => answers_optionalStage stage |>.2 (hstages stage hstage)
  refine (forall₂_congr fun optional _ => ?_).trans (forall_ok_iff hoptional)
  rw [Early.meets_pure]
  exact soundResult_end_iff hstate hmission hdoc hblockers rfl fun stage hstage =>
    List.mem_append_left _ hstage

/-! ### The resolver -/

theorem snd_of_error {e : PyException} (h : (P.resolveOperationalRepository p).1 = .error e) :
    (P.resolveOperationalRepository p).2 = P := by
  unfold resolveOperationalRepository at h ⊢
  split at h
  · cases h
  · cases h
  · cases h
  · split at h
    · rfl
    · cases h

/-- What cannot be resolved cannot be read. -/
theorem readDocument_of_error {e : PyException}
    (h : (P.resolveOperationalRepository p).1 = .error e) (path : String) :
    P.readDocument p y path = .error e := by
  rw [readDocument, readParsed, readFileContent, h]
  rfl

theorem readCurrentMission_of_error {e : PyException}
    (h : (P.resolveOperationalRepository p).1 = .error e) :
    P.readCurrentMission p y = .error e := by
  rw [readCurrentMission, readFileContent, h]
  rfl

theorem soundResult_of_error {e : PyException}
    (h : (P.resolveOperationalRepository p).1 = .error e)
    (hstatus : r.status = statusOfError e.text) (hstages : r.stagesCompleted = []) :
    SoundResult p y P r := by
  have hdeclared : declared p y P = [] := by
    unfold declared itemsOf
    rw [readBlockers, readCurrentState, readDocument_of_error h, readDocument_of_error h]
    rfl
  have hill : ¬ IllFormed p y P := by
    rw [IllFormed, readBlockers, readCurrentState, readDocument_of_error h,
      readDocument_of_error h, readCurrentMission_of_error h]
    simp [NoList]
  refine ⟨iff_of_false ?_ ?_, .inr ?_, .inr fun hill' => absurd hill' hill⟩
  · rw [hstatus, statusOfError]
    split_ifs <;> decide
  · rw [hstages]
    intro h'
    have hfirst := h'.1 "1.BOOTSTRAP" (by decide)
    cases hfirst
  · rw [hdeclared]
    exact fun item hitem => absurd hitem List.not_mem_nil

/-- **When the bootstrap is sound.** -/
theorem bootstrap_sound_iff (p : Platform) (y : Yaml) (P : OperationalRepositoryProvider) :
    Sound p y P ↔ ∀ repo, (P.resolveOperationalRepository p).1 = .ok (some repo) →
      Fine p y (P.resolveOperationalRepository p).2 := by
  rw [Sound, resolve, Early.exists_outcome_iff, Early.meets_bind, operationalRepository]
  cases hrepo : (P.resolveOperationalRepository p).1 with
  | error e =>
    refine iff_of_true ?_ fun repo h => by cases h
    rw [snd_of_error hrepo]
    exact soundResult_of_error hrepo rfl rfl
  | ok found =>
    cases found with
    | none => exact iff_of_true (blocked_meets (by decide) _ _) fun repo h => by cases h
    | some repo =>
      simp only [Except.ok.injEq, Option.some.injEq, forall_eq']
      exact readStages_meets_iff repo

/-! ### Bootstraps that are not sound -/

/-- Python's library, as far as texts like these need it. -/
def asciiPlatform : Platform where
  str := Json.pyStr
  sorted l := .ok (Json.pyStr (.arr l))
  upper s := String.ofList (s.toList.map Char.toUpper)
  lower s := String.ofList (s.toList.map Char.toLower)
  decodeError _ := "Expecting value: line 1 column 1 (char 0)"
  b64decode _ := .error ⟨.other, "Incorrect padding"⟩
  hmac _ _ := .error ⟨.other, "unsupported hash type"⟩

/-- What YAML makes of the given texts. -/
def yamlReading (documents : List (String × PyVal)) : Yaml where
  safeLoad text := (documents.lookup text).elim (.error ⟨.other, "expected a mapping"⟩) .ok
  str v := v.pyStr.elim (.error ⟨.other, ""⟩) .ok

/-- A local directory with some directories and texts in it. -/
def localFiles (directories : List String) (texts : List (String × String)) : LocalFiles where
  exists' path := directories.contains path || (texts.lookup path).isSome
  read path := (texts.lookup path).elim (.error ⟨.osError, "No such file or directory"⟩) .ok

/-- The documents of an operational directory, whose blockers are no list. -/
def textBlockers : List (String × String × PyVal) :=
  [("/op/BOOTSTRAP.md", "# BOOTSTRAP", .none),
    ("/op/state/CURRENT_STATE.yaml", "schema_version: '1.0'",
      .dict [(.str "schema_version", .str "1.0")]),
    ("/op/state/CURRENT_MISSION.yaml", "mission_id: M-1\nstatus: ACTIVE",
      .dict [(.str "mission_id", .str "M-1"), (.str "status", .str "ACTIVE")]),
    ("/op/state/BLOCKERS.yaml", "blockers: database down",
      .dict [(.str "blockers", .str "database down")]),
    ("/op/state/NEXT_ACTION.yaml", "action: Execute", .dict [(.str "action", .str "Execute")])]

/-- A provider in a controlled test, with this directory. -/
def controlledTest : OperationalRepositoryProvider where
  githubClient := none
  localPathOverride := some "/op"
  environment := "CONTROLLED_TEST"
  files := localFiles ["/op", "/op/constitution/", "/op/os/"]
    (textBlockers.map fun document => (document.1, document.2.1))

/-- A provider whose repository was found, and whose API fails now. -/
def failingNow : OperationalRepositoryProvider where
  githubClient := some ⟨some "token", fun r => "https://api.github.com" ++ r.endpoint,
    fun _ => .httpError 502 "Bad Gateway"⟩
  files := localFiles [] []
  resolved := some (.github "owner" "operations" (.str "main"))

/-- **A blocker that is no list is lost, and a read that fails is not caught.** -/
theorem not_bootstrap_sound :
    (let y := yamlReading (textBlockers.map (·.2))
     ¬ Sound asciiPlatform y controlledTest ∧
      ∃ r, resolve asciiPlatform y controlledTest = .ok r ∧ r.status = .consistent ∧
        r.blockers = []) ∧
      ¬ Sound asciiPlatform (yamlReading []) failingNow ∧
        resolve asciiPlatform (yamlReading []) failingNow =
          .error ⟨.githubClientError, "GitHub API HTTP Error (502): Bad Gateway"⟩ := by
  have hresolve : ∃ r, resolve asciiPlatform (yamlReading (textBlockers.map (·.2)))
      controlledTest = .ok r ∧ r.status = .consistent ∧ r.blockers = [] := ⟨_, rfl, rfl, rfl⟩
  have hraises : resolve asciiPlatform (yamlReading []) failingNow =
      .error ⟨.githubClientError, "GitHub API HTTP Error (502): Bad Gateway"⟩ := rfl
  refine ⟨⟨?_, hresolve⟩, ?_, hraises⟩
  · rintro ⟨r, hr, hsound⟩
    obtain ⟨r', hr', hstatus, hblockers⟩ := hresolve
    obtain rfl : r = r' := Except.ok.inj (hr.symm.trans hr')
    have hblocked : r.status ≠ .blocked := by
      rw [hstatus]
      decide
    obtain ⟨b, hb, -⟩ := hsound.illFormed.resolve_left hblocked
      (.inl ⟨_, .str "database down", rfl, rfl, nofun⟩)
    rw [hblockers] at hb
    cases hb
  · rintro ⟨r, hr, -⟩
    rw [hraises] at hr
    cases hr

end CustomerZero

end AnnyRuntime
