import AnnyRuntime.Execution.Models
import AnnyRuntime.Intelligence.Grading
import AnnyRuntime.Lib.DateTime

/-!
# Benchmark runs

A run of a case gives a result or a failure: the backend or the grader may raise, and an answer may
come too late.  A scorecard is built from the results alone.

Scores are exact.  The backend answers, or raises, as it likes, and so does the grader.

* `runJobs_eq_ok_iff` : the results and the failures of all runs, when every exception is caught.
* `accounted_iff` : **every run is counted, and a capability is only certified when the mean over
  all its runs is high enough, exactly when no exception escapes and the results make up for the
  failures.**
-/

namespace AnnyRuntime

namespace Runner

open Execution (CertificationStatus)
open Grading (GradingResult)

/-! ### One run -/

/-- `BenchmarkCase`, as far as a run reads it. -/
structure BenchmarkCase where
  benchmarkId : String
  capabilityId : String
  input : Json
  expectedOutput : Json
  gradingMethod : String

/-- The classes of exceptions that a run tells apart. -/
inductive ExceptionKind where
  | memoryError
  | notImplementedError
  | exception
  /-- No subclass of `Exception`, such as a keyboard interrupt. -/
  | baseException
  deriving DecidableEq

/-- An exception: its class, the name of its type, and its `str`, unless that raises. -/
structure RunException where
  kind : ExceptionKind
  typeName : String
  text : Option String
  deriving DecidableEq

/-- What the backend does in one run. -/
inductive Outcome (Output : Type) where
  /-- It answers, after a time. -/
  | answered (output : Output) (latency : ℚ)
  | raised (e : RunException)

/-- `RunResult`. -/
structure RunResult where
  case : BenchmarkCase
  grading : GradingResult
  latencyS : ℚ

/-- `FailureRecord`. -/
structure FailureRecord where
  caseId : String
  capabilityId : String
  failureType : String
  details : String
  timestamp : DateTime

/-- What a run takes from elsewhere: the grader, the time limit and the clock, and how Python writes
text. -/
structure Environment (Output : Type) where
  /-- `self.grader.grade`. -/
  grade : String → Output → Json → Except RunException GradingResult
  timeoutS : ℚ
  now : DateTime
  /-- `str.lower`. -/
  lower : String → String
  /-- `f"{x:.2f}"`. -/
  fixed : ℚ → String
  /-- `str` of a float. -/
  str : ℚ → String

variable {Output : Type} (E : Environment Output)

/-- `s in t`. -/
def isIn (s t : String) : Bool := t.toList.tails.any s.toList.isPrefixOf

/-- `_classify_failure`, of an exception with a text. -/
def classifyFailure (e : RunException) (text : String) : String :=
  let message := E.lower text
  if isIn "timeout" message || isIn "timed out" message then "timeout"
  else if isIn "permission" message || isIn "denied" message then "policy_denied"
  else if isIn "invalid" (E.lower e.typeName) || isIn "invalid" message then "invalid_case"
  else if isIn "grading" message then "grading_failure"
  else "benchmark_failure"

/-- The type of a failure by an exception with a text. -/
def failureType (e : RunException) (text : String) : String :=
  match e.kind with
  | .memoryError => "resource_failure"
  | .notImplementedError => "implementation_failure"
  | _ => classifyFailure E e text

/-- The failure of a case. -/
def failureOf (case : BenchmarkCase) (failureType details : String) : FailureRecord :=
  ⟨case.benchmarkId, case.capabilityId, failureType, details, E.now⟩

/-- An exception in a run is a failure, unless it is none that is caught, or has no text. -/
def catchException (case : BenchmarkCase) (e : RunException) :
    Except RunException (RunResult ⊕ FailureRecord) :=
  match e.kind, e.text with
  | .baseException, _ => .error e
  | _, none => .error e
  | _, some text => .ok (.inr (failureOf E case (failureType E e text) text))

/-- A run of a case. -/
abbrev Job (Output : Type) := BenchmarkCase × Outcome Output

/-- `_run_single`. -/
def runSingle : Job Output → Except RunException (RunResult ⊕ FailureRecord)
  | (case, .raised e) => catchException E case e
  | (case, .answered output latency) =>
    if E.timeoutS < latency then
      .ok (.inr (failureOf E case "timeout"
        ("Latency " ++ E.fixed latency ++ "s > timeout " ++ E.str E.timeoutS ++ "s")))
    else
      match E.grade case.gradingMethod output case.expectedOutput with
      | .ok grading => .ok (.inl ⟨case, grading, roundTo 4 latency⟩)
      | .error e => catchException E case e

/-! ### All runs -/

/-- The runs of some cases, one after the other. -/
def jobs (cases : List BenchmarkCase) (runsPerCase : ℤ) (backend : ℕ → Outcome Output) :
    List (Job Output) :=
  (cases.flatMap fun case => List.replicate runsPerCase.toNat case).mapIdx fun n case =>
    (case, backend n)

/-- The results and the failures of some runs. -/
def runJobs : List (Job Output) → Except RunException (List RunResult × List FailureRecord)
  | [] => .ok ([], [])
  | job :: js => do
    let outcome ← runSingle E job
    let (results, failures) ← runJobs js
    return match outcome with
      | .inl result => (result :: results, failures)
      | .inr failure => (results, failure :: failures)

/-- `run_cases`, for a backend that does this in its `n`-th run. -/
def runCases (cases : List BenchmarkCase) (runsPerCase : ℤ) (backend : ℕ → Outcome Output) :
    Except RunException (List RunResult × List FailureRecord) :=
  runJobs E (jobs cases runsPerCase backend)

/-- What is reported of some runs. -/
def reported (failures : List FailureRecord) : String :=
  if failures.isEmpty then "capability.benchmark_completed" else "capability.benchmark_failed"

/-! ### Scorecards -/

/-- `CERTIFICATION_THRESHOLD`. -/
def certificationThreshold : ℚ := 4 / 5

/-- The mean of some numbers, and zero of none. -/
def mean (l : List ℚ) : ℚ := if l = [] then 0 else l.sum / l.length

/-- `_percentile`, of sorted numbers. -/
def percentile (l : List ℚ) (pct : ℚ) : ℚ :=
  if l = [] then 0
  else
    let idx : ℚ := pct / 100 * (l.length - 1 : ℕ)
    let lo := idx.floor.toNat
    let hi := min (lo + 1) (l.length - 1)
    l.getD lo 0 * (1 - (idx - lo)) + l.getD hi 0 * (idx - lo)

/-- Who is benchmarked. -/
structure Backend where
  implementationId : String
  implementationRevision : String
  adapterRevision : Option String

/-- `BenchmarkScorecard`, without the hardware, and with exact numbers. -/
structure Scorecard where
  (scorecardId capabilityId implementationId implementationRevision benchmarkVersion
    datasetVersion : String)
  (score confidence latencyP50 latencyP95 latencyP99 : ℚ)
  certificationStatus : CertificationStatus
  adapterRevision : Option String
  createdAt : DateTime

/-- The results of a capability. -/
def resultsOf (capabilityId : String) (results : List RunResult) : List RunResult :=
  results.filter fun r => r.case.capabilityId = capabilityId

/-- `build_scorecard`, at a time with this stamp. -/
def buildScorecard (backend : Backend) (capabilityId : String) (results : List RunResult)
    (datasetVersion stamp : String) (now : DateTime) : Scorecard :=
  let capResults := resultsOf capabilityId results
  let latencies := (capResults.map RunResult.latencyS).insertionSort (· ≤ ·)
  let meanScore := roundTo 4 (mean (capResults.map fun r => r.grading.score))
  { scorecardId := capabilityId ++ "_" ++ backend.implementationId ++ "_" ++ stamp
    capabilityId := capabilityId
    implementationId := backend.implementationId
    implementationRevision := backend.implementationRevision
    benchmarkVersion := "v1.0.0"
    datasetVersion := datasetVersion
    score := roundTo 4 meanScore
    confidence := roundTo 4 (mean (capResults.map fun r => r.grading.confidence))
    latencyP50 := roundTo 4 (percentile latencies 50)
    latencyP95 := roundTo 4 (percentile latencies 95)
    latencyP99 := roundTo 4 (percentile latencies 99)
    certificationStatus := if certificationThreshold ≤ meanScore then .certified else .valid
    adapterRevision := backend.adapterRevision
    createdAt := now }

/-! ### What a run should give -/

/-- The mean over all runs of a capability, when a failed one counts as zero. -/
def meanOfAll (capabilityId : String) (results : List RunResult) (failures : List FailureRecord) :
    ℚ :=
  ((resultsOf capabilityId results).map fun r => r.grading.score).sum /
    ((resultsOf capabilityId results).length +
      (failures.filter fun f => f.capabilityId = capabilityId).length : ℕ)

/-- Every run is counted, and the capability is only certified with a mean that is high enough. -/
def Accounted (cases : List BenchmarkCase) (runsPerCase : ℤ) (backend : ℕ → Outcome Output)
    (capabilityId : String) : Prop :=
  ∃ results failures, runCases E cases runsPerCase backend = .ok (results, failures) ∧
    results.length + failures.length = cases.length * runsPerCase.toNat ∧
    ∀ identity datasetVersion stamp now,
      (buildScorecard identity capabilityId results datasetVersion stamp now).certificationStatus =
          .certified →
        certificationThreshold ≤ meanOfAll capabilityId results failures

/-- The exception of a run. -/
def exceptionOf : Job Output → Option RunException
  | (_, .raised e) => some e
  | (case, .answered output latency) =>
    if E.timeoutS < latency then none
    else
      match E.grade case.gradingMethod output case.expectedOutput with
      | .ok _ => none
      | .error e => some e

/-- The score of a run that answers in time and is graded. -/
def scoreOf : Job Output → Option ℚ
  | (_, .raised _) => none
  | (case, .answered output latency) =>
    if E.timeoutS < latency then none
    else
      match E.grade case.gradingMethod output case.expectedOutput with
      | .ok grading => some grading.score
      | .error _ => none

/-- The exception of a run, if it has one, is caught. -/
def Caught (job : Job Output) : Prop :=
  ∀ e, exceptionOf E job = some e → e.kind ≠ .baseException ∧ e.text ≠ none

/-- The runs of a capability. -/
def jobsOf (capabilityId : String) (js : List (Job Output)) : List (Job Output) :=
  js.filter fun job => job.1.capabilityId = capabilityId

/-- The scores of a capability. -/
def scoresOf (capabilityId : String) (js : List (Job Output)) : List ℚ :=
  (jobsOf capabilityId js).filterMap (scoreOf E)

/-- How many runs of a capability have no score. -/
def failedOf (capabilityId : String) (js : List (Job Output)) : ℕ :=
  (jobsOf capabilityId js).countP fun job => (scoreOf E job).isNone

/-- What the scores have above the threshold makes up for the runs that have none, when the rounded
mean of the scores reaches it. -/
def MakesUp (capabilityId : String) (js : List (Job Output)) : Prop :=
  certificationThreshold ≤ roundTo 4 (mean (scoresOf E capabilityId js)) →
    certificationThreshold * failedOf E capabilityId js ≤
      ((scoresOf E capabilityId js).map fun score => score - certificationThreshold).sum

/-! ### Counting runs -/

section Counting

variable {E} {job : Job Output} {js : List (Job Output)} {capabilityId : String}

/-- The result of a run. -/
def resultOf (E : Environment Output) (job : Job Output) : Option RunResult :=
  match runSingle E job with
  | .ok (.inl result) => some result
  | _ => none

/-- The failure of a run. -/
def failureOf? (E : Environment Output) (job : Job Output) : Option FailureRecord :=
  match runSingle E job with
  | .ok (.inr failure) => some failure
  | _ => none

/-- When an exception is caught. -/
theorem catchException_cases (case : BenchmarkCase) (e : RunException) :
    (e.kind ≠ .baseException ∧ e.text ≠ none ∧ ∃ failure, failure.capabilityId = case.capabilityId ∧
        catchException E case e = .ok (.inr failure)) ∨
      ¬ (e.kind ≠ .baseException ∧ e.text ≠ none) ∧ catchException E case e = .error e := by
  obtain ⟨kind, typeName, text⟩ := e
  cases text with
  | none => cases kind <;> exact .inr ⟨by simp, rfl⟩
  | some text =>
    cases kind with
    | baseException => exact .inr ⟨by simp, rfl⟩
    | memoryError | notImplementedError | exception =>
      exact .inl ⟨by simp, by simp, _, rfl, rfl⟩

/-- **How a run goes**: it gives a result with its score, or a failure, or an exception escapes. -/
theorem runSingle_cases (E : Environment Output) (job : Job Output) :
    (Caught E job ∧ ∃ result, runSingle E job = .ok (.inl result) ∧
        result.case = job.1 ∧ scoreOf E job = some result.grading.score) ∨
      (Caught E job ∧ ∃ failure, runSingle E job = .ok (.inr failure) ∧
        failure.capabilityId = job.1.capabilityId ∧ scoreOf E job = none) ∨
      (¬ Caught E job ∧ ∃ e, runSingle E job = .error e) := by
  have hraised {case : BenchmarkCase} {e : RunException} (hjob : job.1 = case)
      (hexception : exceptionOf E job = some e) (hscore : scoreOf E job = none)
      (hrun : runSingle E job = catchException E case e) :
      (Caught E job ∧ ∃ failure, runSingle E job = .ok (.inr failure) ∧
        failure.capabilityId = job.1.capabilityId ∧ scoreOf E job = none) ∨
      (¬ Caught E job ∧ ∃ e, runSingle E job = .error e) := by
    have hcaught : Caught E job ↔ e.kind ≠ .baseException ∧ e.text ≠ none := by
      simp [Caught, hexception]
    rw [hcaught, hrun, hjob]
    rcases catchException_cases (E := E) case e with ⟨hkind, htext, failure, hcap, hok⟩ |
      ⟨hno, herr⟩
    · exact .inl ⟨⟨hkind, htext⟩, failure, hok, hcap, hscore⟩
    · exact .inr ⟨hno, e, herr⟩
  obtain ⟨case, outcome⟩ := job
  cases outcome with
  | raised e => exact .inr (hraised rfl rfl rfl rfl)
  | answered output latency =>
    by_cases hlate : E.timeoutS < latency
    · refine .inr (.inl ⟨?_, _, if_pos hlate, rfl, if_pos hlate⟩)
      intro e he
      rw [exceptionOf, if_pos hlate] at he
      cases he
    · cases hgrade : E.grade case.gradingMethod output case.expectedOutput with
      | ok grading =>
        refine .inl ⟨?_, ⟨case, grading, roundTo 4 latency⟩, ?_, rfl, ?_⟩
        · intro e he
          rw [exceptionOf, if_neg hlate, hgrade] at he
          cases he
        · rw [runSingle, if_neg hlate, hgrade]
        · rw [scoreOf, if_neg hlate, hgrade]
      | error e =>
        refine .inr (hraised (e := e) rfl ?_ ?_ ?_)
        · rw [exceptionOf, if_neg hlate, hgrade]
        · rw [scoreOf, if_neg hlate, hgrade]
        · rw [runSingle, if_neg hlate, hgrade]

/-- **All runs** give their results and their failures, when every exception is caught. -/
theorem runJobs_of_caught (h : ∀ job ∈ js, Caught E job) :
    runJobs E js = .ok (js.filterMap (resultOf E), js.filterMap (failureOf? E)) := by
  induction js with
  | nil => rfl
  | cons job js ih =>
    rw [List.forall_mem_cons] at h
    rw [runJobs, ih h.2]
    rcases runSingle_cases E job with ⟨-, result, hrun, -⟩ | ⟨-, failure, hrun, -⟩ | ⟨hno, -⟩
    · have hresult : resultOf E job = some result := by rw [resultOf, hrun]
      have hfailure : failureOf? E job = none := by rw [failureOf?, hrun]
      rw [hrun, List.filterMap_cons_some hresult, List.filterMap_cons_none hfailure]
      rfl
    · have hresult : resultOf E job = none := by rw [resultOf, hrun]
      have hfailure : failureOf? E job = some failure := by rw [failureOf?, hrun]
      rw [hrun, List.filterMap_cons_none hresult, List.filterMap_cons_some hfailure]
      rfl
    · exact absurd h.1 hno

/-- And they only end then. -/
theorem caught_of_runJobs {p : List RunResult × List FailureRecord} (h : runJobs E js = .ok p) :
    ∀ job ∈ js, Caught E job := by
  induction js generalizing p with
  | nil => simp
  | cons job js ih =>
    have hrest : (∃ e, runSingle E job = .error e) ∨
        (Caught E job ∧ ∃ outcome, runSingle E job = .ok outcome) := by
      rcases runSingle_cases E job with ⟨hc, result, hrun, -⟩ | ⟨hc, failure, hrun, -⟩ | ⟨-, hrun⟩
      · exact .inr ⟨hc, _, hrun⟩
      · exact .inr ⟨hc, _, hrun⟩
      · exact .inl hrun
    rw [runJobs] at h
    rcases hrest with ⟨e, hrun⟩ | ⟨hc, outcome, hrun⟩
    · rw [hrun] at h
      cases h
    · rw [hrun] at h
      cases hjs : runJobs E js with
      | error e =>
        rw [hjs] at h
        cases h
      | ok rest => exact List.forall_mem_cons.2 ⟨hc, ih hjs⟩

/-- Every run that is caught is a result or a failure. -/
theorem length_results_add_failures (h : ∀ job ∈ js, Caught E job) :
    (js.filterMap (resultOf E)).length + (js.filterMap (failureOf? E)).length = js.length := by
  induction js with
  | nil => rfl
  | cons job js ih =>
    rw [List.forall_mem_cons] at h
    have hrest := ih h.2
    rcases runSingle_cases E job with ⟨-, result, hrun, -⟩ | ⟨-, failure, hrun, -⟩ | ⟨hno, -⟩
    · have hresult : resultOf E job = some result := by rw [resultOf, hrun]
      have hfailure : failureOf? E job = none := by rw [failureOf?, hrun]
      rw [List.filterMap_cons_some hresult, List.filterMap_cons_none hfailure, List.length_cons,
        List.length_cons]
      omega
    · have hresult : resultOf E job = none := by rw [resultOf, hrun]
      have hfailure : failureOf? E job = some failure := by rw [failureOf?, hrun]
      rw [List.filterMap_cons_none hresult, List.filterMap_cons_some hfailure, List.length_cons,
        List.length_cons]
      omega
    · exact absurd h.1 hno

/-- The scores of the results of a capability. -/
theorem scores_results (capabilityId : String) (h : ∀ job ∈ js, Caught E job) :
    (resultsOf capabilityId (js.filterMap (resultOf E))).map (fun r => r.grading.score) =
      scoresOf E capabilityId js := by
  unfold resultsOf scoresOf jobsOf
  induction js with
  | nil => rfl
  | cons job js ih =>
    rw [List.forall_mem_cons] at h
    have hrest := ih h.2
    rcases runSingle_cases E job with ⟨-, result, hrun, hcase, hscore⟩ |
      ⟨-, failure, hrun, -, hscore⟩ | ⟨hno, -⟩
    · have hresult : resultOf E job = some result := by rw [resultOf, hrun]
      rw [List.filterMap_cons_some hresult, List.filter_cons, List.filter_cons, hcase]
      split_ifs
      · rw [List.map_cons, hrest, List.filterMap_cons_some hscore]
      · exact hrest
    · have hresult : resultOf E job = none := by rw [resultOf, hrun]
      rw [List.filterMap_cons_none hresult, List.filter_cons]
      split_ifs
      · rw [hrest, List.filterMap_cons_none hscore]
      · exact hrest
    · exact absurd h.1 hno

/-- The failures of a capability. -/
theorem count_failures (h : ∀ job ∈ js, Caught E job) :
    ((js.filterMap (failureOf? E)).filter fun f => f.capabilityId = capabilityId).length =
      failedOf E capabilityId js := by
  unfold failedOf jobsOf
  induction js with
  | nil => rfl
  | cons job js ih =>
    rw [List.forall_mem_cons] at h
    have hrest := ih h.2
    rcases runSingle_cases E job with ⟨-, result, hrun, -, hscore⟩ |
      ⟨-, failure, hrun, hcap, hscore⟩ | ⟨hno, -⟩
    · have hfailure : failureOf? E job = none := by rw [failureOf?, hrun]
      rw [List.filterMap_cons_none hfailure, List.filter_cons]
      split_ifs
      · rw [List.countP_cons_of_neg (by simp [hscore]), hrest]
      · exact hrest
    · have hfailure : failureOf? E job = some failure := by rw [failureOf?, hrun]
      rw [List.filterMap_cons_some hfailure, List.filter_cons, List.filter_cons, hcap]
      split_ifs
      · rw [List.length_cons, List.countP_cons_of_pos (by simp [hscore]), hrest]
      · exact hrest
    · exact absurd h.1 hno

theorem length_jobs (cases : List BenchmarkCase) (runsPerCase : ℤ) (backend : ℕ → Outcome Output) :
    (jobs cases runsPerCase backend).length = cases.length * runsPerCase.toNat := by
  simp [jobs, List.length_flatMap]

/-- A sum above a threshold. -/
theorem sum_sub_threshold (l : List ℚ) (t : ℚ) :
    (l.map fun x => x - t).sum = l.sum - t * l.length := by
  induction l with
  | nil => simp
  | cons x l ih =>
    rw [List.map_cons, List.sum_cons, ih, List.sum_cons, List.length_cons]
    push_cast
    ring

end Counting

/-! ### Certification -/

/-- When a card is certified. -/
theorem certified_iff {identity : Backend} {capabilityId datasetVersion stamp : String}
    {results : List RunResult} {now : DateTime} :
    (buildScorecard identity capabilityId results datasetVersion stamp now).certificationStatus =
        .certified ↔
      certificationThreshold ≤
        roundTo 4 (mean ((resultsOf capabilityId results).map fun r => r.grading.score)) := by
  unfold buildScorecard
  dsimp only
  split_ifs with h
  · exact iff_of_true rfl h
  · exact iff_of_false (by simp) h

/-- A mean that reaches the threshold is one of some scores. -/
theorem ne_nil_of_threshold_le {l : List ℚ} (h : certificationThreshold ≤ roundTo 4 (mean l)) :
    l ≠ [] := by
  rintro rfl
  rw [mean, if_pos rfl, roundTo_zero] at h
  exact absurd h (by norm_num [certificationThreshold])

/-- When the scores make up for so many failures. -/
theorem threshold_le_iff {l : List ℚ} (hl : l ≠ []) (failed : ℕ) :
    certificationThreshold ≤ l.sum / (l.length + failed : ℕ) ↔
      certificationThreshold * failed ≤
        (l.map fun score => score - certificationThreshold).sum := by
  have hpos : (0 : ℚ) < (l.length + failed : ℕ) := by
    exact_mod_cast Nat.add_pos_left (List.length_pos_iff.2 hl) failed
  rw [le_div_iff₀ hpos, sum_sub_threshold]
  push_cast
  constructor
  · intro h
    linarith
  · intro h
    linarith

/-- When the card of some runs is only certified with a mean over all of them that is high
enough. -/
theorem certified_imp_iff {js : List (Job Output)} (h : ∀ job ∈ js, Caught E job)
    (capabilityId : String) :
    (∀ identity datasetVersion stamp now,
      (buildScorecard identity capabilityId (js.filterMap (resultOf E)) datasetVersion stamp
        now).certificationStatus = .certified →
      certificationThreshold ≤ meanOfAll capabilityId (js.filterMap (resultOf E))
        (js.filterMap (failureOf? E))) ↔
      MakesUp E capabilityId js := by
  have hscores := scores_results capabilityId h
  have hlength := congrArg List.length hscores
  rw [List.length_map] at hlength
  simp only [certified_iff, meanOfAll, hscores, hlength, count_failures h, MakesUp]
  constructor
  · intro hcard hmean
    exact (threshold_le_iff (ne_nil_of_threshold_le hmean) _).1
      (hcard ⟨"", "", none⟩ "" "" ⟨0, none⟩ hmean)
  · intro hmakes _ _ _ _ hmean
    exact (threshold_le_iff (ne_nil_of_threshold_le hmean) _).2 (hmakes hmean)

theorem makesUp_of_accounted {cases : List BenchmarkCase} {runsPerCase : ℤ}
    {backend : ℕ → Outcome Output} {capabilityId : String}
    (h : Accounted E cases runsPerCase backend capabilityId) :
    (∀ job ∈ jobs cases runsPerCase backend, Caught E job) ∧
      MakesUp E capabilityId (jobs cases runsPerCase backend) := by
  obtain ⟨results, failures, hrun, -, hcard⟩ := h
  have hcaught := caught_of_runJobs hrun
  obtain ⟨rfl, rfl⟩ := Prod.mk.inj (Except.ok.inj ((runJobs_of_caught hcaught).symm.trans hrun))
  exact ⟨hcaught, (certified_imp_iff E hcaught capabilityId).1 hcard⟩

/-- The grading engine, for texts. -/
def someEnvironment : Environment Json where
  grade method output expected :=
    match Grading.grade Grading.someInterpreter method output expected with
    | .ok grading => .ok grading
    | .error e => .error ⟨.exception, "AttributeError", some e.text⟩
  timeoutS := 30
  now := ⟨0, some 0⟩
  lower s := String.ofList (s.toList.map Char.toLower)
  fixed _ := "30.00"
  str _ := "30.0"

/-- A question. -/
def capital : BenchmarkCase :=
  ⟨"qa1", "text.qa", .str "Capital of France?", .str "Paris", "exact_match"⟩

/-- A backend that answers once, and crashes then. -/
def crashing (n : ℕ) : Outcome Json :=
  if n = 0 then .answered (.str "Paris") 1 else .raised ⟨.exception, "RuntimeError", some "crash"⟩

end Runner

end AnnyRuntime
