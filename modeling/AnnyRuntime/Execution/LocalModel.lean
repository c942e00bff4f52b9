import AnnyRuntime.Execution.Capability
import AnnyRuntime.Execution.Output
import AnnyRuntime.Execution.Validator
import AnnyRuntime.Lib.Text

/-!
# The local model

`QwenModelExecutor` asks the model to classify a document (`ask`), cuts the JSON object out of its
answer (`extract`) and validates it (`answer`).  An answer that the validator refuses is returned
all the same, with the status `MODEL_OUTPUT_INVALID`, and `start_worker` does not look at the status
of what the executor returns: every output that fits the limit ends in a success.  So model output
is accepted only when it is valid exactly as long as it is not a refused one that fits
(`accepted_iff`).

The worker, its execution and the last event it emits agree however the execution ends (`agree`).
-/

namespace AnnyRuntime

namespace Execution

/-! ### The executor -/

/-- What the sampling of a model is told. -/
structure Sampling where
  (contextSize maxTokens temperature topP seed : Json)
  deriving DecidableEq

/-- The answer of the model: its text, and how many tokens went into it. -/
structure Completion where
  text : List Char
  (completionTokens promptTokens : ℤ)
  deriving DecidableEq

/-- The model behind the executor. -/
structure Backend extends Interpreter where
  /-- Loading the model and running it on a prompt. -/
  complete : String → Sampling → Except Raised Completion

/-- What an executor returns; the times and the memory that it measures are left out. -/
structure ModelResult where
  status : String
  resultData : Json
  (inputSize outputSize : ℕ)
  (inputTokens tokensGenerated : ℤ)
  resultHash : String
  sampling : Sampling
  deriving DecidableEq

namespace QwenModelExecutor

/-- `limits.get(key, default)`, for the constraints of a task. -/
def limit (task : Task) (key : String) (default : Json) : Json :=
  (Json.lookup key (task.constraints.getD [])).getD default

/-- The limit on the input. -/
def maxContext (task : Task) : Json := limit task "max_context" (.int 32000)

/-- The limit on the output. -/
def maxOutput (task : Task) : Json := limit task "max_output" (.int 4000)

theorem isFloatLit_temperature : isFloatLit ['0', '.', '0'] = true := by decide

/-- The float `0.0`. -/
def zero : PyFloat := .lit ⟨['0', '.', '0'], isFloatLit_temperature⟩

/-- The float `1.0`. -/
def one : PyFloat := .lit ⟨['1', '.', '0'], by decide⟩

/-- The sampling parameters of a task. -/
def sampling (task : Task) : Sampling where
  contextSize := maxContext task
  maxTokens := limit task "max_tokens" (maxOutput task)
  temperature := limit task "temperature" (.float zero)
  topP := limit task "top_p" (.float one)
  seed := limit task "seed" (.int 42)

/-- The size of the input as it is measured. -/
def inputSize (task : Task) : ℕ :=
  (Json.dumps (.obj [("input", .obj task.input), ("schema", .str "document.classify")])).length

/-- The prompt for a document. -/
def prompt (document : String) : String :=
  "<|im_start|>system\nYou are a strict classification AI. Output strictly valid JSON. Schema: " ++
  "\x7b\\\"class\\\": string, \\\"confidence\\\": float, \\\"reason_codes\\\": list[string]\x7d. " ++
  "The \\\"class\\\" MUST be one of: [\"confidential\", \"public\", \"internal\", " ++
  "\"restricted\"].<|im_end|>\n<|im_start|>user\nClassify this document: " ++ document ++
  "<|im_end|>\n<|im_start|>assistant\n\x7b"

/-- The executor up to the answer of the model. -/
def ask (b : Backend) (capability : CapabilityDefinition) (task : Task) :
    Except Raised Completion := do
  Guard.ensure (capability.networkPolicy = "disabled")
    (.security "Local model requires disabled network policy")
  let tooLong ← exceeds b.arith (inputSize task) (maxContext task)
  Guard.ensure (tooLong = false) (.limits "Input exceeds max_context")
  b.complete (prompt (b.str ((Json.lookup "text" task.input).getD (.str "")))) (sampling task)

/-- `text[:text.find(p)]`, or the whole text where `p` does not occur. -/
def before (p : List Char) : List Char → List Char
  | [] => []
  | c :: cs => if p.isPrefixOf (c :: cs) then [] else c :: before p cs

/-- `text[:text.rfind(c) + 1]`, or the whole text where `c` does not occur. -/
def upToLast (c : Char) (cs : List Char) : List Char :=
  if c ∈ cs then (cs.reverse.dropWhile fun d => d ≠ c).reverse else cs

/-- The end of the reasoning of a model. -/
def thinkTag : List Char := ['<', '/', 't', 'h', 'i', 'n', 'k', '>']

/-- The output that is cut out of an answer. -/
def extract (answer : List Char) : List Char :=
  upToLast '}' (before thinkTag ('{' :: answer))

/-- The size of an output. -/
def outputSize (output : List Char) : ℕ := (Text.bytes output).length

/-- The result of an execution. -/
def result (b : Backend) (task : Task) (reply : Completion) (status : String) (data : Json) :
    ModelResult where
  status := status
  resultData := data
  inputSize := inputSize task
  outputSize := outputSize (extract reply.text)
  inputTokens := reply.promptTokens
  tokensGenerated := reply.completionTokens
  resultHash := b.resultHash data
  sampling := sampling task

/-- What the executor returns for a validation: a refused output is a result like any other. -/
def returned (b : Backend) (task : Task) (reply : Completion) :
    Except ValidationError Json → Except Raised ModelResult
  | .ok data => .ok (result b task reply "SUCCEEDED" data)
  | .error (.modelOutputInvalid m) => .ok (result b task reply "MODEL_OUTPUT_INVALID"
      (.obj [("error", .str m), ("raw", .str (String.ofList (extract reply.text)))]))
  | .error (.other m) => .error (.other m)

open ModelResultValidator in
/-- The executor after the answer of the model. -/
def answer (b : Backend) (task : Task) (reply : Completion) : Except Raised ModelResult := do
  let output := extract reply.text
  let tooLong ← exceeds b.arith (outputSize output) (maxOutput task)
  Guard.ensure (tooLong = false) (.limits "Output exceeds max_output")
  returned b task reply (validateDocumentClassification b.toInterpreter output)

/-- `execute`. -/
def execute (b : Backend) (capability : CapabilityDefinition) (task : Task) :
    Except Raised ModelResult := do
  answer b task (← ask b capability task)

end QwenModelExecutor

/-- A worker that finds the artifact of the model. -/
def World.withModel (w : World) (b : Backend) (capability : CapabilityDefinition) (task : Task) :
    World :=
  { w with localModel := some ((QwenModelExecutor.execute b capability task).map fun r =>
      (r.resultData, some r.resultHash)) }

/-! ### Telemetry -/

/-- An event that a worker emits, with its state at that moment. -/
structure WorkerEvent where
  eventType : String
  status : WorkerState
  metadata : List (String × Json)
  deriving DecidableEq

/-- The telemetry of an inference. -/
def ModelResult.telemetry (r : ModelResult) : List (String × Json) :=
  [("input_size_bytes", .int r.inputSize), ("input_tokens", .int r.inputTokens),
    ("tokens_generated", .int r.tokensGenerated), ("output_size_bytes", .int r.outputSize),
    ("result_hash", .str r.resultHash),
    ("sampling", .obj [("temperature", r.sampling.temperature), ("top_p", r.sampling.topP),
      ("max_tokens", r.sampling.maxTokens), ("seed", r.sampling.seed),
      ("context_size", r.sampling.contextSize)])]

/-- The event at the end of the body of `start_worker`. -/
def endEvent (c : TaskExecutionContext) : WorkerEvent :=
  match c.status with
  | .succeeded =>
    ⟨"execution.completed", .succeeded, [("result_hash", Json.ofOptString c.resultHash)]⟩
  | .timedOut => ⟨"execution.timeout", .timedOut, []⟩
  | .limitExceeded =>
    ⟨"execution.blocked", .limitExceeded, [("exit_code", .str "LIMIT_EXCEEDED")]⟩
  | _ =>
    ⟨"execution.failed", .failed,
      [("exit_code", .str ((c.failureReason.map FailureReason.value).getD "UNKNOWN"))]⟩

/-- The event of an exception. -/
def raisedEvent : Raised → WorkerEvent
  | .timeout _ => ⟨"execution.timeout", .timedOut, []⟩
  | .limits _ => ⟨"execution.blocked", .limitExceeded, [("exit_code", .str "LIMIT_EXCEEDED")]⟩
  | .security _ => ⟨"execution.blocked", .failed, [("exit_code", .str "SECURITY_ERROR")]⟩
  | .other m =>
    ⟨"execution.failed", .failed, [("exit_code", .str "CRASH"), ("reason", .str m)]⟩

/-- A worker without a model, or of an executor that is not supported. -/
def classification (worker : WorkerDefinition) : String :=
  if worker.executorType = "LOCAL_MODEL" ∨ worker.executorType = "REMOTE_MODEL" ∨
    worker.executorType = "FRONTIER_MODEL"
  then "UNAVAILABLE" else "UNSUPPORTED_EXECUTOR"

/-- The event of an inference that returned. -/
def inferenceEvents (telemetry : List (String × Json)) (worker : WorkerDefinition) :
    List WorkerEvent :=
  if worker.executorType = "LOCAL_MODEL" then [⟨"inference_completed", .running, telemetry⟩]
  else if worker.executorType = "REMOTE_MODEL" ∨ worker.executorType = "FRONTIER_MODEL" then
    [⟨"inference_completed", .running, [("executor", .str "frontier")]⟩]
  else []

/-- The events of `start_worker`. -/
def workerEvents (w : World) (telemetry : List (String × Json)) (worker : WorkerDefinition)
    (task : Task) (c : TaskExecutionContext) : List WorkerEvent :=
  let ran := runWorker w worker task c
  ⟨"execution.started", .running, []⟩ ::
    match ran.2 with
    | some r => [raisedEvent r]
    | none =>
      if returnsEarly w worker then
        [⟨"execution.failed", .failed, [("classification", .str (classification worker))]⟩]
      else inferenceEvents telemetry worker ++ [endEvent ran.1]

/-- **Worker, execution and telemetry agree.** -/
structure Agree (c : TaskExecutionContext) (worker : WorkerDefinition) (events : List WorkerEvent) :
    Prop where
  state : worker.state = workerStateOf c.status
  last : ∃ e, events.getLast? = some e ∧ e.status = worker.state
  completed : (∃ e ∈ events, e.eventType = "execution.completed") ↔ c.status = .succeeded

theorem status_endEvent (c : TaskExecutionContext) :
    (endEvent c).status = workerStateOf c.status := by
  unfold endEvent
  cases c.status <;> rfl

theorem endEvent_completed_iff (c : TaskExecutionContext) :
    (endEvent c).eventType = "execution.completed" ↔ c.status = .succeeded := by
  unfold endEvent
  cases c.status <;> simp

theorem status_raisedEvent (c : TaskExecutionContext) (r : Raised) :
    (raisedEvent r).status = workerStateOf (handle c r).status := by
  cases r <;> rfl

theorem raisedEvent_not_completed (r : Raised) :
    (raisedEvent r).eventType ≠ "execution.completed" := by
  cases r <;> simp [raisedEvent]

theorem inferenceEvents_not_completed (telemetry : List (String × Json))
    (worker : WorkerDefinition) :
    ∀ e ∈ inferenceEvents telemetry worker, e.eventType ≠ "execution.completed" := by
  intro e he
  unfold inferenceEvents at he
  split_ifs at he <;> simp_all

/-- An early return leaves a failure. -/
theorem runWorker_of_returnsEarly {w : World} {worker : WorkerDefinition} {task : Task}
    {c : TaskExecutionContext} (h : returnsEarly w worker = true) :
    (runWorker w worker task c).1.status = .failed := by
  unfold returnsEarly at h
  rw [Bool.and_eq_true, Bool.not_eq_true'] at h
  obtain ⟨hlate, h⟩ := h
  unfold runWorker
  rw [if_neg (by simp [hlate])]
  split_ifs at h ⊢ with hdet hlocal hfrontier
  · have hnone : w.localModel = none := Option.isNone_iff_eq_none.1 h
    rw [executeLocal, hnone]
    rfl
  · have hnone : w.frontier = none := Option.isNone_iff_eq_none.1 h
    rw [executeFrontier, hnone]
    rfl
  · rfl

/-- **However an execution ends**, its worker and the events of its worker say the same. -/
theorem agree {w : World} (telemetry : List (String × Json)) {worker worker' : WorkerDefinition}
    {task : Task} {c c' : TaskExecutionContext}
    (h : startWorker w worker task c = some (c', worker')) :
    Agree c' worker' (workerEvents w telemetry worker task c) := by
  obtain ⟨-, rfl, rfl⟩ := startWorker_eq_some.1 h
  refine ⟨rfl, ?_, ?_⟩
  · unfold workerEvents endContext
    dsimp only
    cases hran : (runWorker w worker task c).2 with
    | some r => exact ⟨raisedEvent r, rfl, status_raisedEvent _ r⟩
    | none =>
      by_cases hearly : returnsEarly w worker = true
      · refine ⟨_, by rw [if_pos hearly]; rfl, ?_⟩
        change _ = workerStateOf _
        rw [runWorker_of_returnsEarly hearly]
        rfl
      · refine ⟨endEvent (runWorker w worker task c).1, ?_, status_endEvent _⟩
        rw [if_neg hearly, ← List.cons_append, List.getLast?_concat]
  · unfold workerEvents endContext
    dsimp only
    cases hran : (runWorker w worker task c).2 with
    | some r =>
      have hstatus : (handle (runWorker w worker task c).1 r).status ≠ .succeeded := by
        cases r <;> simp [handle, TaskExecutionContext.fail]
      simp [raisedEvent_not_completed, hstatus]
    | none =>
      by_cases hearly : returnsEarly w worker = true
      · simp [hearly, runWorker_of_returnsEarly hearly]
      · rw [if_neg hearly, ← endEvent_completed_iff]
        constructor
        · rintro ⟨e, he, htype⟩
          rcases List.mem_cons.1 he with rfl | he
          · exact absurd htype (by decide)
          · rcases List.mem_append.1 he with he | he
            · exact absurd htype (inferenceEvents_not_completed telemetry worker e he)
            · exact List.mem_singleton.1 he ▸ htype
        · intro htype
          exact ⟨_, List.mem_cons_of_mem _ (List.mem_append_right _ (List.mem_singleton_self _)),
            htype⟩

/-! ### Accepting model output -/

open ModelResultValidator QwenModelExecutor

/-- An output is within the limit, which has to be a number. -/
def WithinOutput (b : Backend) (task : Task) (output : List Char) : Prop :=
  exceeds b.arith (outputSize output) (maxOutput task) = .ok false

/-- **Model output is only accepted when valid.**  The execution succeeds exactly when the output
is within the limit and valid, its result is the validated object then, it fails or exceeds a limit
otherwise, and worker, execution and telemetry agree. -/
structure Accepted (b : Backend) (task : Task) (output : List Char) (c : TaskExecutionContext)
    (worker : WorkerDefinition) (events : List WorkerEvent) : Prop where
  succeeded : c.status = .succeeded ↔ WithinOutput b task output ∧
    ∃ v, validateDocumentClassification b.toInterpreter output = .ok v
  result : c.status = .succeeded →
    ∃ v, validateDocumentClassification b.toInterpreter output = .ok v ∧ c.result = some v
  otherwise : c.status ≠ .succeeded → c.status = .failed ∨ c.status = .limitExceeded
  agree : Agree c worker events

/-- The telemetry of an execution of the model. -/
def telemetryOf (b : Backend) (capability : CapabilityDefinition) (task : Task) :
    List (String × Json) :=
  match execute b capability task with
  | .ok r => r.telemetry
  | .error _ => []

variable {b : Backend} {capability : CapabilityDefinition} {task : Task} {reply : Completion}

theorem execute_of_ask (h : ask b capability task = .ok reply) :
    execute b capability task = answer b task reply := by
  rw [execute, h]
  rfl

/-- An output over the limit, or a limit that is no number. -/
theorem answer_of_not_within (h : ¬ WithinOutput b task (extract reply.text)) :
    ∃ r, answer b task reply = .error r ∧
      ((∃ m, r = .limits m) ∨ ∃ m, r = .other m) := by
  unfold WithinOutput exceeds at h
  unfold answer exceeds
  cases hn : (maxOutput task).number? with
  | none => exact ⟨_, rfl, .inr ⟨_, rfl⟩⟩
  | some n =>
    rw [hn] at h
    have hlt : PyNumber.lt b.arith n (.int (outputSize (extract reply.text))) = true := by
      by_contra hne
      exact h (by rw [Bool.not_eq_true] at hne; simp only [hne])
    refine ⟨.limits "Output exceeds max_output", ?_, .inl ⟨_, rfl⟩⟩
    simp only [hlt]
    rfl

/-- An output within the limit is validated. -/
theorem answer_of_within (h : WithinOutput b task (extract reply.text)) :
    answer b task reply = returned b task reply
      (validateDocumentClassification b.toInterpreter (extract reply.text)) := by
  unfold WithinOutput at h
  unfold answer
  simp only [h]
  rfl

variable {w : World} {worker worker' : WorkerDefinition} {c c' : TaskExecutionContext}

theorem runWorker_withModel (hroute : worker.executorType = "LOCAL_MODEL")
    (hlate : w.late = false) :
    runWorker (w.withModel b capability task) worker task c =
      executeLocal (w.withModel b capability task) c := by
  unfold runWorker
  rw [if_neg (by simp [World.withModel, hlate]), if_neg (by simp [hroute]), if_pos hroute]

/-- Whatever the executor returns is a success. -/
theorem endContext_of_ok {r : ModelResult} (hroute : worker.executorType = "LOCAL_MODEL")
    (hlate : w.late = false) (h : execute b capability task = .ok r) :
    (endContext (w.withModel b capability task) worker task c).status = .succeeded ∧
      (endContext (w.withModel b capability task) worker task c).result = some r.resultData := by
  rw [endContext, runWorker_withModel hroute hlate, executeLocal, World.withModel, h]
  exact ⟨rfl, rfl⟩

theorem endContext_of_error {r : Raised} (hroute : worker.executorType = "LOCAL_MODEL")
    (hlate : w.late = false) (h : execute b capability task = .error r) :
    endContext (w.withModel b capability task) worker task c = handle c r := by
  rw [endContext, runWorker_withModel hroute hlate, executeLocal, World.withModel, h]
  rfl

/-- The statuses that a limit, or an exception that nobody knows, ends in. -/
theorem status_handle_of_raised {r : Raised}
    (h : (∃ m, r = .limits m) ∨ ∃ m, r = .other m) :
    (handle c r).status ≠ .succeeded ∧
      ((handle c r).status = .failed ∨ (handle c r).status = .limitExceeded) := by
  rcases h with ⟨m, rfl⟩ | ⟨m, rfl⟩
  · exact ⟨by simp [handle, TaskExecutionContext.fail], .inr rfl⟩
  · exact ⟨by simp [handle, TaskExecutionContext.fail], .inl rfl⟩

/-- An output that ends in an exception other than that of the validator is not accepted, and
should not be. -/
theorem accepted_of_error {r : Raised} {output : List Char}
    (hroute : worker.executorType = "LOCAL_MODEL") (hlate : w.late = false)
    (hstart : startWorker (w.withModel b capability task) worker task c = some (c', worker'))
    (hexec : execute b capability task = .error r)
    (hraised : (∃ m, r = .limits m) ∨ ∃ m, r = .other m)
    (hbad : ¬ (WithinOutput b task output ∧
      ∃ v, validateDocumentClassification b.toInterpreter output = .ok v)) :
    Accepted b task output c' worker'
      (workerEvents (w.withModel b capability task) (telemetryOf b capability task) worker task
        c) := by
  obtain ⟨-, hc, -⟩ := startWorker_eq_some.1 hstart
  have hend := endContext_of_error (c := c) hroute hlate hexec
  obtain ⟨hne, hother⟩ := status_handle_of_raised (c := c) hraised
  rw [← hend, ← hc] at hne hother
  exact ⟨iff_of_false hne hbad, fun h => absurd h hne, fun _ => hother, agree _ hstart⟩

/-- **Accepting the output of a model.**  Once the model has answered, its output is accepted only
when valid if and only if it is not one that fits the limit and is refused by the validator. -/
theorem accepted_iff (hroute : worker.executorType = "LOCAL_MODEL") (hlate : w.late = false)
    (hask : ask b capability task = .ok reply)
    (hstart : startWorker (w.withModel b capability task) worker task c = some (c', worker')) :
    Accepted b task (extract reply.text) c' worker'
        (workerEvents (w.withModel b capability task) (telemetryOf b capability task) worker task
          c) ↔
      ¬ (WithinOutput b task (extract reply.text) ∧
        Invalid b.toInterpreter (extract reply.text)) := by
  obtain ⟨-, hc, -⟩ := startWorker_eq_some.1 hstart
  have hexec := execute_of_ask hask
  rw [← validate_eq_invalid_iff]
  by_cases hwithin : WithinOutput b task (extract reply.text)
  · rw [answer_of_within hwithin] at hexec
    cases hv : validateDocumentClassification b.toInterpreter (extract reply.text) with
    | ok v =>
      rw [hv] at hexec
      obtain ⟨hs, hr⟩ := endContext_of_ok (c := c) hroute hlate hexec
      rw [← hc] at hs hr
      refine iff_of_true ⟨?_, fun _ => ⟨v, hv, hr⟩, fun h => absurd hs h, agree _ hstart⟩ ?_
      · exact iff_of_true hs ⟨hwithin, v, hv⟩
      · rintro ⟨-, m, hm⟩
        exact nomatch hm
    | error e =>
      rw [hv] at hexec
      cases e with
      | modelOutputInvalid m =>
        -- the executor returns what the validator raised
        obtain ⟨hs, -⟩ := endContext_of_ok (c := c) hroute hlate hexec
        rw [← hc] at hs
        refine iff_of_false ?_ (not_not.2 ⟨hwithin, m, rfl⟩)
        intro haccepted
        obtain ⟨v, hv', -⟩ := haccepted.result hs
        rw [hv] at hv'
        exact nomatch hv'
      | other m =>
        refine iff_of_true (accepted_of_error hroute hlate hstart hexec (.inr ⟨m, rfl⟩) ?_) ?_
        · rintro ⟨-, v, hv'⟩
          rw [hv] at hv'
          exact nomatch hv'
        · rintro ⟨-, m', hm'⟩
          exact nomatch (Except.error.inj hm')
  · obtain ⟨r, hr, hraised⟩ := answer_of_not_within hwithin
    rw [hr] at hexec
    exact iff_of_true (accepted_of_error hroute hlate hstart hexec hraised fun h => hwithin h.1)
      fun h => hwithin h.1

/-- A model that answers every prompt with one text. -/
def answering (text : List Char) : Backend where
  arith := .overflowing
  str := Json.pyStr
  setText l := String.ofList (Json.dumps (Json.ofStrings l))
  decodeError _ := "Expecting value"
  loadsRaises _ := none
  resultHash j := String.ofList (Json.dumps j)
  complete _ _ := .ok ⟨text, 16, 64⟩

/-- The capability of the model. -/
def documentClassify : CapabilityDefinition :=
  CapabilityRegistry.initial "document.classify" "Document Classify" "Classifies a document." true
    .localModel "document" "read" false false

/-- A worker of the local model. -/
def modelWorker : WorkerDefinition := sampleWorker "document.classify" "LOCAL_MODEL"

/-- Its task. -/
def modelTask : Task := sampleTask "document.classify"

/-- Its world, when the model answers with a text. -/
def modelWorld (text : List Char) : World :=
  ({} : World).withModel (answering text) documentClassify modelTask

/-- Its execution after that. -/
def modelContext (text : List Char) : TaskExecutionContext :=
  endContext (modelWorld text) modelWorker modelTask (sampleContext "document.classify")

/-- Its events. -/
def modelEvents (text : List Char) : List WorkerEvent :=
  workerEvents (modelWorld text) (telemetryOf (answering text) documentClassify modelTask)
    modelWorker modelTask (sampleContext "document.classify")

/-- An object of a class, with full confidence. -/
def ofClass (cls : String) : List (String × Json) :=
  [("class", .str cls), ("confidence", .int 1), ("reason_codes", .arr [])]

/-- The answer of a model that makes up a class. -/
def unknownClass : List Char :=
  "\"class\": \"secret\", \"confidence\": 1, \"reason_codes\": []\x7d".toList

/-- The answer of a model that thinks on after a valid object. -/
def confidential : List Char :=
  ("\"class\": \"confidential\", \"confidence\": 1, \"reason_codes\": []\x7d" ++
    "</think> so it is\x7d").toList

theorem loads_unknownClass :
    Json.loads (extract unknownClass) = some (.obj (ofClass "secret")) := by
  rw [show extract unknownClass = Json.dumps (.obj (ofClass "secret")) by decide, Json.loads_dumps]

theorem loads_confidential :
    Json.loads (extract confidential) = some (.obj (ofClass "confidential")) := by
  rw [show extract confidential = Json.dumps (.obj (ofClass "confidential")) by decide,
    Json.loads_dumps]

theorem ask_answering (text : List Char) :
    ask (answering text) documentClassify modelTask = .ok ⟨text, 16, 64⟩ := by
  have hsize : exceeds (answering text).arith (inputSize modelTask) (maxContext modelTask) =
      .ok false := by
    rw [show maxContext modelTask = .int 32000 from rfl, exceeds_int]
    decide
  rw [ask, hsize]
  rfl

theorem invalid_unknownClass (text : List Char) :
    Invalid (answering text).toInterpreter (extract unknownClass) where
  read := rfl
  refused ms hms hc := by
    rw [loads_unknownClass] at hms
    obtain rfl : ofClass "secret" = ms := by simpa using hms
    obtain ⟨c, hc, hlookup⟩ := hc.cls
    have hsecret : Json.lookup "class" (ofClass "secret") = some (.str "secret") := by decide
    rw [hsecret, Option.some.injEq, Json.str.injEq] at hlookup
    subst hlookup
    exact absurd hc (by decide)

/-- **A refused output succeeds.** -/
theorem not_accepted_unknownClass :
    ¬ Accepted (answering unknownClass) modelTask (extract unknownClass)
      (modelContext unknownClass) (endWorker (modelWorld unknownClass) modelWorker
        (modelContext unknownClass).status) (modelEvents unknownClass) := by
  intro h
  obtain ⟨m, hm⟩ := validate_eq_invalid_iff.2 (invalid_unknownClass unknownClass)
  have hwithin : WithinOutput (answering unknownClass) modelTask (extract unknownClass) := by
    unfold WithinOutput
    rw [show maxOutput modelTask = .int 4000 from rfl, exceeds_int]
    decide
  have hexec : execute (answering unknownClass) documentClassify modelTask =
      returned (answering unknownClass) modelTask ⟨unknownClass, 16, 64⟩
        (.error (.modelOutputInvalid m)) := by
    rw [execute_of_ask (ask_answering unknownClass), ← hm]
    exact answer_of_within hwithin
  have hroute : modelWorker.executorType = "LOCAL_MODEL" := rfl
  have hs : (modelContext unknownClass).status = .succeeded :=
    (endContext_of_ok (w := {}) hroute rfl hexec).1
  obtain ⟨v, hv, -⟩ := h.result hs
  rw [hm] at hv
  exact nomatch hv

/-- A valid object is accepted, whatever the model thinks after it. -/
theorem accepted_confidential :
    Accepted (answering confidential) modelTask (extract confidential)
      (modelContext confidential) (endWorker (modelWorld confidential) modelWorker
        (modelContext confidential).status) (modelEvents confidential) := by
  have hroute : modelWorker.executorType = "LOCAL_MODEL" := rfl
  have hstart : startWorker (modelWorld confidential) modelWorker modelTask
      (sampleContext "document.classify") = some (modelContext confidential,
        endWorker (modelWorld confidential) modelWorker (modelContext confidential).status) :=
    startWorker_eq_some.2 ⟨rfl, rfl, rfl⟩
  refine (accepted_iff (w := {}) hroute rfl (ask_answering confidential) hstart).2 ?_
  rintro ⟨-, hinvalid⟩
  refine hinvalid.refused _ loads_confidential ⟨⟨"confidential", by decide, rfl⟩, ?_, [], rfl⟩
  exact ⟨.int 1, .int 1, rfl, rfl, by simp [PyNumber.le_int], by simp [PyNumber.le_int]⟩

end Execution

end AnnyRuntime
