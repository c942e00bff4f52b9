import AnnyRuntime.Json.Basic
import AnnyRuntime.Lib.Text
import Mathlib.Data.List.Infix

/-!
# The GitHub credential

The access token and the state of the credential are two files of the secret backend.  A poll of the
device flow stores a new token first and validates it then; a submitted token is validated first and
stored then.  Writing a file empties it first, and a crash can come after every change of a file.

* `atomic_iff` : a poll or a submission leaves the old credential in place whenever it does not end
  in success, and never has a state that speaks of another token, exactly when it stores no token.
* `failed_poll_deletes` : a poll whose new token is not accepted leaves no token at all.
-/

namespace AnnyRuntime

namespace GitHub

/-- A file of the secret backend.  One that was cut off cannot be decrypted. -/
inductive Secret (α : Type*) where
  | absent
  | unreadable
  | stored (a : α)
  deriving DecidableEq

/-- `GitHubCredentialState`. -/
structure GitHubCredentialState where
  principal : Json := .null
  authStatus : String := "UNAUTHORIZED"
  tokenStatus : String := "MISSING"
  tokenExpiry : Option String := none
  scopes : List String := []
  lastValidation : Option String := none
  lastFailure : Option String := none
  lastFailureReason : Option String := none
  deriving DecidableEq

/-- The two files. -/
structure Disk where
  token : Secret String
  state : Secret GitHubCredentialState
  deriving DecidableEq

/-- The files, and the scopes that GitHub has confirmed so far, with their tokens. -/
structure Moment where
  disk : Disk
  validated : List (String × List String)
  deriving DecidableEq

/-- How a write of a file goes. -/
inductive WriteOutcome where
  | done
  /-- The file is not opened. -/
  | refused
  /-- It fails when the file was emptied. -/
  | cut
  /-- It fails when the file was written. -/
  | late
  deriving DecidableEq

/-- What a file holds, one after the other, when a value is written to it. -/
def WriteOutcome.passes {α : Type*} (a : α) : WriteOutcome → List (Secret α)
  | .refused => []
  | .cut => [.unreadable]
  | .done | .late => [.unreadable, .stored a]

/-- `GitHubDeviceFlowState`: what a poll reads and changes of it.  Every time GitHub asks for it,
the interval is five seconds longer. -/
structure GitHubDeviceFlowState where
  deviceCode : String
  interval : Json
  slowDowns : ℕ := 0

/-- The manager and what is around it, with the moments of the call so far. -/
structure State where
  now : Moment
  memory : GitHubCredentialState
  flow : Option GitHubDeviceFlowState
  moments : List Moment

/-- An exception: what `urllib` raises for a status code, or another one, with its type and text. -/
inductive Failure where
  | http (code : ℤ)
  | other (type text : String)
  deriving DecidableEq

/-- What is from outside in a validation. -/
structure ValidateEnv where
  /-- The token file can be read. -/
  retrieved : Bool
  /-- The user that GitHub answers with, and the header with the scopes. -/
  answer : Except Failure (Json × String)
  saveWrite : WriteOutcome
  time : String

/-- What is from outside in a poll. -/
structure PollEnv where
  /-- The flow is older than it may be, unless the comparison raises. -/
  expired : Option Bool
  answer : Except Failure Json
  tokenWrite : WriteOutcome
  validation : ValidateEnv
  /-- The token file can be removed. -/
  deleted : Bool

/-- What is from outside in a submission. -/
structure SubmitEnv where
  answer : Except Failure (Json × String)
  tokenWrite : WriteOutcome
  /-- The type of the exception that a failing write raises. -/
  writeError : String
  saveWrite : WriteOutcome
  time : String

/-! ### The files -/

/-- The disk changes. -/
def State.become (s : State) (d : Disk) : State :=
  { s with
    now := { s.now with disk := d }
    moments := s.moments ++ [{ s.now with disk := d }] }

/-- The token file takes some values, one after the other. -/
def State.tokens (s : State) (slots : List (Secret String)) : State :=
  slots.foldl (fun s slot => s.become { s.now.disk with token := slot }) s

/-- The state file takes some values, one after the other. -/
def State.states (s : State) (slots : List (Secret GitHubCredentialState)) : State :=
  slots.foldl (fun s slot => s.become { s.now.disk with state := slot }) s

/-- `_save_state`, which raises nothing. -/
def saveState (w : WriteOutcome) (s : State) : State := s.states (w.passes s.memory)

/-! ### The calls -/

/-- `[s.strip() for s in header.split(',') if s.strip()]`. -/
def scopesOf (header : String) : List String :=
  (((header.toList.splitOn ',').map Text.strip).filter (· ≠ [])).map String.ofList

/-- `sorted(REQUIRED_GITHUB_SCOPES.difference(scopes))`. -/
def missingScopes (scopes : List String) : List String :=
  ["read:org", "repo"].filter (!scopes.contains ·)

/-- The type of a value, in a message. -/
def typeName : Json → String
  | .null => "NoneType"
  | .bool _ => "bool"
  | .int _ => "int"
  | .float _ => "float"
  | .str _ => "str"
  | .arr _ => "list"
  | .obj _ => "dict"

/-- What a failure of the validation makes of the state. -/
def GitHubCredentialState.failed (st : GitHubCredentialState) (f : Failure) (time : String) :
    GitHubCredentialState :=
  match f with
  | .http code =>
    { st with
      authStatus := if code = 401 then "EXPIRED" else "DEGRADED"
      tokenStatus := if code = 401 then "EXPIRED" else "UNKNOWN"
      lastFailure := some time
      lastFailureReason := some ("HTTP " ++ toString code) }
  | .other _ text =>
    { st with
      authStatus := "DEGRADED"
      tokenStatus := "UNKNOWN"
      lastFailure := some time
      lastFailureReason := some text }

/-- The scopes that GitHub confirms for a token. -/
def State.confirm (s : State) (token : String) (scopes : List String) : State :=
  { s with now := { s.now with validated := s.now.validated ++ [(token, scopes)] } }

/-- `validate`, for the token that is stored: whether it is accepted, unless it raises. -/
def validate (e : ValidateEnv) (s : State) : Option Bool × State :=
  if !e.retrieved then (none, s)
  else
    let fail := fun (s : State) (st : GitHubCredentialState) =>
      (some false, saveState e.saveWrite { s with memory := st })
    match s.now.disk.token with
    | .absent | .unreadable | .stored "" =>
      fail s { s.memory with
        authStatus := "UNAUTHORIZED", tokenStatus := "MISSING", principal := .null, scopes := [] }
    | .stored token =>
      match e.answer with
      | .error f => fail s (s.memory.failed f e.time)
      | .ok (user, header) =>
        let s := s.confirm token (scopesOf header)
        match user with
        | .obj ms =>
          let st := { s.memory with
            principal := (Json.lookup "login" ms).getD (.str "unknown")
            scopes := scopesOf header
            lastValidation := some e.time }
          if missingScopes (scopesOf header) ≠ [] then
            fail s { st with
              authStatus := "DEGRADED"
              tokenStatus := "INSUFFICIENT_SCOPE"
              lastFailure := some e.time
              lastFailureReason := some ("Missing required GitHub scopes: " ++
                ", ".intercalate (missingScopes (scopesOf header))) }
          else
            (some true, saveState e.saveWrite { s with memory := { st with
              authStatus := "AUTHORIZED"
              tokenStatus := "VALID"
              lastFailure := none
              lastFailureReason := none } })
        | v =>
          fail s (s.memory.failed (.other "AttributeError"
            ("'" ++ typeName v ++ "' object has no attribute 'get'")) e.time)

/-- The status of an answer without a token, and the flow then. -/
def pollError (ms : List (String × Json)) (flow : GitHubDeviceFlowState) :
    String × Option GitHubDeviceFlowState :=
  match (Json.lookup "error" ms).getD (.str "unknown") with
  | .str "authorization_pending" => ("PENDING", some flow)
  | .str "slow_down" =>
    match flow.interval with
    | .int _ | .bool _ | .float _ =>
      ("SLOW_DOWN", some { flow with slowDowns := flow.slowDowns + 1 })
    | _ => ("ERROR", some flow)
  | .str "expired_token" => ("EXPIRED", none)
  | .str "access_denied" => ("DENIED", none)
  | _ => ("ERROR", some flow)

/-- A new token is stored and validated. -/
def replaceToken (e : PollEnv) (token : String) (s : State) : String × State :=
  let s := s.tokens (e.tokenWrite.passes token)
  if e.tokenWrite ≠ .done then ("ERROR", s)
  else
    match validate e.validation { s with flow := none } with
    | (none, s) => ("ERROR", s)
    | (some true, s) => ("AUTHORIZED", s)
    | (some false, s) =>
      if e.deleted then ("ERROR", s.tokens [.absent]) else ("ERROR", s)

/-- `poll_device_flow`: the status, unless it raises. -/
def pollDeviceFlow (e : PollEnv) (s : State) : Option String × State :=
  match s.flow with
  | none => (some "NO_ACTIVE_FLOW", s)
  | some flow =>
    match e.expired with
    | none => (none, s)
    | some true => (some "EXPIRED", { s with flow := none })
    | some false =>
      match e.answer with
      | .error _ => (some "ERROR", s)
      | .ok (.obj ms) =>
        match Json.lookup "access_token" ms with
        | some (.str token) => ((replaceToken e token s).map some id)
        | some _ => (some "ERROR", s)
        | none => (some (pollError ms flow).1, { s with flow := (pollError ms flow).2 })
      | .ok _ => (some "ERROR", s)

/-- What `store_and_validate_token` returns. -/
structure SubmitResult where
  success : Bool
  principal : Json := .null
  scopes : List String := []
  error : Option String := none

/-- `store_and_validate_token`. -/
def storeAndValidateToken (e : SubmitEnv) (token : String) (s : State) : SubmitResult × State :=
  match e.answer with
  | .error (.http code) =>
    ({ success := false
       error := some (if code = 401 ∨ code = 403 then
         "GitHub connection failed. Token may be invalid or expired."
         else "HTTP " ++ toString code) }, s)
  | .error (.other type _) =>
    ({ success := false, error := some ("Connection error: " ++ type) }, s)
  | .ok (.obj ms, header) =>
    let s := s.confirm token (scopesOf header)
    let principal := (Json.lookup "login" ms).getD (.str "unknown")
    let missing := ["repo", "read:org"].filter (!(scopesOf header).contains ·)
    if missing ≠ [] then
      ({ success := false, principal := principal, scopes := scopesOf header
         error := some ("Missing required scopes: " ++ ", ".intercalate missing) }, s)
    else
      let s := s.tokens (e.tokenWrite.passes token)
      if e.tokenWrite ≠ .done then
        ({ success := false, error := some ("Connection error: " ++ e.writeError) }, s)
      else
        ({ success := true, principal := principal, scopes := scopesOf header },
          saveState e.saveWrite { s with memory := { s.memory with
            principal := principal
            authStatus := "AUTHORIZED"
            tokenStatus := "VALID"
            scopes := scopesOf header
            lastValidation := some e.time
            lastFailure := none
            lastFailureReason := none } })
  | .ok (_, header) =>
    ({ success := false, error := some "Connection error: AttributeError" },
      s.confirm token (scopesOf header))

/-! ### Atomic replacement -/

/-- A persisted state that says `AUTHORIZED` speaks of the token that is stored, and of scopes that
were confirmed for it. -/
def Coherent (m : Moment) : Prop :=
  ∀ st, m.disk.state = .stored st → st.authStatus = "AUTHORIZED" →
    ∃ token, m.disk.token = .stored token ∧ (token, st.scopes) ∈ m.validated

/-- A call that can replace the credential. -/
inductive Call where
  | poll (e : PollEnv)
  | submit (e : SubmitEnv) (token : String)

/-- Whether a call ends in success, and the state then. -/
def Call.run (c : Call) (s : State) : Bool × State :=
  match c with
  | .poll e => ((pollDeviceFlow e s).1 = some "AUTHORIZED", (pollDeviceFlow e s).2)
  | .submit e token =>
    ((storeAndValidateToken e token s).1.success, (storeAndValidateToken e token s).2)

/-- A state at the beginning of a call. -/
def State.start (s : State) : State := { s with moments := [] }

/-- **Atomic replacement**: a call that does not end in success leaves the files as they were,
wherever a crash ends it, and at every moment the persisted state is coherent. -/
structure Atomic (c : Call) (s : State) : Prop where
  crashed : ∀ m ∈ (c.run s.start).2.moments, m.disk = s.now.disk
  failed : (c.run s.start).1 = false → (c.run s.start).2.now.disk = s.now.disk
  coherent : ∀ m ∈ s.now :: (c.run s.start).2.moments, Coherent m

/-- The new token in the answer to a poll. -/
def PollEnv.newToken (e : PollEnv) : Option String :=
  match e.answer with
  | .ok (.obj ms) =>
    match Json.lookup "access_token" ms with
    | some (.str token) => some token
    | _ => none
  | _ => none

/-- The answer says that a submitted token is one of a user and has the required scopes. -/
def SubmitEnv.accepts (e : SubmitEnv) : Bool :=
  match e.answer with
  | .ok (.obj _, header) => ["repo", "read:org"].all ((scopesOf header).contains ·)
  | _ => false

/-- The token that GitHub's answers make a call store, and how the write of its file goes: in a poll
of a flow that has not expired the token of the answer, in a submission a token that is accepted. -/
def Call.stores (c : Call) (s : State) : Option (String × WriteOutcome) :=
  match c with
  | .poll e =>
    if s.flow.isSome ∧ e.expired = some false then e.newToken.map fun t => (t, e.tokenWrite)
    else none
  | .submit e token => if e.accepts then some (token, e.tokenWrite) else none

/-- The files are not touched; scopes may have been confirmed. -/
structure Quiet (s u : State) : Prop where
  disk : u.now.disk = s.now.disk
  moments : u.moments = s.moments
  validated : s.now.validated ⊆ u.now.validated

section Moments

variable {s : State}

theorem Quiet.refl (s : State) : Quiet s s := ⟨rfl, rfl, List.Subset.refl _⟩

theorem quiet_confirm (s : State) (token : String) (scopes : List String) :
    Quiet s (s.confirm token scopes) :=
  ⟨rfl, rfl, List.subset_append_left _ _⟩

theorem Quiet.memory {u : State} (h : Quiet s u) (st : GitHubCredentialState) :
    Quiet s { u with memory := st } :=
  ⟨h.disk, h.moments, h.validated⟩

theorem moments_states (s : State) (slots : List (Secret GitHubCredentialState)) :
    s.moments <+: (s.states slots).moments := by
  induction slots generalizing s with
  | nil => exact List.prefix_rfl
  | cons slot slots ih => exact (List.prefix_append _ _).trans (ih (s.become _))

/-- **A validation** writes the state file only, at its end. -/
theorem validate_cases (e : ValidateEnv) (s : State) :
    (validate e s).2 = s ∨ ∃ u, Quiet s u ∧ (validate e s).2 = saveState e.saveWrite u := by
  unfold validate
  split_ifs
  · exact .inl rfl
  · refine .inr ?_
    dsimp only
    split
    · exact ⟨_, (Quiet.refl s).memory _, rfl⟩
    · exact ⟨_, (Quiet.refl s).memory _, rfl⟩
    · exact ⟨_, (Quiet.refl s).memory _, rfl⟩
    · split
      · exact ⟨_, (Quiet.refl s).memory _, rfl⟩
      · split
        · split_ifs
          · exact ⟨_, (quiet_confirm s _ _).memory _, rfl⟩
          · exact ⟨_, (quiet_confirm s _ _).memory _, rfl⟩
        · exact ⟨_, (quiet_confirm s _ _).memory _, rfl⟩

theorem moments_validate (e : ValidateEnv) (s : State) :
    s.moments <+: (validate e s).2.moments := by
  obtain h | ⟨u, hu, h⟩ := validate_cases e s
  · rw [h]
  · rw [h, ← hu.moments]
    exact moments_states u _

/-- What a write of the token file goes through. -/
theorem tokens_passes (token : String) (w : WriteOutcome) :
    (s.tokens (w.passes token)).moments = s.moments ++
      (w.passes token).map fun slot =>
        { s.now with disk := { s.now.disk with token := slot } } := by
  cases w <;> simp [State.tokens, WriteOutcome.passes, State.become]

/-- The moments of a call whose token write goes on are followed by others. -/
theorem moments_replaceToken (e : PollEnv) (token : String) (s : State) :
    (s.tokens (e.tokenWrite.passes token)).moments <+: (replaceToken e token s).2.moments := by
  rw [replaceToken]
  by_cases hw : e.tokenWrite ≠ .done
  · rw [if_pos hw]
  · rw [if_neg hw]
    have h := moments_validate e.validation
      { s.tokens (e.tokenWrite.passes token) with flow := none }
    split
    · rename_i u hu
      rw [hu] at h
      exact h
    · rename_i u hu
      rw [hu] at h
      exact h
    · rename_i u hu
      rw [hu] at h
      split_ifs
      · exact h.trans (List.prefix_append _ _)
      · exact h

end Moments

theorem pollError_ne (ms : List (String × Json)) (flow : GitHubDeviceFlowState) :
    (pollError ms flow).1 ≠ "AUTHORIZED" := by
  unfold pollError
  split
  · simp
  · split <;> simp
  · simp
  · simp
  · simp

/-- **The polls**: one whose answer has a token goes on to replace the old one, and another one
changes nothing but the flow. -/
theorem pollDeviceFlow_cases (e : PollEnv) (s : State) :
    (∃ token, (Call.poll e).stores s = some (token, e.tokenWrite) ∧
        pollDeviceFlow e s = (some (replaceToken e token s).1, (replaceToken e token s).2)) ∨
      (Call.poll e).stores s = none ∧ (pollDeviceFlow e s).1 ≠ some "AUTHORIZED" ∧
        Quiet s (pollDeviceFlow e s).2 := by
  unfold pollDeviceFlow Call.stores PollEnv.newToken
  dsimp only
  cases s.flow with
  | none => exact .inr ⟨rfl, by simp, .refl s⟩
  | some flow =>
    cases e.expired with
    | none => exact .inr ⟨rfl, by simp, .refl s⟩
    | some expired =>
      cases expired with
      | true => exact .inr ⟨rfl, by simp, rfl, rfl, List.Subset.refl _⟩
      | false =>
        rcases e.answer with f | j
        · exact .inr ⟨rfl, by simp, .refl s⟩
        · cases j with
          | obj ms =>
            dsimp only
            cases Json.lookup "access_token" ms with
            | none =>
              exact .inr ⟨rfl, fun h => pollError_ne ms flow (Option.some.inj h), rfl, rfl,
                List.Subset.refl _⟩
            | some v =>
              cases v with
              | str token => exact .inl ⟨token, rfl, rfl⟩
              | _ => exact .inr ⟨rfl, by simp, .refl s⟩
          | _ => exact .inr ⟨rfl, by simp, .refl s⟩

theorem missing_eq_nil_iff (scopes : List String) :
    ["repo", "read:org"].filter (!scopes.contains ·) = [] ↔
      ["repo", "read:org"].all (scopes.contains ·) := by
  rw [List.filter_eq_nil_iff, List.all_eq_true]
  simp

/-- **The submissions**: one of an accepted token goes on to store it, and another one changes
nothing. -/
theorem storeAndValidateToken_cases (e : SubmitEnv) (token : String) (s : State) :
    (∃ u memory scopes principal, Quiet s u ∧
        (Call.submit e token).stores s = some (token, e.tokenWrite) ∧
        storeAndValidateToken e token s =
          if e.tokenWrite ≠ .done then
            ({ success := false, error := some ("Connection error: " ++ e.writeError) },
              u.tokens (e.tokenWrite.passes token))
          else
            ({ success := true, principal := principal, scopes := scopes },
              saveState e.saveWrite
                { u.tokens (e.tokenWrite.passes token) with memory := memory })) ∨
      (Call.submit e token).stores s = none ∧ (storeAndValidateToken e token s).1.success = false ∧
        Quiet s (storeAndValidateToken e token s).2 := by
  unfold storeAndValidateToken Call.stores SubmitEnv.accepts
  dsimp only
  rcases e.answer with f | ⟨user, header⟩
  · cases f <;> exact .inr ⟨rfl, rfl, .refl s⟩
  · cases user with
    | obj ms =>
      dsimp only
      by_cases hm : ["repo", "read:org"].all ((scopesOf header).contains ·)
      · rw [if_pos hm, if_neg (not_not.2 ((missing_eq_nil_iff _).2 hm))]
        exact .inl ⟨_, _, _, _, quiet_confirm s token (scopesOf header), rfl, rfl⟩
      · rw [if_neg hm, if_pos (mt (missing_eq_nil_iff _).1 hm)]
        exact .inr ⟨rfl, rfl, quiet_confirm s token (scopesOf header)⟩
    | _ => exact .inr ⟨rfl, rfl, quiet_confirm s token (scopesOf header)⟩

/-- **A call that stores no token** changes no file. -/
theorem run_of_stores_none {c : Call} {s : State} (h : c.stores s = none) :
    (c.run s).1 = false ∧ Quiet s (c.run s).2 := by
  cases c with
  | poll e =>
    obtain ⟨token, hstores, -⟩ | ⟨-, hstatus, hquiet⟩ := pollDeviceFlow_cases e s
    · cases h.symm.trans hstores
    · exact ⟨decide_eq_false hstatus, hquiet⟩
  | submit e token =>
    obtain ⟨u, _, _, _, -, hstores, -⟩ | ⟨-, hsuccess, hquiet⟩ :=
      storeAndValidateToken_cases e token s
    · cases h.symm.trans hstores
    · exact ⟨hsuccess, hquiet⟩

/-- **A call that stores a token** goes through the write of its file first, and ends there when the
write fails. -/
theorem run_of_stores {c : Call} {s : State} {token : String} {w : WriteOutcome}
    (h : c.stores s = some (token, w)) :
    ∃ u, Quiet s u ∧ (u.tokens (w.passes token)).moments <+: (c.run s).2.moments ∧
      (w ≠ .done → c.run s = (false, u.tokens (w.passes token))) := by
  cases c with
  | poll e =>
    obtain ⟨token', hstores, hpoll⟩ | ⟨hstores, -⟩ := pollDeviceFlow_cases e s
    · obtain ⟨rfl, rfl⟩ := Prod.mk.inj (Option.some.inj (h.symm.trans hstores))
      refine ⟨s, .refl s, ?_, fun hw => ?_⟩
      · rw [Call.run, hpoll]
        exact moments_replaceToken e token s
      · have hreplace :
            replaceToken e token s = ("ERROR", s.tokens (e.tokenWrite.passes token)) := by
          rw [replaceToken, if_pos hw]
        rw [Call.run, hpoll, hreplace]
        rfl
    · cases h.symm.trans hstores
  | submit e token' =>
    obtain ⟨u, memory, scopes, principal, hquiet, hstores, hsubmit⟩ | ⟨hstores, -⟩ :=
      storeAndValidateToken_cases e token' s
    · obtain ⟨rfl, rfl⟩ := Prod.mk.inj (Option.some.inj (h.symm.trans hstores))
      refine ⟨u, hquiet, ?_, fun hw => ?_⟩
      · rw [Call.run, hsubmit]
        split_ifs
        · exact List.prefix_rfl
        · exact moments_states { u.tokens (e.tokenWrite.passes token) with memory := memory } _
      · rw [Call.run, hsubmit, if_pos hw]
    · cases h.symm.trans hstores

theorem Coherent.mono {m n : Moment} (h : Coherent m) (hdisk : n.disk = m.disk)
    (hvalidated : m.validated ⊆ n.validated) : Coherent n := by
  intro st hst hauth
  obtain ⟨token, htoken, hmem⟩ := h st (hdisk ▸ hst) hauth
  exact ⟨token, hdisk ▸ htoken, hvalidated hmem⟩

theorem stores_start (c : Call) (s : State) : c.stores s.start = c.stores s := by
  cases c <;> rfl

/-- Writing what is there already. -/
theorem tokens_same {s : State} (slots : List (Secret String))
    (h : ∀ slot ∈ slots, slot = s.now.disk.token) :
    (s.tokens slots).now = s.now ∧ ∀ m ∈ (s.tokens slots).moments, m ∈ s.moments ∨ m = s.now := by
  induction slots generalizing s with
  | nil => exact ⟨rfl, fun m hm => .inl hm⟩
  | cons slot slots ih =>
    obtain rfl := h slot List.mem_cons_self
    obtain ⟨hnow, hmoments⟩ := @ih (s.become { s.now.disk with token := s.now.disk.token })
      fun slot hslot => h slot (List.mem_cons_of_mem _ hslot)
    refine ⟨hnow, fun m hm => ?_⟩
    obtain hm | hm := hmoments m hm
    · exact (List.mem_append.1 hm).imp_right List.mem_singleton.1
    · exact .inr hm

theorem Atomic.iff_of_run {c : Call} {s u : State} (h : c.run s.start = (false, u)) :
    Atomic c s ↔ (∀ m ∈ u.moments, m.disk = s.now.disk) ∧ u.now.disk = s.now.disk ∧
      ∀ m ∈ s.now :: u.moments, Coherent m := by
  constructor
  · rintro ⟨hcrashed, hfailed, hcoherent⟩
    rw [h] at hcrashed hfailed hcoherent
    exact ⟨hcrashed, hfailed rfl, hcoherent⟩
  · rintro ⟨hcrashed, hfailed, hcoherent⟩
    exact ⟨by rw [h]; exact hcrashed, by rw [h]; exact fun _ => hfailed, by rw [h]; exact hcoherent⟩

/-- **When a replacement is atomic.**  For every stored credential, whatever GitHub answers and
however the writes go, a poll or a submission is atomic exactly when the state is coherent before it
and it stores no token: GitHub's answer gives it none, or the file of the token is not opened, or
the write is cut off in a file that was cut off before. -/
theorem atomic_iff (c : Call) (s : State) :
    Atomic c s ↔ Coherent s.now ∧ ∀ token w, c.stores s = some (token, w) →
      w = .refused ∨ w = .cut ∧ s.now.disk.token = .unreadable := by
  constructor
  · intro h
    refine ⟨h.coherent _ List.mem_cons_self, fun token w hstores => ?_⟩
    obtain ⟨u, hquiet, hcut, -⟩ := run_of_stores ((stores_start c s).trans hstores)
    have hcrashed : ∀ slot ∈ w.passes token, slot = s.now.disk.token := by
      intro slot hslot
      have hmem : { u.now with disk := { u.now.disk with token := slot } } ∈
          (u.tokens (w.passes token)).moments := by
        rw [tokens_passes]
        exact List.mem_append_right _ (List.mem_map_of_mem hslot)
      exact congrArg Disk.token (h.crashed _ (hcut.subset hmem))
    cases w with
    | refused => exact .inl rfl
    | cut => exact .inr ⟨rfl, (hcrashed _ List.mem_cons_self).symm⟩
    | done | late =>
      have hempty := hcrashed .unreadable List.mem_cons_self
      have hfull := hcrashed (.stored token) (List.mem_cons_of_mem _ List.mem_cons_self)
      cases hempty.trans hfull.symm
  · rintro ⟨hcoherent, hsafe⟩
    cases hstores : c.stores s with
    | none =>
      obtain ⟨hfailed, hquiet⟩ := run_of_stores_none ((stores_start c s).trans hstores)
      refine ⟨fun m hm => ?_, fun _ => hquiet.disk, fun m hm => ?_⟩
      · rw [hquiet.moments] at hm
        cases hm
      · rw [hquiet.moments] at hm
        obtain rfl : m = s.now := by simpa [State.start] using hm
        exact hcoherent
    | some p =>
      obtain ⟨token, w⟩ := p
      obtain ⟨u, hquiet, -, hrun⟩ := run_of_stores ((stores_start c s).trans hstores)
      have hslots : w ≠ .done ∧ ∀ slot ∈ w.passes token, slot = u.now.disk.token := by
        obtain rfl | ⟨rfl, hcut⟩ := hsafe token w hstores
        · exact ⟨nofun, nofun⟩
        · refine ⟨nofun, fun slot hslot => ?_⟩
          rw [hquiet.disk]
          exact (List.mem_singleton.1 hslot).trans hcut.symm
      rw [Atomic.iff_of_run (hrun hslots.1)]
      obtain ⟨hnow, hmoments⟩ := tokens_same _ hslots.2
      have hall : ∀ m ∈ (u.tokens (w.passes token)).moments, m = u.now := by
        intro m hm
        refine (hmoments m hm).resolve_left fun hold => ?_
        rw [hquiet.moments] at hold
        cases hold
      refine ⟨fun m hm => hall m hm ▸ hquiet.disk, hnow ▸ hquiet.disk, fun m hm => ?_⟩
      obtain rfl | hm := List.mem_cons.1 hm
      · exact hcoherent
      · exact hall m hm ▸ hcoherent.mono hquiet.disk hquiet.validated

/-! ### Without a crash -/

/-- GitHub answers a validation with a user and the required scopes. -/
def ValidateEnv.accepts (e : ValidateEnv) : Bool :=
  match e.answer with
  | .ok (.obj _, header) => missingScopes (scopesOf header) = []
  | _ => false

theorem validate_of_rejected {e : ValidateEnv} (hretrieved : e.retrieved)
    (hrejected : e.accepts = false) (s : State) : (validate e s).1 = some false := by
  unfold ValidateEnv.accepts at hrejected
  unfold validate
  rw [if_neg (by simp [hretrieved])]
  dsimp only
  split
  · rfl
  · rfl
  · rfl
  · rcases he : e.answer with f | ⟨user, header⟩
    · rfl
    · cases user with
      | obj ms =>
        rw [he] at hrejected
        dsimp only at hrejected ⊢
        rw [if_pos (of_decide_eq_false hrejected)]
      | _ => rfl

/-- **A poll whose token is rejected** deletes the token that was stored before, too. -/
theorem failed_poll_deletes {e : PollEnv} {s : State} {token : String}
    (hstores : (Call.poll e).stores s = some (token, .done))
    (hretrieved : e.validation.retrieved) (hrejected : e.validation.accepts = false)
    (hdeleted : e.deleted) :
    (pollDeviceFlow e s).1 = some "ERROR" ∧
      (pollDeviceFlow e s).2.now.disk.token = .absent := by
  obtain ⟨token', hstores', hpoll⟩ | ⟨hnone, -⟩ := pollDeviceFlow_cases e s
  · obtain ⟨rfl, hdone⟩ := Prod.mk.inj (Option.some.inj (hstores.symm.trans hstores'))
    rw [hpoll, replaceToken, if_neg (not_not.2 hdone.symm)]
    have hv := validate_of_rejected hretrieved hrejected
      { s.tokens (e.tokenWrite.passes token) with flow := none }
    split
    · rename_i u hu
      rw [hu] at hv
      cases hv
    · rename_i u hu
      rw [hu] at hv
      cases hv
    · rw [if_pos hdeleted]
      exact ⟨rfl, rfl⟩
  · cases hstores.symm.trans hnone

/-- **A submission that fails** touches no file, when the write of the token does not fail. -/
theorem failed_submission_keeps {e : SubmitEnv} {token : String} {s : State}
    (hwrite : e.tokenWrite = .done)
    (hfailed : (storeAndValidateToken e token s).1.success = false) :
    Quiet s (storeAndValidateToken e token s).2 := by
  obtain ⟨u, memory, scopes, principal, -, -, hsubmit⟩ | ⟨-, -, hquiet⟩ :=
    storeAndValidateToken_cases e token s
  · rw [hsubmit, if_neg (not_not.2 hwrite)] at hfailed
    cases hfailed
  · exact hquiet

/-- The state of a valid credential. -/
def valid : GitHubCredentialState where
  principal := .str "alice"
  authStatus := "AUTHORIZED"
  tokenStatus := "VALID"
  scopes := ["repo", "read:org"]

/-- A manager with a valid token and a flow. -/
def connected : State where
  now := ⟨⟨.stored "old", .stored valid⟩, [("old", ["repo", "read:org"])]⟩
  memory := valid
  flow := some { deviceCode := "DEV", interval := .int 5 }
  moments := []

/-- A poll that gets a new token with too few scopes. -/
def fewScopes : PollEnv where
  expired := some false
  answer := .ok (.obj [("access_token", .str "new")])
  tokenWrite := .done
  validation :=
    { retrieved := true
      answer := .ok (.obj [("login", .str "alice")], "repo")
      saveWrite := .done, time := "2024-01-01T00:00:00+00:00" }
  deleted := true

/-- **The old token is lost**: the poll does not end in success, no write fails and nothing crashes,
and no token is left. -/
theorem connected_loses_token :
    Coherent connected.now ∧ connected.now.disk.token = .stored "old" ∧
      (pollDeviceFlow fewScopes connected).1 = some "ERROR" ∧
      (pollDeviceFlow fewScopes connected).2.now.disk.token = .absent := by
  have hstores : (Call.poll fewScopes).stores connected = some ("new", .done) := rfl
  have hrejected : fewScopes.validation.accepts = false := by decide
  refine ⟨fun st hst _ => ?_, rfl, failed_poll_deletes hstores rfl hrejected rfl⟩
  cases hst
  exact ⟨"old", rfl, List.mem_cons_self⟩

end GitHub

end AnnyRuntime
