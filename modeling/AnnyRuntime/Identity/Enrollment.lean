import AnnyRuntime.Json.Indent
import AnnyRuntime.Session.Manager

/-!
# Enrollment

The enrollment manager moves from `UNENROLLED` through `ENROLLING`, `REGISTERED` and `PAIRED` to
`READY`, one call a step, and writes its state to a file and reads it back.  A challenge is 32
random bytes that nobody remembers: `begin_enrollment` checks that the response is a signature of
the challenge, and not where the challenge comes from.

* `accepted_twice` : so an old pair of challenge and response is accepted again after a reset.
* `lawful` : what does hold of every run.  A response that is accepted is a signature of the
  challenge under the identity it is checked with; and a manager that is `READY` was brought there
  by one accepted response and one `register`, `pair` and `activate` each (`trail`).  A `reset`
  forgets these calls, and a `load` brings back the ones that the last `save` had behind it.
-/

namespace AnnyRuntime

namespace Identity

open Session (EnrollmentState)

/-! ### Challenges -/

/-- The value of a hexadecimal digit, in either case. -/
def hexDigit? (c : Char) : Option ℕ :=
  if '0' ≤ c ∧ c ≤ '9' then some (c.toNat - '0'.toNat)
  else if 'a' ≤ c ∧ c ≤ 'f' then some (c.toNat - 'a'.toNat + 10)
  else if 'A' ≤ c ∧ c ≤ 'F' then some (c.toNat - 'A'.toNat + 10)
  else none

/-- White space between two bytes of a hexadecimal text. -/
def isHexSpace (c : Char) : Bool :=
  c = ' ' || c = '\t' || c = '\n' || c = '\r' || c = '\x0b' || c = '\x0c'

/-- `bytes.fromhex`, unless it raises. -/
def fromHex? : List Char → Option (List UInt8)
  | [] => some []
  | c :: cs =>
    if isHexSpace c then fromHex? cs
    else
      match cs with
      | [] => none
      | d :: cs =>
        match hexDigit? c, hexDigit? d with
        | some h, some l => (fromHex? cs).map (UInt8.ofNat (16 * h + l) :: ·)
        | _, _ => none

/-- A digit of a hexadecimal text. -/
def hexChar (n : ℕ) : Char := "0123456789abcdef".toList.getD n '0'

/-- `bytes.hex`. -/
def toHex (bs : List UInt8) : String :=
  String.ofList (bs.flatMap fun b => [hexChar (b.toNat / 16), hexChar (b.toNat % 16)])

/-- A runtime identity: whether a signature is one of a message, unless that raises. -/
structure RuntimeIdentity where
  verify : List UInt8 → List UInt8 → Option Bool

/-- `create_challenge`, of the bytes that the system draws. -/
def createChallenge (_principal : String) (drawn : List UInt8) : String := toHex drawn

/-- `verify_response`: every exception is a refusal. -/
def verifyResponse (_principal challenge response : String) (identity : RuntimeIdentity) : Bool :=
  match fromHex? challenge.toList, fromHex? response.toList with
  | some message, some signature => (identity.verify message signature).getD false
  | _, _ => false

/-! ### The manager -/

/-- The name of a state. -/
def stateName : EnrollmentState → String
  | .unenrolled => "UNENROLLED"
  | .enrolling => "ENROLLING"
  | .registered => "REGISTERED"
  | .paired => "PAIRED"
  | .ready => "READY"

/-- `EnrollmentState[name]`. -/
def stateOf? (name : String) : Option EnrollmentState :=
  [.unenrolled, .enrolling, .registered, .paired, .ready].find? fun s => stateName s = name

@[simp] theorem stateOf?_stateName (s : EnrollmentState) : stateOf? (stateName s) = some s := by
  cases s <;> decide

/-- What is raised. -/
inductive Raised where
  | enrollmentError (message : String)
  | other
  deriving DecidableEq

/-- `EnrollmentManager`.  A file may put any value into the identifiers; `None` is `null`. -/
structure EnrollmentManager where
  state : EnrollmentState := .unenrolled
  principal : Json := .null
  tenantId : Json := .null
  annyInstanceId : Json := .null
  runtimeId : Json := .null
  deriving DecidableEq

namespace EnrollmentManager

variable (m : EnrollmentManager)

/-- A call that is made in one state leads to the next one. -/
def advance (source target : EnrollmentState) (update : EnrollmentManager → EnrollmentManager) :
    Except Raised EnrollmentManager :=
  if m.state ≠ source then
    .error (.enrollmentError
      ("Invalid transition from " ++ stateName m.state ++ " to " ++ stateName target))
  else .ok { update m with state := target }

/-- `begin_enrollment`. -/
def beginEnrollment (principal tenantId challenge response : String) (identity : RuntimeIdentity) :
    Except Raised EnrollmentManager :=
  if m.state ≠ .unenrolled then
    .error (.enrollmentError
      ("Invalid transition from " ++ stateName m.state ++ " to ENROLLING"))
  else if !verifyResponse principal challenge response identity then
    .error (.enrollmentError "Challenge verification failed")
  else
    .ok { m with principal := .str principal, tenantId := .str tenantId, state := .enrolling }

/-- `register`. -/
def register (annyInstanceId : String) : Except Raised EnrollmentManager :=
  m.advance .enrolling .registered fun m => { m with annyInstanceId := .str annyInstanceId }

/-- `pair`. -/
def pair (runtimeId : String) : Except Raised EnrollmentManager :=
  m.advance .registered .paired fun m => { m with runtimeId := .str runtimeId }

/-- `activate`. -/
def activate : Except Raised EnrollmentManager :=
  m.advance .paired .ready id

/-- `reset`. -/
def reset (_m : EnrollmentManager) : EnrollmentManager := {}

/-- What `save` writes. -/
def data : Json :=
  .obj [("state", .str (stateName m.state)), ("principal", m.principal), ("tenant_id", m.tenantId),
    ("anny_instance_id", m.annyInstanceId), ("runtime_id", m.runtimeId)]

/-- The text that `save` leaves in the file. -/
def save : List Char := Json.dumpsIndent 0 m.data

/-- What `load` makes of a decoded file. -/
def ofData : Json → Except Raised EnrollmentManager
  | .obj ms =>
    match Json.lookup "state" ms with
    | some (.str name) =>
      match stateOf? name with
      | some state =>
        .ok
          { state := state
            principal := (Json.lookup "principal" ms).getD .null
            tenantId := (Json.lookup "tenant_id" ms).getD .null
            annyInstanceId := (Json.lookup "anny_instance_id" ms).getD .null
            runtimeId := (Json.lookup "runtime_id" ms).getD .null }
      | none => .error .other
    | _ => .error .other
  | _ => .error .other

/-- `load`. -/
def load (file : Option (List Char)) : Except Raised EnrollmentManager :=
  match file with
  | none => .ok m
  | some text =>
    match Json.loads text with
    | none => .error .other
    | some v => ofData v

theorem ofData_data : ofData m.data = .ok m := by
  have hstate : Json.lookup "state" [("state", .str (stateName m.state)),
      ("principal", m.principal), ("tenant_id", m.tenantId),
      ("anny_instance_id", m.annyInstanceId), ("runtime_id", m.runtimeId)] =
        some (.str (stateName m.state)) := rfl
  rw [data, ofData, hstate]
  dsimp only
  rw [stateOf?_stateName]
  rfl

/-- **Round trip.**  A manager that was saved is loaded. -/
theorem load_save (m' : EnrollmentManager) : m'.load (some m.save) = .ok m := by
  rw [load, save, Json.loads_dumpsIndent]
  exact m.ofData_data

end EnrollmentManager

/-! ### Runs -/

/-- A call of the manager, of the challenges, or of the constructor. -/
inductive Call where
  | createChallenge (principal : String) (drawn : List UInt8)
  | beginEnrollment (principal tenantId challenge response : String) (identity : RuntimeIdentity)
  | register (annyInstanceId : String)
  | pair (runtimeId : String)
  | activate
  | reset
  | save
  | load
  /-- A new manager over the same directory. -/
  | construct

/-- The manager and its file. -/
structure World where
  manager : EnrollmentManager := {}
  file : Option (List Char) := none
  deriving DecidableEq

namespace World

variable (w : World)

/-- The manager that a call leads to, unless it raises. -/
def result : Call → Except Raised EnrollmentManager
  | .createChallenge _ _ => .ok w.manager
  | .beginEnrollment principal tenantId challenge response identity =>
    w.manager.beginEnrollment principal tenantId challenge response identity
  | .register annyInstanceId => w.manager.register annyInstanceId
  | .pair runtimeId => w.manager.pair runtimeId
  | .activate => w.manager.activate
  | .reset => .ok w.manager.reset
  | .save => .ok w.manager
  | .load => w.manager.load w.file
  | .construct => .ok {}

/-- The call returns. -/
def succeeds (c : Call) : Bool := (w.result c).toBool

/-- A call that raises leaves the manager as it was. -/
def step (c : Call) : World where
  manager := (w.result c).toOption.getD w.manager
  file := match c with
    | .save => some w.manager.save
    | _ => w.file

end World

/-- The world after a run, from an empty directory. -/
def after (calls : List Call) : World := calls.foldl World.step {}

@[simp] theorem after_concat (calls : List Call) (c : Call) :
    after (calls ++ [c]) = (after calls).step c := by
  rw [after, List.foldl_append]
  rfl

/-! ### Where an enrollment comes from -/

/-- The calls that brought the manager where it is, and those behind the file, when there is one. -/
structure Ledger where
  trail : List Call := []
  saved : Option (List Call) := none

/-- A call is entered: a step of the enrollment if it succeeded.  What starts again has no calls
behind it, and what is loaded has those that the saved manager had. -/
def Ledger.enter (l : Ledger) (succeeded : Bool) (c : Call) : Ledger :=
  match c with
  | .createChallenge _ _ => l
  | .beginEnrollment _ _ _ _ _ | .register _ | .pair _ | .activate =>
    if succeeded then { l with trail := l.trail ++ [c] } else l
  | .reset | .construct => { l with trail := [] }
  | .save => { l with saved := some l.trail }
  | .load => { l with trail := l.saved.getD l.trail }

/-- The world and the ledger after a run. -/
def ledgered (calls : List Call) : World × Ledger :=
  calls.foldl (fun s c => (s.1.step c, s.2.enter (s.1.succeeds c) c)) ({}, {})

/-- The calls that brought the manager where it is after a run. -/
def trail (calls : List Call) : List Call := (ledgered calls).2.trail

/-- The calls that bring a manager where it is: first an accepted response, and then one call a
step. -/
inductive Earned : List Call → EnrollmentManager → Prop
  | unenrolled : Earned [] {}
  | enrolling {principal tenantId challenge response : String} {identity : RuntimeIdentity} :
    verifyResponse principal challenge response identity = true →
      Earned [.beginEnrollment principal tenantId challenge response identity]
        { state := .enrolling, principal := .str principal, tenantId := .str tenantId }
  | registered {calls : List Call} {m : EnrollmentManager} {annyInstanceId : String} :
    Earned calls m → m.state = .enrolling → Earned (calls ++ [.register annyInstanceId])
      { m with annyInstanceId := .str annyInstanceId, state := .registered }
  | paired {calls : List Call} {m : EnrollmentManager} {runtimeId : String} :
    Earned calls m → m.state = .registered → Earned (calls ++ [.pair runtimeId])
      { m with runtimeId := .str runtimeId, state := .paired }
  | ready {calls : List Call} {m : EnrollmentManager} :
    Earned calls m → m.state = .paired → Earned (calls ++ [.activate]) { m with state := .ready }

variable {m m' : EnrollmentManager} {calls : List Call}

theorem Earned.eq_nil (h : Earned calls m) (hm : m.state = .unenrolled) : calls = [] ∧ m = {} := by
  cases h with
  | unenrolled => exact ⟨rfl, rfl⟩
  | _ => cases hm

theorem advance_eq_ok {source target : EnrollmentState}
    {update : EnrollmentManager → EnrollmentManager}
    (h : m.advance source target update = .ok m') :
    m.state = source ∧ m' = { update m with state := target } := by
  unfold EnrollmentManager.advance at h
  split_ifs at h with hs
  exact ⟨not_not.1 hs, (Except.ok.inj h).symm⟩

theorem register_eq_ok {annyInstanceId : String} (h : m.register annyInstanceId = .ok m') :
    m.state = .enrolling ∧
      m' = { m with annyInstanceId := .str annyInstanceId, state := .registered } :=
  advance_eq_ok h

theorem pair_eq_ok {runtimeId : String} (h : m.pair runtimeId = .ok m') :
    m.state = .registered ∧ m' = { m with runtimeId := .str runtimeId, state := .paired } :=
  advance_eq_ok h

theorem activate_eq_ok (h : m.activate = .ok m') :
    m.state = .paired ∧ m' = { m with state := .ready } :=
  advance_eq_ok h

theorem beginEnrollment_eq_ok {principal tenantId challenge response : String}
    {identity : RuntimeIdentity}
    (h : m.beginEnrollment principal tenantId challenge response identity = .ok m') :
    m.state = .unenrolled ∧ verifyResponse principal challenge response identity = true ∧
      m' = { m with
        principal := .str principal, tenantId := .str tenantId, state := .enrolling } := by
  unfold EnrollmentManager.beginEnrollment at h
  split_ifs at h with hs hv
  exact ⟨not_not.1 hs, by simpa using hv, (Except.ok.inj h).symm⟩

/-- What the ledger says of the world. -/
structure Accounts (l : Ledger) (w : World) : Prop where
  earned : Earned l.trail w.manager
  none : l.saved = none → w.file = none
  some : ∀ calls, l.saved = some calls → ∃ m, w.file = some m.save ∧ Earned calls m

theorem manager_step (w : World) (c : Call) :
    (w.step c).manager = (w.result c).toOption.getD w.manager := rfl

theorem file_step {w : World} {c : Call} (hc : c ≠ .save) : (w.step c).file = w.file := by
  cases c with
  | save => exact absurd rfl hc
  | _ => rfl

theorem accounts_start : Accounts {} {} where
  earned := .unenrolled
  none _ := rfl
  some _ h := nomatch h

/-- A step of the enrollment is entered when it succeeds, and changes nothing else. -/
theorem Accounts.advanced {l : Ledger} {w : World} (h : Accounts l w) {c : Call} (hc : c ≠ .save)
    (henter : ∀ b, l.enter b c = if b then { l with trail := l.trail ++ [c] } else l)
    (hearned : ∀ m, w.result c = .ok m → Earned (l.trail ++ [c]) m) :
    Accounts (l.enter (w.succeeds c) c) (w.step c) := by
  rw [henter]
  cases hr : w.result c with
  | error r =>
    have hs : w.succeeds c = false := by
      rw [World.succeeds, hr]
      rfl
    rw [hs, if_neg Bool.false_ne_true]
    constructor
    · rw [manager_step, hr]
      exact h.earned
    · rw [file_step hc]
      exact h.none
    · rw [file_step hc]
      exact h.some
  | ok m =>
    have hs : w.succeeds c = true := by
      rw [World.succeeds, hr]
      rfl
    rw [hs, if_pos rfl]
    constructor
    · rw [manager_step, hr]
      exact hearned m hr
    · rw [file_step hc]
      exact h.none
    · rw [file_step hc]
      exact h.some

theorem Accounts.step {l : Ledger} {w : World} (h : Accounts l w) (c : Call) :
    Accounts (l.enter (w.succeeds c) c) (w.step c) := by
  cases c with
  | createChallenge principal drawn => exact ⟨h.earned, h.none, h.some⟩
  | beginEnrollment principal tenantId challenge response identity =>
    refine h.advanced (by simp) (fun b => rfl) fun m hr => ?_
    obtain ⟨hstate, hverified, rfl⟩ := beginEnrollment_eq_ok hr
    obtain ⟨htrail, hm⟩ := h.earned.eq_nil hstate
    rw [htrail, hm]
    exact .enrolling hverified
  | register annyInstanceId =>
    refine h.advanced (by simp) (fun b => rfl) fun m hr => ?_
    obtain ⟨hstate, rfl⟩ := register_eq_ok hr
    exact .registered h.earned hstate
  | pair runtimeId =>
    refine h.advanced (by simp) (fun b => rfl) fun m hr => ?_
    obtain ⟨hstate, rfl⟩ := pair_eq_ok hr
    exact .paired h.earned hstate
  | activate =>
    refine h.advanced (by simp) (fun b => rfl) fun m hr => ?_
    obtain ⟨hstate, rfl⟩ := activate_eq_ok hr
    exact .ready h.earned hstate
  | reset => exact ⟨.unenrolled, h.none, h.some⟩
  | construct => exact ⟨.unenrolled, h.none, h.some⟩
  | save =>
    refine ⟨h.earned, nofun, fun calls hcalls => ⟨w.manager, rfl, ?_⟩⟩
    obtain rfl := Option.some.inj hcalls
    exact h.earned
  | load =>
    refine ⟨?_, h.none, h.some⟩
    rw [manager_step, World.result]
    cases hsaved : l.saved with
    | none =>
      rw [h.none hsaved, Ledger.enter, hsaved]
      exact h.earned
    | some calls =>
      obtain ⟨m, hfile, hm⟩ := h.some calls hsaved
      rw [hfile, m.load_save, Ledger.enter, hsaved]
      exact hm

theorem ledgered_concat (calls : List Call) (c : Call) :
    ledgered (calls ++ [c]) = ((ledgered calls).1.step c,
      (ledgered calls).2.enter ((ledgered calls).1.succeeds c) c) := by
  rw [ledgered, List.foldl_append]
  rfl

theorem ledgered_fst (calls : List Call) : (ledgered calls).1 = after calls := by
  induction calls using List.reverseRecOn with
  | nil => rfl
  | append_singleton calls c ih => rw [ledgered_concat, after_concat, ih]

/-- The ledger accounts for every run. -/
theorem accounts (calls : List Call) : Accounts (ledgered calls).2 (after calls) := by
  induction calls using List.reverseRecOn with
  | nil => exact accounts_start
  | append_singleton calls c ih =>
    rw [ledgered_concat, after_concat, ledgered_fst]
    exact ih.step c

/-- What is entered was called. -/
theorem Ledger.enter_sublist {l : Ledger} (htrail : l.trail.Sublist calls)
    (hsaved : ∀ saved ∈ l.saved, saved.Sublist calls) (b : Bool) (c : Call) :
    (l.enter b c).trail.Sublist (calls ++ [c]) ∧
      ∀ saved ∈ (l.enter b c).saved, saved.Sublist (calls ++ [c]) := by
  have hkeep : ∀ {l' : List Call}, l'.Sublist calls → l'.Sublist (calls ++ [c]) :=
    fun h => h.trans (List.sublist_append_left calls [c])
  have hadvance : ∀ saved ∈ l.saved, saved.Sublist (calls ++ [c]) :=
    fun saved hs => hkeep (hsaved saved hs)
  cases c with
  | createChallenge principal drawn => exact ⟨hkeep htrail, hadvance⟩
  | reset => exact ⟨List.nil_sublist _, hadvance⟩
  | construct => exact ⟨List.nil_sublist _, hadvance⟩
  | save =>
    refine ⟨hkeep htrail, fun saved hs => ?_⟩
    obtain rfl := Option.some.inj hs
    exact hkeep htrail
  | load =>
    refine ⟨?_, hadvance⟩
    rw [Ledger.enter]
    cases hs : l.saved with
    | none => exact hkeep htrail
    | some saved => exact hadvance saved hs
  | _ =>
    rw [Ledger.enter]
    cases b with
    | false => exact ⟨hkeep htrail, hadvance⟩
    | true => exact ⟨htrail.append (List.Sublist.refl _), hadvance⟩

/-- The calls behind the manager are calls of the run, in their order. -/
theorem trail_sublist (calls : List Call) :
    (trail calls).Sublist calls ∧ ∀ saved ∈ (ledgered calls).2.saved, saved.Sublist calls := by
  induction calls using List.reverseRecOn with
  | nil => exact ⟨List.Sublist.refl _, nofun⟩
  | append_singleton calls c ih =>
    rw [trail, ledgered_concat]
    exact Ledger.enter_sublist ih.1 ih.2 _ c

theorem Earned.eq_of_enrolling (h : Earned calls m) (hm : m.state = .enrolling) :
    ∃ principal tenantId challenge response identity,
      calls = [.beginEnrollment principal tenantId challenge response identity] ∧
      verifyResponse principal challenge response identity = true ∧
      m = { state := .enrolling, principal := .str principal, tenantId := .str tenantId } := by
  cases h with
  | enrolling hverified => exact ⟨_, _, _, _, _, rfl, hverified, rfl⟩
  | _ => cases hm

theorem Earned.eq_of_registered (h : Earned calls m) (hm : m.state = .registered) :
    ∃ principal tenantId challenge response identity annyInstanceId,
      calls = [.beginEnrollment principal tenantId challenge response identity,
        .register annyInstanceId] ∧
      verifyResponse principal challenge response identity = true ∧
      m = { state := .registered, principal := .str principal, tenantId := .str tenantId,
            annyInstanceId := .str annyInstanceId } := by
  cases h with
  | registered h hstate =>
    obtain ⟨p, t, ch, r, id, rfl, hverified, rfl⟩ := h.eq_of_enrolling hstate
    exact ⟨p, t, ch, r, id, _, rfl, hverified, rfl⟩
  | _ => cases hm

theorem Earned.eq_of_paired (h : Earned calls m) (hm : m.state = .paired) :
    ∃ principal tenantId challenge response identity annyInstanceId runtimeId,
      calls = [.beginEnrollment principal tenantId challenge response identity,
        .register annyInstanceId, .pair runtimeId] ∧
      verifyResponse principal challenge response identity = true ∧
      m = { state := .paired, principal := .str principal, tenantId := .str tenantId,
            annyInstanceId := .str annyInstanceId, runtimeId := .str runtimeId } := by
  cases h with
  | paired h hstate =>
    obtain ⟨p, t, ch, r, id, i, rfl, hverified, rfl⟩ := h.eq_of_registered hstate
    exact ⟨p, t, ch, r, id, i, _, rfl, hverified, rfl⟩
  | _ => cases hm

theorem Earned.eq_of_ready (h : Earned calls m) (hm : m.state = .ready) :
    ∃ principal tenantId challenge response identity annyInstanceId runtimeId,
      calls = [.beginEnrollment principal tenantId challenge response identity,
        .register annyInstanceId, .pair runtimeId, .activate] ∧
      verifyResponse principal challenge response identity = true ∧
      m = { state := .ready, principal := .str principal, tenantId := .str tenantId,
            annyInstanceId := .str annyInstanceId, runtimeId := .str runtimeId } := by
  cases h with
  | ready h hstate =>
    obtain ⟨p, t, ch, r, id, i, rt, rfl, hverified, rfl⟩ := h.eq_of_paired hstate
    exact ⟨p, t, ch, r, id, i, rt, rfl, hverified, rfl⟩
  | _ => cases hm

/-! ### What is promised -/

/-- A response is accepted by the call that comes after these. -/
def Accepted (before : List Call) (principal tenantId challenge response : String)
    (identity : RuntimeIdentity) : Prop :=
  (after before).succeeds (.beginEnrollment principal tenantId challenge response identity) = true

/-- Enrollment cannot be replayed in this run: a response is only accepted for a challenge that was
issued for the principal and was not accepted before; and the manager is `READY` only after such a
response and the three calls that follow it since the last reset, with all identifiers set. -/
structure NotReplayed (calls : List Call) : Prop where
  fresh : ∀ before principal tenantId challenge response identity rest,
    calls = before ++ .beginEnrollment principal tenantId challenge response identity :: rest →
      Accepted before principal tenantId challenge response identity →
        (∃ drawn, .createChallenge principal drawn ∈ before ∧
          createChallenge principal drawn = challenge) ∧
        ∀ before' principal' tenantId' response' identity' rest',
          before = before' ++
              .beginEnrollment principal' tenantId' challenge response' identity' :: rest' →
            ¬ Accepted before' principal' tenantId' challenge response' identity'
  ready : (after calls).manager.state = .ready →
    (∃ before principal tenantId challenge response identity rest,
      calls = before ++ .beginEnrollment principal tenantId challenge response identity :: rest ∧
      Accepted before principal tenantId challenge response identity ∧ .reset ∉ rest ∧
      ∃ annyInstanceId runtimeId,
        List.Sublist [.register annyInstanceId, .pair runtimeId, .activate] rest) ∧
    (after calls).manager.principal ≠ .null ∧ (after calls).manager.tenantId ≠ .null ∧
    (after calls).manager.annyInstanceId ≠ .null ∧ (after calls).manager.runtimeId ≠ .null

/-- What holds of a run: an accepted response is a signature of the challenge, and comes to a
manager that is not enrolled; and behind a manager that is `READY` there is one accepted response
and one call of the run for each step after it, which also gave it its identifiers. -/
structure Lawful (calls : List Call) : Prop where
  accepted : ∀ before principal tenantId challenge response identity rest,
    calls = before ++ .beginEnrollment principal tenantId challenge response identity :: rest →
      Accepted before principal tenantId challenge response identity →
        (after before).manager.state = .unenrolled ∧
          verifyResponse principal challenge response identity = true
  ready : (after calls).manager.state = .ready →
    ∃ principal tenantId challenge response identity annyInstanceId runtimeId,
      trail calls = [.beginEnrollment principal tenantId challenge response identity,
        .register annyInstanceId, .pair runtimeId, .activate] ∧ (trail calls).Sublist calls ∧
      verifyResponse principal challenge response identity = true ∧
      (after calls).manager =
        { state := .ready, principal := .str principal, tenantId := .str tenantId,
          annyInstanceId := .str annyInstanceId, runtimeId := .str runtimeId }

/-- **Every run is lawful.** -/
theorem lawful (calls : List Call) : Lawful calls where
  accepted before principal tenantId challenge response identity rest _ haccepted := by
    unfold Accepted World.succeeds at haccepted
    cases hr : (after before).result
        (.beginEnrollment principal tenantId challenge response identity) with
    | error r =>
      rw [hr] at haccepted
      cases haccepted
    | ok m =>
      obtain ⟨hstate, hverified, -⟩ := beginEnrollment_eq_ok hr
      exact ⟨hstate, hverified⟩
  ready hready := by
    obtain ⟨p, t, ch, r, id, i, rt, htrail, hverified, hm⟩ :=
      (accounts calls).earned.eq_of_ready hready
    exact ⟨p, t, ch, r, id, i, rt, htrail, (trail_sublist calls).1, hverified, hm⟩

/-- The 32 bytes of a challenge. -/
def drawnZeros : List UInt8 := List.replicate 32 0

/-- An identity that has signed this challenge, and nothing else. -/
def signedOnce : RuntimeIdentity where
  verify message signature := some (decide (message = drawnZeros ∧ signature = [1]))

/-- The response that answers the challenge. -/
def firstResponse : Call :=
  .beginEnrollment "alice" "TEN" (createChallenge "alice" drawnZeros) "01" signedOnce

/-- After a reset the same response to the same challenge is accepted again. -/
theorem accepted_twice : ¬ ∀ calls, NotReplayed calls := by
  intro h
  have hreplayed :=
    (h [.createChallenge "alice" drawnZeros, firstResponse, .reset, firstResponse]).fresh
      [.createChallenge "alice" drawnZeros, firstResponse, .reset] _ _ _ _ _ [] rfl
  refine (hreplayed ?_).2 [.createChallenge "alice" drawnZeros] _ _ _ _ [.reset] rfl ?_
  · rw [Accepted]
    decide +kernel
  · rw [Accepted]
    decide +kernel

end Identity

end AnnyRuntime
