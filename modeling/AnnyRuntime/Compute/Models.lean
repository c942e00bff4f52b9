import Mathlib.Tactic.TypeStar

/-!
# Remote compute sessions

The states of a remote session, its lease and what is known of it.
-/

namespace AnnyRuntime

namespace Compute

/-- `RemoteSessionState`. -/
inductive RemoteSessionState where
  | disconnected
  | authPending
  | connecting
  | provisioning
  | connected
  | auditing
  | ready
  | degraded
  | expired
  | failed
  | terminating
  | terminated
  deriving DecidableEq

/-- The states in which a session is over. -/
def RemoteSessionState.isOver (s : RemoteSessionState) : Bool :=
  s = .expired || s = .terminated || s = .failed

/-- The states in which a session is in use. -/
def RemoteSessionState.alive (s : RemoteSessionState) : Bool := s = .ready || s = .connected

theorem RemoteSessionState.isOver_of_alive {s : RemoteSessionState} (h : s.alive = true) :
    s.isOver = false := by
  cases s with
  | ready => rfl
  | connected => rfl
  | _ => cases h

/-- `RemoteComputeSession`, with the end of its lease.  The metadata are texts. -/
structure RemoteComputeSession where
  sessionId : String
  state : RemoteSessionState
  expiresAt : Option Int
  metadata : List (String × String)
  deriving DecidableEq

end Compute

end AnnyRuntime
