import ContainRes.Text.Python

/-! # The state of a session

`VirtualDesktopSessionState`, and the part of a session record that decides what the lifecycle calls do
with it. A session becomes `READY` only when the broker reports its DCV session as ready, so a `READY`
record names its DCV session; the record carries that as a field. -/

namespace ContainRes.VirtualDesktop

open Text

inductive VirtualDesktopSessionState
  | provisioning
  | creating
  | initializing
  | ready
  | resuming
  | stopping
  | stopped
  | error
  | deleting
  | deleted
  deriving DecidableEq, Repr

/-- The state of a session and the DCV session it names. -/
structure SessionStatus where
  state : VirtualDesktopSessionState
  dcvSessionId : Option String
  ready_named : state = .ready → isEmptyOpt dcvSessionId = false

namespace SessionStatus

/-- A status in a state other than `READY`. -/
def withState (status : SessionStatus) (state : VirtualDesktopSessionState) (h : state ≠ .ready) :
    SessionStatus where
  state := state
  dcvSessionId := status.dcvSessionId
  ready_named := fun hready => absurd hready h

end SessionStatus

end ContainRes.VirtualDesktop
