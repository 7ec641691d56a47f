import BoundedStream.Session

/-!
# Calls of a session

The calls of a session go on beside each other until each has finished or has to wait.
Endpoints that only finished calls needed are given up, which may let other calls go on.
-/

namespace BoundedStream

/-- A call that has finished. -/
structure FinishedCall where
  name : Option String
  call : Call
  result : Except CallError CallValue
deriving Inhabited

namespace Session

/-- The call on the monitor of the region for a path. -/
def regionCall? (session : Session) (path : String) (request : MonitorRequest) :
    Option Call :=
  match session.host.memory.deriveKey path with
  | .error _ => none
  | .ok key =>
    (session.host.memory.regions.find? key).map fun number =>
      .monitor (.region number) (.start request)

def begin (session : Session) (running : RunningCall) : Session :=
  { session with running := session.running ++ [running] }

/-- Let every call go on once: whether one of them took a step, and the calls that
finished. -/
def round (host : Host) :
    List RunningCall → Bool × Host × List (RunningCall × Outcome) × List RunningCall
  | [] => (false, host, [], [])
  | running :: later =>
    let (moved, host, call) := running.call.advance Call.patience host false
    let running := { running with call }
    let (movedLater, host, finished, waiting) := round host later
    match call.outcome? with
    | some outcome => (moved || movedLater, host, (running, outcome) :: finished, waiting)
    | none => (moved || movedLater, host, finished, running :: waiting)

/-- Announce finished calls and give up the endpoints that only they needed. -/
def conclude (session : Session) :
    List (RunningCall × Outcome) → List FinishedCall × Session
  | [] => ([], session)
  | (running, outcome) :: later =>
    let endpoint := running.endpoint.bind session.get?
    let result := Endpoint.resultOf endpoint outcome
    let (finished, session) := session.conclude later
    (⟨running.name, running.call, result⟩ :: finished,
      running.endpoint.elim session session.retire)

/-- Let the calls go on until each has finished or has to wait. -/
def settleFor : Nat → Session → List FinishedCall × Session
  | 0, session => ([], session)
  | fuel + 1, session =>
    let (moved, host, finished, running) := round session.host session.running
    let (concluded, session) := { session with host, running }.conclude finished
    if moved then
      let (later, session) := settleFor fuel session
      (concluded ++ later, session)
    else (concluded, session)

/-- Let the calls go on until each has finished or has to wait: those that finished. -/
def settle (session : Session) : List FinishedCall × Session :=
  settleFor Call.patience session

/-- The names of the calls that have to wait, in order. -/
def waiting (session : Session) : List String :=
  (session.running.filterMap RunningCall.name).mergeSort fun first second =>
    decide (first ≤ second)

/-- Whether a running call holds a mutex under a name. -/
def isHolder (running : RunningCall) (name : String) : Bool :=
  running.name == some name &&
    match running.call with
    | .monitor _ ⟨.hold, _⟩ => true
    | _ => false

/-- Tell a holder to leave the mutex: whether there is one of that name. -/
def letGo (session : Session) (name : String) : Bool × Session :=
  let tell (running : RunningCall) : RunningCall :=
    match running.call with
    | .monitor location call =>
      if isHolder running name then
        { running with call := .monitor location call.letGo }
      else running
    | _ => running
  (session.running.any fun running => isHolder running name,
    { session with running := session.running.map tell })

end Session

end BoundedStream
