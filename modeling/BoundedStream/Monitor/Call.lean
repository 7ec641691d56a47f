import BoundedStream.Monitor

/-!
# Calls on a monitor

The calls that only concern the mutex and the conditions, one step at a time: taking the
mutex, sleeping, waking and leaving it are separate steps, between which other parties
take theirs.
-/

namespace BoundedStream

/-- What a party does with a monitor. -/
inductive MonitorRequest where
  /-- Take the mutex and leave it. -/
  | pass
  /-- Take the mutex and keep it until told to leave it. -/
  | hold
  /-- Take the mutex and sleep once. -/
  | await (condition : Condition)
  /-- Take the mutex and wake the sleepers of a condition. -/
  | notify (condition : Condition)
  /-- Take the mutex, perhaps wake sleepers, and die with it. -/
  | die (condition : Option Condition)
deriving DecidableEq, Repr, Inhabited

/-- How far a call on a monitor has come. -/
inductive MonitorPhase where
  /-- About to take the mutex. -/
  | locking
  /-- It holds the mutex and has not done anything yet. -/
  | acting
  /-- It holds the mutex until told to leave it. -/
  | holding
  /-- It sleeps until the broadcast count is another one. -/
  | asleep (signals : Nat)
  /-- About to take the mutex again after its sleep. -/
  | relocking
  /-- About to leave the mutex. -/
  | unlocking
  | finished (result : Except LockError Unit)
deriving Inhabited

/-- A call on a monitor in progress. -/
structure MonitorCall where
  request : MonitorRequest
  phase : MonitorPhase
deriving Inhabited

namespace MonitorCall

/-- A call that has not begun. -/
def start (request : MonitorRequest) : MonitorCall := ⟨request, .locking⟩

def goTo (call : MonitorCall) (phase : MonitorPhase) : MonitorCall := { call with phase }

def act (monitor : Monitor) (call : MonitorCall) : Monitor × MonitorCall :=
  match call.request with
  | .pass => (monitor, call.goTo .unlocking)
  | .hold => (monitor, call.goTo .holding)
  | .await condition =>
    (monitor.release, call.goTo (.asleep (monitor.signals condition)))
  | .notify condition => (monitor.broadcast condition, call.goTo .unlocking)
  | .die condition =>
    ((condition.elim monitor monitor.broadcast).abandon, call.goTo (.finished (.ok ())))

/-- The count of broadcasts that a sleeping call watches. -/
def watched (monitor : Monitor) (call : MonitorCall) : Nat :=
  match call.request with
  | .await condition => monitor.signals condition
  | _ => 0

/-- Take the mutex and go to a phase, or finish with the error of the mutex. -/
def acquireFor (monitor : Monitor) (call : MonitorCall) (phase : MonitorPhase) :
    Option (Monitor × MonitorCall) :=
  monitor.acquire?.map fun (monitor, result) =>
    match result with
    | .ok () => (monitor, call.goTo phase)
    | .error error => (monitor, call.goTo (.finished (.error error)))

def step (monitor : Monitor) (call : MonitorCall) : Option (Monitor × MonitorCall) :=
  match call.phase with
  | .locking => call.acquireFor monitor .acting
  | .acting => some (call.act monitor)
  | .holding => none
  | .asleep signals =>
    if call.watched monitor = signals then none else some (monitor, call.goTo .relocking)
  | .relocking => call.acquireFor monitor .unlocking
  | .unlocking => some (monitor.release, call.goTo (.finished (.ok ())))
  | .finished _ => none

def letGo (call : MonitorCall) : MonitorCall :=
  match call.phase with
  | .holding => call.goTo .unlocking
  | _ => call

end MonitorCall

end BoundedStream
