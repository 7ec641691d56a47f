import BoundedStream.Error

/-!
# Monitors

A mutex and the two conditions on which the parties of a ring wait.  If a party dies
while it holds a robust mutex, the next party that takes it is told so and gives it up
for good; every later attempt fails.  A condition counts its broadcasts, and a sleeper
may go on once the count has changed.
-/

namespace BoundedStream

/-- What a party of a ring waits for. -/
inductive Condition where
  | dataAvailable
  | spaceAvailable
deriving DecidableEq, Repr, Inhabited

/-- The state of a mutex. -/
inductive LockState where
  | free
  | held
  /-- The party that held it died, and nobody took it since. -/
  | abandoned
  /-- It can never be taken again. -/
  | broken
deriving DecidableEq, Repr, Inhabited

/-- A mutex and two conditions. -/
structure Monitor where
  lock : LockState
  /-- Whether the death of the holder is noticed. -/
  robust : Bool
  dataSignals : Nat
  spaceSignals : Nat
deriving DecidableEq, Repr, Inhabited

namespace Monitor

def new : Monitor := ⟨.free, true, 0, 0⟩

/-- The monitor that zeroed memory makes: free, but the death of a holder is not
noticed. -/
def zeroed : Monitor := ⟨.free, false, 0, 0⟩

def signals (monitor : Monitor) : Condition → Nat
  | .dataAvailable => monitor.dataSignals
  | .spaceAvailable => monitor.spaceSignals

def broadcast (monitor : Monitor) : Condition → Monitor
  | .dataAvailable => { monitor with dataSignals := monitor.dataSignals + 1 }
  | .spaceAvailable => { monitor with spaceSignals := monitor.spaceSignals + 1 }

/-- Try to take the mutex: nothing while another party holds it, and an error once a
holder died. -/
def acquire? (monitor : Monitor) : Option (Monitor × Except LockError Unit) :=
  match monitor.lock with
  | .free => some ({ monitor with lock := .held }, .ok ())
  | .held => none
  | .abandoned => some ({ monitor with lock := .broken }, .error .ownerDied)
  | .broken => some (monitor, .error .notRecoverable)

def release (monitor : Monitor) : Monitor := { monitor with lock := .free }

/-- Die while holding the mutex. -/
def abandon (monitor : Monitor) : Monitor :=
  if monitor.robust then { monitor with lock := .abandoned } else monitor

end Monitor

end BoundedStream
