import BoundedStream.Program.Request

/-!
# Deliveries

An endpoint may take less than it is offered.  A delivery offers what is left until
everything was taken; it tries again after an interruption, and after a pause when the
endpoint could only have gone on by waiting.
-/

namespace BoundedStream

/-- How far a delivery has come. -/
inductive Delivery where
  /-- About to offer what is left. -/
  | offering (rest : List UInt8)
  /-- About to pause before it offers what is left. -/
  | resting (rest : List UInt8)
  | delivered
  | failed (error : CommandError)
deriving DecidableEq, Repr, Inhabited

namespace Delivery

def start (data : List UInt8) : Delivery :=
  if data.isEmpty then .delivered else .offering data

/-- The error of an endpoint that takes nothing without an error of its own. -/
def stalled : CommandError := .system "writing to transport" (.bare .writeZero)

def answered (rest : List UInt8) :
    Except StreamError (Fin (rest.length + 1)) → Delivery
  | .ok count =>
    if count.val = 0 then .failed stalled else start (rest.drop count.val)
  | .error error =>
    if error.isInterrupted then .offering rest
    else if error.isWouldBlock then .resting rest
    else .failed (.stream error)

/-- What a delivery does: the result says whether everything was taken. -/
def turn : Delivery → Turn Delivery (Except CommandError Unit)
  | .offering rest => .ask (.send rest) (answered rest)
  | .resting rest => .ask .pause fun _ => .offering rest
  | .delivered => .finished (.ok ())
  | .failed error => .finished (.error error)

@[simp]
theorem start_nil : start [] = .delivered := rfl

@[simp]
theorem start_cons (byte : UInt8) (data : List UInt8) :
    start (byte :: data) = .offering (byte :: data) := rfl

end Delivery

end BoundedStream
