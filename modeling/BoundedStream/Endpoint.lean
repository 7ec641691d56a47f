import BoundedStream.Transport

/-!
# Endpoints

Everything through which bytes are sent or received, and the monitor on its own.  A call
through an endpoint fails in the words of the layer that was called.
-/

namespace BoundedStream

/-- Something through which calls are made. -/
inductive Endpoint where
  /-- A ring of the host. -/
  | ring (number : Nat)
  | segment (segment : Segment)
  | transport (transport : Transport)
  /-- A pipe endpoint of the host. -/
  | pipe (number : Nat)
  /-- A monitor of the host. -/
  | monitor (number : Nat)
deriving DecidableEq, Inhabited

/-- The error of a call, in the words of the layer that was called. -/
inductive CallError where
  | region (error : RegionError)
  | stream (error : StreamError)
  | pipe (error : PipeError)
  | lock (error : LockError)
  /-- The request was not one that the ring could ever serve. -/
  | rejected (text : String)
deriving DecidableEq, Repr, Inhabited

/-- The value of a call that succeeded. -/
inductive CallValue where
  | count (count : Nat)
  | bytes (bytes : List UInt8)
  /-- The call was not made for a value. -/
  | nothing
deriving DecidableEq, Repr, Inhabited

namespace Endpoint

/-- Give up an endpoint.  Rings and monitors of the host need nothing. -/
def close (host : Host) : Endpoint → Host
  | .segment handle => { host with memory := host.memory.drop handle }
  | .transport opened => opened.close host
  | .pipe number => host.closePipe number
  | .ring _ | .monitor _ => host

/-- What the result of a call means to a ring or a segment. -/
def ringResult : Outcome → Except CallError CallValue
  | .ring (.produced count) => .ok (.count count)
  | .ring (.consumed bytes) => .ok (.bytes bytes)
  | .ring (.measured count) => .ok (.count count)
  | .ring (.failed error) => .error (.region error)
  | .ring (.rejected text) => .error (.rejected text)
  | .monitor (.ok ()) => .ok .nothing
  | .monitor (.error error) => .error (.lock error)
  | .pipe (.produced count) => .ok (.count count)
  | .pipe (.consumed bytes) => .ok (.bytes bytes)
  | .pipe (.failed error) => .error (.pipe error)

/-- What the result of a call means to a transport. -/
def transportResult (outcome : Outcome) : Except CallError CallValue :=
  match outcome.onTransport with
  | .sent count => .ok (.count count)
  | .received bytes => .ok (.bytes bytes)
  | .pending count => .ok (.count count)
  | .failed error => .error (.stream error)
  | .rejected text => .error (.rejected text)

/-- What the result of a call means to the endpoint through which it was made. -/
def resultOf (endpoint : Option Endpoint) (outcome : Outcome) :
    Except CallError CallValue :=
  match endpoint with
  | some (.transport _) => transportResult outcome
  | _ => ringResult outcome

/-! ## Calls through an endpoint -/

def produceCall? (endpoint : Endpoint) (data : List UInt8) (wait : Bool) : Option Call :=
  match endpoint with
  | .ring number => some (.ring (.heap number) (.start (.produce data wait)))
  | .segment handle => some (.ring (.region handle.region) (.start (.produce data wait)))
  | .transport opened => opened.produceCall? data
  | .pipe number => some (.pipe number (.start (.produce data)))
  | .monitor _ => none

/-- The call that receives bytes through an endpoint. -/
def consumeCall? (endpoint : Endpoint) (length : Nat) (wait : Bool) : Option Call :=
  match endpoint with
  | .ring number => some (.ring (.heap number) (.start (.consume length wait)))
  | .segment handle =>
    some (.ring (.region handle.region) (.start (.consume length wait)))
  | .transport opened => opened.consumeCall? length
  | .pipe number => some (.pipe number (.start (.consume length)))
  | .monitor _ => none

def measureCall? : Endpoint → Option Call
  | .ring number => some (.ring (.heap number) (.start .measure))
  | .segment handle => some (.ring (.region handle.region) (.start .measure))
  | .transport opened => opened.pendingCall?
  | .pipe _ | .monitor _ => none

def monitorCall? (endpoint : Endpoint) (request : MonitorRequest) : Option Call :=
  match endpoint with
  | .monitor number => some (.monitor (.heap number) (.start request))
  | _ => none

end Endpoint

end BoundedStream
