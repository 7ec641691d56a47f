import BoundedStream.Config.Check
import BoundedStream.Host

/-!
# Transports

A transport is an endpoint of a byte stream over either backend.  Both endpoints are
opened from one configuration; the producer makes the pipe or the region, and the
consumer joins it.
-/

namespace BoundedStream

/-- What carries the bytes of a transport. -/
inductive Backend where
  /-- A pipe endpoint of the host. -/
  | pipe (number : Nat)
  | segment (segment : Segment)
deriving DecidableEq, Repr, Inhabited

/-- An open endpoint of a byte stream. -/
structure Transport where
  config : Config
  role : Role
  backend : Backend
deriving DecidableEq, Inhabited

/-- What a call on a transport came to. -/
inductive TransportOutcome where
  | sent (count : Nat)
  | received (bytes : List UInt8)
  | pending (count : Nat)
  | failed (error : StreamError)
  /-- The request was not one that the ring could ever serve. -/
  | rejected (text : String)
deriving DecidableEq, Repr, Inhabited

/-- What the result of a call means to a transport. -/
def Outcome.onTransport : Outcome → TransportOutcome
  | .ring (.produced count) => .sent count
  | .ring (.consumed bytes) => .received bytes
  | .ring (.measured count) => .pending count
  | .ring (.failed error) => .failed (.region error)
  | .ring (.rejected text) => .rejected text
  | .monitor (.ok ()) => .sent 0
  | .monitor (.error error) => .failed (.lock error)
  | .pipe (.produced count) => .sent count
  | .pipe (.consumed bytes) => .received bytes
  | .pipe (.failed error) => .failed (.pipe error)

namespace Transport

/-- Open the backend of a configuration that was checked. -/
def openBackend (host : Host) (config : Config) (role : Role) :
    Except (Failure StreamError) Backend × Host :=
  match config.kind, role with
  | .namedPipe, _ =>
    let (result, host) := host.preparePipe config.path role config.mode config.flags
    ((result.mapError fun error => .error (.pipe error)).map Backend.pipe, host)
  | .sharedMemory, .producer =>
    let (result, memory) := host.memory.create config.path config.capacity config.mode
    ((result.mapError fun error => .error (.region error)).map Backend.segment,
      { host with memory })
  | .sharedMemory, .consumer =>
    let (result, memory) := host.memory.attach config.path
    ((result.mapError (Failure.map StreamError.region)).map Backend.segment,
      { host with memory })

def connect (host : Host) (config : Config) (role : Role) :
    Except (Failure StreamError) Transport × Host :=
  match config.checkFor role with
  | .error error => (.error (.error (.validation error)), host)
  | .ok () =>
    let (result, host) := openBackend host config role
    (result.map fun backend => ⟨config, role, backend⟩, host)

def close (host : Host) (transport : Transport) : Host :=
  match transport.backend with
  | .pipe number => host.closePipe number
  | .segment segment => { host with memory := host.memory.drop segment }

/-- The call that sends data; there is none for empty data. -/
def produceCall? (transport : Transport) (data : List UInt8) : Option Call :=
  if data.isEmpty then none
  else
    match transport.backend with
    | .pipe number => some (.pipe number (.start (.produce data)))
    | .segment segment => some (.ring (.region segment.region) (.start (.produce data true)))

/-- The call that receives up to so many bytes, or exactly so many from a ring; there is
none for no bytes. -/
def consumeCall? (transport : Transport) (length : Nat) : Option Call :=
  if length = 0 then none
  else
    match transport.backend with
    | .pipe number => some (.pipe number (.start (.consume length)))
    | .segment segment =>
      some (.ring (.region segment.region) (.start (.consume length true)))

/-- The call that counts the bytes held; a pipe has none. -/
def pendingCall? (transport : Transport) : Option Call :=
  match transport.backend with
  | .pipe _ => none
  | .segment segment => some (.ring (.region segment.region) (.start .measure))

/-- The number of handles of the region; a pipe has none. -/
def references? (host : Host) (transport : Transport) : Option Int32 :=
  match transport.backend with
  | .pipe _ => none
  | .segment segment => some (host.references segment.region)

def capacity? (host : Host) (transport : Transport) : Option Nat :=
  match transport.backend with
  | .pipe _ => none
  | .segment segment => some ((host.region? segment.region).elim 0 Region.capacity)

def descriptor? (host : Host) (transport : Transport) : Option OpenFile :=
  match transport.backend with
  | .pipe number => (host.pipes[number]?).bind Pipe.file
  | .segment _ => none

def structural (transport : Transport) : String :=
  Text.labelled "Transport"
    [("kind", transport.config.kind.structural), ("role", transport.role.structural),
     ("path", Text.quotePath transport.config.path)]

end Transport

end BoundedStream
