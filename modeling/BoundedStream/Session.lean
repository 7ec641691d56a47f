import BoundedStream.Endpoint

/-!
# Sessions

A session works on one host with endpoints that are bound to names.  Calls through an
endpoint go on beside each other.  An endpoint is given up when its name is dropped or
bound anew, but not before the calls through it have finished.
-/

namespace BoundedStream

/-- A call that goes on. -/
structure RunningCall where
  /-- Its name; the call of the present step has none. -/
  name : Option String
  /-- The number of the endpoint that it needs. -/
  endpoint : Option Nat
  call : Call
deriving Inhabited

/-- A host with named endpoints and the calls through them. -/
structure Session where
  host : Host
  /-- All endpoints by number; those given up are gone. -/
  endpoints : List (Option Endpoint)
  names : List (String × Nat)
  running : List RunningCall
  /-- The FIFOs that are kept open in both directions. -/
  held : List (String × OpenFile)
deriving Inhabited

namespace Session

def start (host : Host) : Session := ⟨host, [], [], [], []⟩

def number? (session : Session) (name : String) : Option Nat := session.names.lookup name

def get? (session : Session) (number : Nat) : Option Endpoint :=
  (session.endpoints[number]?).join

def endpoint? (session : Session) (name : String) : Option Endpoint :=
  (session.number? name).bind session.get?

/-- Whether a name or a call needs the endpoint of a number. -/
def isNeeded (session : Session) (number : Nat) : Bool :=
  session.names.any (fun binding => binding.2 == number) ||
    session.running.any (fun running => running.endpoint == some number)

/-- Give up the endpoint of a number if nothing needs it. -/
def retire (session : Session) (number : Nat) : Session :=
  match session.get? number with
  | none => session
  | some endpoint =>
    if session.isNeeded number then session
    else
      { session with
        host := endpoint.close session.host
        endpoints := session.endpoints.set number none }

def drop (session : Session) (name : String) : Session :=
  match session.number? name with
  | none => session
  | some number =>
    let names := session.names.filter fun binding => binding.1 != name
    retire { session with names } number

def bind (session : Session) (name : String) (host : Host) (endpoint : Endpoint) :
    Session :=
  let freed := { session with host }.drop name
  { freed with
    endpoints := freed.endpoints ++ [some endpoint]
    names := (name, freed.endpoints.length) :: freed.names }

/-! ## Making endpoints -/

/-- Bind a name to what was made on a host, if it could be made. -/
def bindResult {Error Value : Type} (session : Session) (name : String) (host : Host)
    (endpoint : Value → Endpoint) : Except Error Value → Except Error Unit × Session
  | .error error => (.error error, { session with host })
  | .ok value => (.ok (), session.bind name host (endpoint value))

def makeRing (session : Session) (name : String) (capacity : Nat) :
    Except RegionError Unit × Session :=
  match GuardedRing.allocate capacity with
  | .error error => (.error error, session)
  | .ok guarded =>
    let (number, host) := session.host.addRing guarded
    (.ok (), session.bind name host (.ring number))

def makeMonitor (session : Session) (name : String) : Session :=
  let (number, host) := session.host.addMonitor .new
  session.bind name host (.monitor number)

/-- Make a region for a path and take its first handle. -/
def createSegment (session : Session) (name path : String) (capacity mode : Nat) :
    Except RegionError Unit × Session :=
  let (result, memory) := session.host.memory.create path capacity mode
  session.bindResult name { session.host with memory } .segment result

def attachSegment (session : Session) (name path : String) :
    Except (Failure RegionError) Unit × Session :=
  let (result, memory) := session.host.memory.attach path
  session.bindResult name { session.host with memory } .segment result

def openTransport (session : Session) (name : String) (config : Config) (role : Role) :
    Except (Failure StreamError) Unit × Session :=
  let (result, host) := Transport.connect session.host config role
  session.bindResult name host .transport result

def preparePipe (session : Session) (name path : String) (role : Role) (mode : Nat)
    (flags : Int32) : Except PipeError Unit × Session :=
  let (result, host) := session.host.preparePipe path role mode flags
  session.bindResult name host .pipe result

/-! ## Regions and files -/

/-- Detach a segment by name: the number of handles that remain. -/
def detach? (session : Session) (name : String) : Option (Int32 × Session) :=
  match session.number? name, session.endpoint? name with
  | some number, some (.segment segment) =>
    let (remaining, memory) := session.host.memory.detach segment
    let names := session.names.filter fun binding => binding.1 != name
    some (remaining,
      { session with
        host := { session.host with memory }
        endpoints := session.endpoints.set number none
        names })
  | _, _ => none

def removeRegion (session : Session) (path : String) : Except RegionError Unit × Session :=
  let (result, memory) := session.host.memory.remove path
  (result, { session with host := { session.host with memory } })

/-- Remove an entry of the file system that is not a directory: whether there was one. -/
def unlink (session : Session) (path : String) : Bool × Session :=
  let (removed, files) := session.host.files.unlink path
  (removed, { session with host := session.host.withFiles files })

def release (session : Session) (path : String) : Session :=
  match session.held.lookup path with
  | none => session
  | some file =>
    { session with
      host := session.host.withFiles (file.close session.host.files)
      held := session.held.filter fun kept => kept.1 != path }

/-- Keep a FIFO open in both directions: whether it could be opened. -/
def hold (session : Session) (path : String) : Bool × Session :=
  match OpenFile.openBoth session.host.files path with
  | .error _ => (false, session)
  | .ok (file, files) =>
    let released := { session with host := session.host.withFiles files }.release path
    (true, { released with held := (path, file) :: released.held })

end Session

end BoundedStream
