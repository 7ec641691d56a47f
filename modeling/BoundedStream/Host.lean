import BoundedStream.Monitor.Call
import BoundedStream.Pipe.Call
import BoundedStream.Ring.Call
import BoundedStream.Segment

/-!
# Hosts

The resources of one machine: its files and regions, which processes share, and the
rings, monitors and pipe endpoints that single processes made.  A call names what it
works on by number and advances one step at a time.
-/

namespace BoundedStream

/-- The resources of a machine. -/
structure Host where
  memory : SharedMemory
  /-- Rings on the heap of a process, by number. -/
  rings : List GuardedRing
  /-- Monitors on their own, by number. -/
  monitors : List Monitor
  /-- Pipe endpoints, by number. -/
  pipes : List Pipe
deriving Inhabited

/-- Where a ring or a monitor lies. -/
inductive Location where
  /-- On the heap of a process. -/
  | heap (number : Nat)
  /-- In a region. -/
  | region (number : Nat)
deriving DecidableEq, Repr, Inhabited

/-- A call in progress. -/
inductive Call where
  | ring (location : Location) (call : RingCall)
  | monitor (location : Location) (call : MonitorCall)
  | pipe (number : Nat) (call : PipeCall)
deriving Inhabited

/-- The result of a call. -/
inductive Outcome where
  | ring (outcome : RingOutcome)
  | monitor (result : Except LockError Unit)
  | pipe (outcome : PipeOutcome)
deriving Inhabited

namespace Host

/-- A machine with an empty working directory and nothing else. -/
def fresh : Host := ⟨⟨.fresh, .empty⟩, [], [], []⟩

def files (host : Host) : FileSystem := host.memory.files

def withFiles (host : Host) (files : FileSystem) : Host :=
  { host with memory := { host.memory with files } }

def region? (host : Host) (number : Nat) : Option Region :=
  host.memory.regions.get? number

def updateRegion (host : Host) (number : Nat) (change : Region → Region) : Host :=
  let regions := host.memory.regions.update number change
  { host with memory := { host.memory with regions } }

def guarded? (host : Host) : Location → Option GuardedRing
  | .heap number => host.rings[number]?
  | .region number => (host.region? number).map Region.guarded

def setGuarded (host : Host) (location : Location) (guarded : GuardedRing) : Host :=
  match location with
  | .heap number => { host with rings := host.rings.set number guarded }
  | .region number => host.updateRegion number fun region => { region with guarded }

def monitor? (host : Host) : Location → Option Monitor
  | .heap number => host.monitors[number]?
  | .region number => (host.region? number).map fun region => region.guarded.monitor

def setMonitor (host : Host) (location : Location) (monitor : Monitor) : Host :=
  match location with
  | .heap number => { host with monitors := host.monitors.set number monitor }
  | .region number =>
    host.updateRegion number fun region =>
      { region with guarded := { region.guarded with monitor } }

def addRing (host : Host) (guarded : GuardedRing) : Nat × Host :=
  (host.rings.length, { host with rings := host.rings ++ [guarded] })

def addMonitor (host : Host) (monitor : Monitor) : Nat × Host :=
  (host.monitors.length, { host with monitors := host.monitors ++ [monitor] })

def addPipe (host : Host) (pipe : Pipe) : Nat × Host :=
  (host.pipes.length, { host with pipes := host.pipes ++ [pipe] })

def preparePipe (host : Host) (path : String) (role : Role) (mode : Nat)
    (flags : Int32) : Except PipeError Nat × Host :=
  match Pipe.prepare host.files path role mode flags with
  | .error error => (.error error, host)
  | .ok (pipe, files) =>
    let (number, host) := (host.withFiles files).addPipe pipe
    (.ok number, host)

/-- Close the descriptor of a pipe endpoint for good. -/
def closePipe (host : Host) (number : Nat) : Host :=
  match host.pipes[number]? with
  | none => host
  | some pipe =>
    { host.withFiles (pipe.close host.files) with
      pipes := host.pipes.set number { pipe with file := none } }

/-- The number of handles of a region, as the region has it. -/
def references (host : Host) (number : Nat) : Int32 :=
  (host.region? number).elim 0 Region.references

/-! ## Placing things -/

/-- A thing that is placed in a file system. -/
inductive Item where
  | file (bytes : List UInt8)
  | directory
  | fifo (mode : Nat)
  | link (target : String)
deriving DecidableEq, Repr, Inhabited

/-- Place a thing at a path; nothing happens if that cannot be done. -/
def place (host : Host) (path : String) (item : Item) : Host :=
  let placed : Except SystemError FileSystem :=
    match item with
    | .file bytes =>
      (host.files.createFile path).map fun (inode, files) => files.writeFile inode 0 bytes
    | .directory => (host.files.makeDirectory path).map Prod.snd
    | .fifo mode => (host.files.makeFifo path mode).map Prod.snd
    | .link target => (host.files.makeLink path target).map Prod.snd
  match placed with
  | .ok files => host.withFiles files
  | .error _ => host

/-- Put a region of zeroed memory in the place of the one for a path: whether there was
none. -/
def plant (host : Host) (path : String) (size capacity : Nat) (references : Int32) :
    Bool × Host :=
  let (planted, memory) := host.memory.plant path size capacity references
  (planted, { host with memory })

end Host

namespace Call

def outcome? : Call → Option Outcome
  | ring _ ⟨_, .finished outcome⟩ => some (.ring outcome)
  | monitor _ ⟨_, .finished result⟩ => some (.monitor result)
  | pipe _ ⟨_, .finished outcome⟩ => some (.pipe outcome)
  | _ => none

def step (host : Host) : Call → Option (Host × Call)
  | ring location call => do
    let guarded ← host.guarded? location
    let (guarded, call) ← call.step guarded
    pure (host.setGuarded location guarded, .ring location call)
  | monitor location call => do
    let monitor ← host.monitor? location
    let (monitor, call) ← call.step monitor
    pure (host.setMonitor location monitor, .monitor location call)
  | pipe number call => do
    let pipe ← host.pipes[number]?
    let (scene, call) ← call.step ⟨host.files, pipe⟩
    let host := host.withFiles scene.files
    pure ({ host with pipes := host.pipes.set number scene.pipe }, .pipe number call)

/-- Let a call go on until it has finished or has to wait: whether it took a step, and
what became of it. -/
def advance : Nat → Host → Call → Bool → Bool × Host × Call
  | 0, host, call, moved => (moved, host, call)
  | fuel + 1, host, call, moved =>
    match call.step host with
    | none => (moved, host, call)
    | some (host, call) => advance fuel host call true

/-- More steps than any call takes before it has to wait. -/
def patience : Nat := 1 <<< 40

/-- Let a call go on until it has finished or has to wait: its result, if it has one. -/
def complete (host : Host) (call : Call) : Option Outcome × Host :=
  let (_, host, call) := advance patience host call false
  (call.outcome?, host)

end Call

end BoundedStream
