/-!
# Transport configurations

A configuration names the backend of a byte stream, the path under which its two
endpoints meet, the permission bits of what the producer creates, the capacity of
a ring, and the status flags of a pipe descriptor.
-/

namespace BoundedStream

/-- Which backend carries the byte stream. -/
inductive TransportKind where
  | namedPipe
  | sharedMemory
deriving DecidableEq, Repr, Inhabited

namespace TransportKind

/-- The name of a backend in configuration files and messages. -/
def text : TransportKind → String
  | namedPipe => "named_pipe"
  | sharedMemory => "shared_memory"

def structural : TransportKind → String
  | namedPipe => "NamedPipe"
  | sharedMemory => "SharedMemory"

def ofText? (name : String) : Option TransportKind :=
  if name = "named_pipe" then some namedPipe
  else if name = "shared_memory" then some sharedMemory
  else none

@[simp]
theorem ofText?_text (kind : TransportKind) : ofText? kind.text = some kind := by
  cases kind <;> rfl

end TransportKind

/-- The part an endpoint plays; the producer creates the pipe or region. -/
inductive Role where
  | producer
  | consumer
deriving DecidableEq, Repr, Inhabited

namespace Role

def isProducer : Role → Bool
  | producer => true
  | consumer => false

def text : Role → String
  | producer => "producer"
  | consumer => "consumer"

def structural : Role → String
  | producer => "Producer"
  | consumer => "Consumer"

end Role

/-- A transport configuration. -/
structure Config where
  kind : TransportKind
  /-- The path of the pipe, or the file from which the key of a region is derived. -/
  path : String
  /-- Permission bits of what the producer creates. -/
  mode : Nat
  /-- Ring capacity in bytes, for shared memory only. -/
  capacity : Nat
  /-- Additional descriptor status flags, for named pipes only. -/
  flags : Int32
deriving DecidableEq, Inhabited

namespace Config

/-- Permission bits when none are given: the owner may read and write. -/
def defaultMode : Nat := 0o600

/-- A named pipe with default permission bits and no flags. -/
def namedPipe (path : String) : Config :=
  ⟨.namedPipe, path, defaultMode, 0, 0⟩

/-- A shared memory ring with default permission bits. -/
def sharedMemory (path : String) (capacity : Nat) : Config :=
  ⟨.sharedMemory, path, defaultMode, capacity, 0⟩

def withMode (config : Config) (mode : Nat) : Config :=
  { config with mode }

def withFlags (config : Config) (flags : Int32) : Config :=
  { config with flags }

end Config

end BoundedStream
