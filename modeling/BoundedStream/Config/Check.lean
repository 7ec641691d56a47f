import BoundedStream.Config
import BoundedStream.Config.Flag
import BoundedStream.Config.Mode

/-!
# Validation of configurations

A configuration is checked for the role of the endpoint that opens it.  The fields
are looked at in a fixed order and the first fault is the answer.  A section read
from a file is checked in the same way after its mode and its flags were read.
-/

namespace BoundedStream

namespace Config

/-- The smallest accepted ring capacity. -/
def leastCapacity : Nat := 1

/-- The largest accepted ring capacity: one gibibyte. -/
def greatestCapacity : Nat := 1024 * 1024 * 1024

/-- Check the fields that only one backend knows. -/
def checkBackend (config : Config) (role : Role) : Except ValidationError Unit :=
  match config.kind with
  | .sharedMemory =>
    let attaches := role = .consumer ∧ config.capacity = 0
    if ¬ attaches ∧
        ¬ (leastCapacity ≤ config.capacity ∧ config.capacity ≤ greatestCapacity) then
      .error (.capacityOutOfBounds config.capacity leastCapacity greatestCapacity)
    else if config.flags ≠ 0 then
      .error (.invalidField "flags" (toString config.flags.toInt)
        "descriptor flags only apply to named_pipe")
    else .ok ()
  | .namedPipe =>
    if config.capacity ≠ 0 then
      .error (.invalidField "capacity" (toString config.capacity)
        "capacity only applies to shared_memory")
    else .ok ()

/-- Check a configuration for the endpoint that opens it.  A consumer of shared
memory may leave the capacity at zero, since it takes it from the region. -/
def checkFor (config : Config) (role : Role) : Except ValidationError Unit :=
  if config.path = "" then
    .error (.missingField "path" (config.kind.text ++ " transport"))
  else if greatestMode < config.mode then
    .error (invalidMode (Numeral.print 8 config.mode) onlyPermissionBits)
  else config.checkBackend role

/-- Check a configuration on its own; shared memory needs a capacity. -/
def check (config : Config) : Except ValidationError Unit :=
  config.checkFor .producer

/-- A transport section of a configuration file before its validation. -/
structure Section where
  kind : TransportKind
  path : String
  mode : Option String
  capacity : Option Nat
  flags : List String
deriving DecidableEq, Repr, Inhabited

/-- Combine named flags, or find the first name that is not one of a flag. -/
def combineFlags : List String → Except ValidationError Int32
  | [] => .ok 0
  | name :: names => do
    let flag ← parseFlag name
    let others ← combineFlags names
    pure (flag.value ||| others)

namespace Section

def readMode (raw : Section) : Except ValidationError Nat :=
  match raw.mode with
  | some value => parseMode value
  | none => .ok defaultMode

/-- The capacity of a section, which shared memory must give. -/
def readCapacity (raw : Section) : Except ValidationError Nat :=
  match raw.kind, raw.capacity with
  | .sharedMemory, none =>
    .error (.missingField "capacity" "shared_memory transport")
  | _, capacity => .ok (capacity.getD 0)

/-- Turn a section into a configuration that passes `check`. -/
def validate (raw : Section) : Except ValidationError Config := do
  let mode ← raw.readMode
  let flags ← combineFlags raw.flags
  let capacity ← raw.readCapacity
  let config : Config := ⟨raw.kind, raw.path, mode, capacity, flags⟩
  config.check
  pure config

end Section

end Config

end BoundedStream
