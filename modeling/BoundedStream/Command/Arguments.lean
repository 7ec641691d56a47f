import BoundedStream.Config.File

/-!
# Transport arguments

The transport that a command uses is given by its arguments, by a configuration file, or
by both; the arguments count field by field.  Fields of a file for another backend do not
carry over, its path excepted.
-/

namespace BoundedStream

/-- The transport arguments of a command. -/
structure TransportArguments where
  kind : Option TransportKind
  path : Option String
  capacity : Option Nat
  mode : Option Nat
  nonblock : Bool
deriving DecidableEq, Repr, Inhabited

namespace TransportArguments

def none : TransportArguments := ⟨.none, .none, .none, .none, false⟩

/-- The configuration of a file under another backend: only its path stays. -/
def rebase (kind : TransportKind) : Option Config → Config
  | some base =>
    if base.kind = kind then base
    else ⟨kind, base.path, Config.defaultMode, 0, 0⟩
  | .none => ⟨kind, "", Config.defaultMode, 0, 0⟩

/-- The backend that the arguments or the file name. -/
def chosenKind (arguments : TransportArguments) (base : Option Config) :
    Except CommandError TransportKind :=
  match arguments.kind, base with
  | some kind, _ => .ok kind
  | .none, some base => .ok base.kind
  | .none, .none => .error (.missingArgument "--kind")

/-- The configuration of the file with the given arguments in place of its fields. -/
def override (arguments : TransportArguments) (base : Config) : Config where
  kind := base.kind
  path := arguments.path.getD base.path
  mode := arguments.mode.getD base.mode
  capacity := arguments.capacity.getD base.capacity
  flags :=
    if arguments.nonblock then base.flags ||| DescriptorFlag.nonblock.value
    else base.flags

def lacksCapacity (arguments : TransportArguments) (config : Config) (role : Role) :
    Bool :=
  config.kind == .sharedMemory && role.isProducer && config.capacity == 0 &&
    arguments.capacity.isNone

/-- Merge the arguments over the configuration of a file and check the result. -/
def merge (arguments : TransportArguments) (base : Option Config) (role : Role) :
    Except CommandError Config := do
  let kind ← arguments.chosenKind base
  let config := arguments.override (rebase kind base)
  if config.path = "" then .error (.missingArgument "--path")
  else if arguments.lacksCapacity config role then
    .error (.missingArgument "--capacity")
  else
    match config.checkFor role with
    | .error error => .error (.stream (.validation error))
    | .ok () => .ok config

/-- Merge the arguments over the configuration in a file, if one is named. -/
def resolve (arguments : TransportArguments) (files : FileSystem)
    (configFile : Option String) (role : Role) : Except CommandError Config :=
  match configFile with
  | .none => arguments.merge .none role
  | some path =>
    match Config.loadFile files path with
    | .error error => .error (.stream error)
    | .ok base => arguments.merge (some base) role

end TransportArguments

end BoundedStream
