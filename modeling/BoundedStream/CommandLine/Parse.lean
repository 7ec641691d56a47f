import BoundedStream.CommandLine

/-!
# Reading command lines

The arguments are taken one by one.  The value of an option may be attached to it or be
the next argument; an option that waits for its value is settled when the next option or
positional argument is met, or at the end.  Two hyphens on their own make all that
follows positional.  Every option may be given once at a level.
-/

namespace BoundedStream

namespace CommandLine

/-- An option or positional argument that is not settled yet. -/
inductive Pending where
  /-- An option and the value that was met for it, if any. -/
  | option (name : OptionName) (value : Option String)
  /-- The file of a command that takes one. -/
  | file (value : String)
deriving DecidableEq, Repr, Inhabited

/-- What was read at one level. -/
structure Reading where
  level : Level
  /-- The options that were settled. -/
  given : List (OptionName × OptionValue)
  file : Option String
  pending : Option Pending
  /-- Whether the file was met. -/
  fileMet : Bool
  /-- Whether all that follows is positional. -/
  trailing : Bool
deriving DecidableEq, Repr, Inhabited

namespace Reading

def start (level : Level) : Reading := ⟨level, [], none, none, false, false⟩

def get? (reading : Reading) (option : OptionName) : Option OptionValue :=
  reading.given.lookup option

def has (reading : Reading) (option : OptionName) : Bool :=
  (reading.get? option).isSome

def text? (reading : Reading) (option : OptionName) : Option String :=
  match reading.get? option with
  | some (.text text) => some text
  | _ => none

def number? (reading : Reading) (option : OptionName) : Option Nat :=
  match reading.get? option with
  | some (.number number) => some number
  | _ => none

def backend? (reading : Reading) (option : OptionName) : Option TransportKind :=
  match reading.get? option with
  | some (.backend kind) => some kind
  | _ => none

def add (reading : Reading) (option : OptionName) (value : OptionValue) : Reading :=
  { reading with given := reading.given ++ [(option, value)] }

/-- Settle an option with its value.  An option without its value is refused first, then
one that was given before, then a value that cannot be read. -/
def settle (reading : Reading) (option : OptionName) (value : Option String) :
    Except UsageError Reading :=
  match value with
  | none => .error .invalidValue
  | some text =>
    if reading.has option then .error .argumentConflict
    else (OptionValue.read option text).map (reading.add option)

def settlePending (reading : Reading) : Except UsageError Reading :=
  let settled := { reading with pending := none }
  match reading.pending with
  | none => .ok reading
  | some (.file file) => .ok { settled with file := some file }
  | some (.option option value) => settled.settle option value

def awaitsValue (reading : Reading) : Bool :=
  match reading.pending with
  | some (.option _ none) => true
  | _ => false

def meetSwitch (reading : Reading) (option : OptionName) : Except UsageError Reading := do
  let reading ← reading.settlePending
  match option with
  | .help => .error .displayHelp
  | .version => .error .displayVersion
  | _ =>
    if reading.has option then .error .argumentConflict
    else pure (reading.add option .present)

/-- Meet an option that takes a value, which may be attached to it. -/
def meetOption (reading : Reading) (option : OptionName) (attached : Option String) :
    Except UsageError Reading := do
  let reading ← reading.settlePending
  match attached with
  | some value => reading.settle option (some value)
  | none => pure { reading with pending := some (.option option none) }

/-- Meet an argument that starts with two hyphens, without them. -/
def meetLong (reading : Reading) (body : List Char) : Except UsageError Reading :=
  let name := body.takeWhile (· ≠ '=')
  let attached :=
    match body.drop name.length with
    | [] => none
    | _ :: value => some (String.ofList value)
  match OptionName.ofLong? reading.level (String.ofList name) with
  | none => .error .unknownArgument
  | some option =>
    if option.takesValue then reading.meetOption option attached
    else if attached.isSome then .error .tooManyValues
    else reading.meetSwitch option

/-- Meet the letters behind one hyphen.  A letter that takes a value takes the rest. -/
def meetShort (reading : Reading) : List Char → Except UsageError Reading
  | [] => .ok reading
  | letter :: rest =>
    match OptionName.ofShort? reading.level letter with
    | none => .error .unknownArgument
    | some option =>
      if option.takesValue then
        let attached :=
          match rest with
          | [] => none
          | '=' :: value => some (String.ofList value)
          | value => some (String.ofList value)
        reading.meetOption option attached
      else do
        let reading ← reading.meetSwitch option
        reading.meetShort rest

def meetPositional (reading : Reading) (argument : String) :
    Except UsageError Reading :=
  match reading.level with
  | .root =>
    let isCommand := (Level.ofCommand? argument).isSome || argument == "help"
    if reading.trailing && isCommand then .error .unknownArgument
    else .error .invalidSubcommand
  | .validate =>
    if reading.fileMet then .error .unknownArgument
    else do
      let reading ← reading.settlePending
      pure { reading with pending := some (.file argument), fileMet := true }
  | _ => .error .unknownArgument

def meet (reading : Reading) (argument : String) : Except UsageError Reading :=
  if reading.trailing then reading.meetPositional argument
  else
    match argument.toList with
    | ['-', '-'] => .ok { reading with trailing := true }
    | '-' :: '-' :: body => reading.meetLong body
    | '-' :: letter :: rest => reading.meetShort (letter :: rest)
    | _ =>
      match reading.pending with
      | some (.option option none) =>
        .ok { reading with pending := some (.option option (some argument)) }
      | _ => reading.meetPositional argument

def run (reading : Reading) : List String → Except UsageError Reading
  | [] => reading.settlePending
  | argument :: rest => do
    let reading ← reading.meet argument
    reading.run rest

def transport (reading : Reading) : TransportArguments where
  kind := reading.backend? .kind
  path := reading.text? .path
  capacity := reading.number? .capacity
  mode := reading.number? .mode
  nonblock := reading.has .nonblock

/-- The bytes of a chunk. -/
def chunk (reading : Reading) : Nat := (reading.number? .chunk).getD Command.defaultChunk

/-- The command that was read, once what it requires was given. -/
def command (reading : Reading) : Except UsageError Command :=
  match reading.level with
  | .root => .error .missingSubcommand
  | .produce =>
    .ok (.produce reading.transport (reading.text? .input) reading.chunk)
  | .consume =>
    .ok (.consume reading.transport (reading.text? .output) (reading.number? .bytes)
      reading.chunk)
  | .validate =>
    match reading.file with
    | some file => .ok (.validate file)
    | none => .error .missingRequiredArgument
  | .remove =>
    match reading.text? .path with
    | some path => .ok (.remove path)
    | none => .error .missingRequiredArgument

/-- What the root and the command ask for together.  An option that stands at both
counts where it stands behind the command. -/
def invocation (root reading : Reading) (command : Command) : Invocation where
  config := (reading.text? .config).or (root.text? .config)
  verbose := root.has .verbose || reading.has .verbose
  command := command

end Reading

def askHelp : Level → List String → UsageError
  | _, [] => .displayHelp
  | .root, name :: rest =>
    match Level.ofCommand? name with
    | some level => askHelp level rest
    | none => if name = "help" ∧ rest = [] then .displayHelp else .invalidSubcommand
  | _, _ :: _ => .invalidSubcommand

/-- The end of a command line without a command. -/
def endWithoutCommand (root : Reading) : UsageError :=
  match root.settlePending with
  | .error error => error
  | .ok root =>
    if root.given.isEmpty then .displayHelpOnMissing else .missingSubcommand

/-- Read a command at its level, then settle what was pending before it. -/
def readCommand (root : Reading) (level : Level) (arguments : List String) :
    Except UsageError Invocation := do
  let reading ← (Reading.start level).run arguments
  let command ← reading.command
  let root ← root.settlePending
  pure (root.invocation reading command)

/-- Read the arguments before the command, and the command. -/
def readFrom (root : Reading) : List String → Except UsageError Invocation
  | [] => .error (endWithoutCommand root)
  | argument :: rest =>
    let mayBeCommand := !root.trailing && !root.awaitsValue
    match if mayBeCommand then Level.ofCommand? argument else none with
    | some level => readCommand root level rest
    | none =>
      if mayBeCommand && argument == "help" then .error (askHelp .root rest)
      else do
        let root ← root.meet argument
        readFrom root rest

/-- Read a command line, the program name not included. -/
def parse (arguments : List String) : Except UsageError Invocation :=
  readFrom (.start .root) arguments

end CommandLine

end BoundedStream
