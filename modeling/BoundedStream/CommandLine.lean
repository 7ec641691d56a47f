import BoundedStream.Command.Arguments

/-!
# Command lines

A command line names a command after options that hold for every command.  This module
has the commands with their arguments, the options, and the ways in which a command line
is refused.
-/

namespace BoundedStream

/-- A command with its arguments. -/
inductive Command where
  /-- Stream a file or the standard input into the transport. -/
  | produce (transport : TransportArguments) (input : Option String) (chunk : Nat)
  /-- Stream transport data to a file or to the standard output. -/
  | consume (transport : TransportArguments) (output : Option String)
      (bytes : Option Nat) (chunk : Nat)
  /-- Validate a configuration file. -/
  | validate (file : String)
  /-- Mark a stale region for removal. -/
  | remove (path : String)
deriving DecidableEq, Repr, Inhabited

/-- What a command line asks for. -/
structure Invocation where
  config : Option String
  verbose : Bool
  command : Command
deriving DecidableEq, Repr, Inhabited

/-- Bytes of a chunk when none are given. -/
def Command.defaultChunk : Nat := 65536

/-- Why a command line is not carried out, or what it asks for instead. -/
inductive UsageError where
  | unknownArgument
  | invalidValue
  | valueValidation
  | argumentConflict
  | tooManyValues
  | invalidSubcommand
  | missingSubcommand
  | missingRequiredArgument
  | displayHelp
  | displayVersion
  | displayHelpOnMissing
deriving DecidableEq, Repr, Inhabited

/-- Where on a command line an argument stands. -/
inductive Level where
  /-- Before the command. -/
  | root
  | produce
  | consume
  | validate
  | remove
deriving DecidableEq, Repr, Inhabited

def Level.ofCommand? (name : String) : Option Level :=
  if name = "produce" then some produce
  else if name = "consume" then some consume
  else if name = "validate" then some validate
  else if name = "remove" then some remove
  else none

/-- An option. -/
inductive OptionName where
  | config
  | verbose
  | help
  | version
  | kind
  | path
  | capacity
  | mode
  | nonblock
  | input
  | output
  | bytes
  | chunk
deriving DecidableEq, Repr, Inhabited

namespace OptionName

def long : OptionName → String
  | config => "config"
  | verbose => "verbose"
  | help => "help"
  | version => "version"
  | kind => "kind"
  | path => "path"
  | capacity => "capacity"
  | mode => "mode"
  | nonblock => "nonblock"
  | input => "input"
  | output => "output"
  | bytes => "bytes"
  | chunk => "chunk"

def short? : OptionName → Option Char
  | config => some 'c'
  | verbose => some 'v'
  | help => some 'h'
  | version => some 'V'
  | input => some 'i'
  | output => some 'o'
  | bytes => some 'b'
  | _ => none

def takesValue : OptionName → Bool
  | verbose | help | version | nonblock => false
  | _ => true

def atRoot : List OptionName := [config, verbose, help, version]

/-- Options that hold for every command and may stand behind it. -/
def global : List OptionName := [config, verbose, help]

def forTransport : List OptionName := [kind, path, capacity, mode, nonblock]

def allowed : Level → List OptionName
  | .root => atRoot
  | .produce => forTransport ++ [input, chunk] ++ global
  | .consume => forTransport ++ [output, bytes, chunk] ++ global
  | .validate => global
  | .remove => path :: global

def ofLong? (level : Level) (name : String) : Option OptionName :=
  (allowed level).find? fun option => option.long == name

def ofShort? (level : Level) (letter : Char) : Option OptionName :=
  (allowed level).find? fun option => option.short? == some letter

end OptionName

/-- The value of an option. -/
inductive OptionValue where
  | present
  | text (text : String)
  | backend (kind : TransportKind)
  | number (number : Nat)
deriving DecidableEq, Repr, Inhabited

namespace OptionValue

def readNumber (text : String) : Except UsageError OptionValue :=
  match Numeral.parse 10 (1 <<< 64) text.toList with
  | .ok value => .ok (.number value)
  | .error _ => .error .valueValidation

/-- Read a path, which is not empty. -/
def readPath (text : String) : Except UsageError OptionValue :=
  if text = "" then .error .invalidValue else .ok (.text text)

def read (option : OptionName) (text : String) : Except UsageError OptionValue :=
  match option with
  | .kind =>
    if text = "shm" then .ok (.backend .sharedMemory)
    else if text = "pipe" then .ok (.backend .namedPipe)
    else .error .invalidValue
  | .path | .input | .output => readPath text
  | .capacity | .bytes | .chunk => readNumber text
  | .mode =>
    match Config.parseMode text with
    | .ok mode => .ok (.number mode)
    | .error _ => .error .valueValidation
  | _ => .ok (.text text)

end OptionValue

end BoundedStream
