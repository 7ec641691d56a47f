import BoundedStream.SystemError

/-!
# Errors of the stream transport

One type per layer: configuration, locks, regions, pipes, the whole transport and
the commands.  Each error has a message, a structural form and a chain of causes.
Two classes of errors invite another try: those of a request that could only be
completed by waiting, and those of a request cut short by a signal.
-/

namespace BoundedStream

/-- How a call ends that does not bring what it was made for: with an error, which the caller
gets, or in a crash. -/
inductive Failure (Error : Type) where
  | error (error : Error)
  | crash (text : String)
deriving DecidableEq, Repr, Inhabited

/-- The failure of a call in the words of the layer that made it. -/
def Failure.map {Error Error' : Type} (convert : Error → Error') :
    Failure Error → Failure Error'
  | error reason => .error (convert reason)
  | crash text => .crash text

/-- A configuration refused before any resource is touched. -/
inductive ValidationError where
  | missingField (field context : String)
  | invalidField (field value reason : String)
  | capacityOutOfBounds (capacity least greatest : Nat)
deriving DecidableEq, Repr, Inhabited

namespace ValidationError

def message : ValidationError → String
  | missingField field context =>
    "Missing required field: " ++ field ++ " in " ++ context
  | invalidField field value reason =>
    "Invalid field value: " ++ field ++ " = " ++ value ++ " - " ++ reason
  | capacityOutOfBounds capacity least greatest =>
    "Capacity out of bounds: " ++ toString capacity ++ " bytes (min: " ++
      toString least ++ ", max: " ++ toString greatest ++ ")"

def structural : ValidationError → String
  | missingField field context =>
    Text.labelled "MissingRequiredField"
      [("field", Text.quote field), ("context", Text.quote context)]
  | invalidField field value reason =>
    Text.labelled "InvalidFieldValue"
      [("field", Text.quote field), ("value", Text.quote value),
       ("reason", Text.quote reason)]
  | capacityOutOfBounds capacity least greatest =>
    Text.labelled "CapacityOutOfBounds"
      [("capacity", toString capacity), ("min", toString least),
       ("max", toString greatest)]

end ValidationError

/-- A failure of the mutex or of a condition of a ring. -/
inductive LockError where
  | system (operation : String) (errno : Errno)
  /-- A party died while it held the mutex; the guarded state may be half written. -/
  | ownerDied
  /-- The mutex was given up after the death of a former owner. -/
  | notRecoverable
deriving DecidableEq, Repr, Inhabited

namespace LockError

def message : LockError → String
  | system operation errno => operation ++ " failed: " ++ errno.describe
  | ownerDied => "Lock owner died while holding the ring buffer mutex"
  | notRecoverable => "Ring buffer mutex is not recoverable (a previous owner died)"

def structural : LockError → String
  | system operation errno =>
    Text.labelled "Os" [("operation", Text.quote operation), ("errno", errno.symbol)]
  | ownerDied => "OwnerDied"
  | notRecoverable => "NotRecoverable"

end LockError

/-- A failure of a shared region or of the ring in it. -/
inductive RegionError where
  | keyDerivation (path : String) (errno : Errno)
  | alreadyExists (path : String)
  | notFound (path : String)
  | createFailed (path : String) (errno : Errno)
  | attachFailed (path : String) (errno : Errno)
  | statFailed (path : String) (errno : Errno)
  | removeFailed (path : String) (errno : Errno)
  | notInitialized (path : String)
  | layoutMismatch (path reason : String)
  | invalidCapacity (capacity : Nat) (reason : String)
  | ringFull (size available : Nat)
  | insufficientData (size available : Nat)
  | lock (error : LockError)
deriving DecidableEq, Repr, Inhabited

namespace RegionError

def message : RegionError → String
  | keyDerivation path errno =>
    "Failed to derive key from " ++ path ++ ": " ++ errno.describe
  | alreadyExists path => "Shared memory region already exists for " ++ path
  | notFound path => "No shared memory region exists for " ++ path
  | createFailed path errno =>
    "Failed to create shared memory region for " ++ path ++ ": " ++ errno.describe
  | attachFailed path errno =>
    "Failed to attach shared memory region for " ++ path ++ ": " ++ errno.describe
  | statFailed path errno =>
    "Failed to stat shared memory region for " ++ path ++ ": " ++ errno.describe
  | removeFailed path errno =>
    "Failed to remove shared memory region for " ++ path ++ ": " ++ errno.describe
  | notInitialized path =>
    "Shared memory region for " ++ path ++ " is not initialized yet"
  | layoutMismatch path reason =>
    "Shared memory layout mismatch for " ++ path ++ ": " ++ reason
  | invalidCapacity capacity reason =>
    "Invalid ring buffer capacity " ++ toString capacity ++ ": " ++ reason
  | ringFull size available =>
    "Ring buffer full - cannot write " ++ toString size ++ " bytes (" ++
      toString available ++ " available)"
  | insufficientData size available =>
    "Ring buffer holds " ++ toString available ++ " bytes - cannot read " ++
      toString size
  | lock error => error.message

def structural : RegionError → String
  | keyDerivation path errno => withErrno "KeyDerivation" path errno
  | alreadyExists path => withPath "AlreadyExists" path
  | notFound path => withPath "NotFound" path
  | createFailed path errno => withErrno "CreateFailed" path errno
  | attachFailed path errno => withErrno "AttachFailed" path errno
  | statFailed path errno => withErrno "StatFailed" path errno
  | removeFailed path errno => withErrno "RemoveFailed" path errno
  | notInitialized path => withPath "NotInitialized" path
  | layoutMismatch path reason =>
    Text.labelled "LayoutMismatch"
      [("path", Text.quotePath path), ("reason", Text.quote reason)]
  | invalidCapacity capacity reason =>
    Text.labelled "InvalidCapacity"
      [("capacity", toString capacity), ("reason", Text.quote reason)]
  | ringFull size available => withSizes "RingBufferFull" size available
  | insufficientData size available => withSizes "InsufficientData" size available
  | lock error => Text.wrapped "Sync" error.structural
where
  withPath (name path : String) : String :=
    Text.labelled name [("path", Text.quotePath path)]
  withErrno (name path : String) (errno : Errno) : String :=
    Text.labelled name [("path", Text.quotePath path), ("errno", errno.symbol)]
  withSizes (name : String) (size available : Nat) : String :=
    Text.labelled name [("size", toString size), ("available", toString available)]

/-- A request that did not wait and could only be completed by waiting. -/
def isWouldBlock : RegionError → Bool
  | ringFull _ _ | insufficientData _ _ => true
  | _ => false

end RegionError

/-- A failure of a named pipe. -/
inductive PipeError where
  | createFailed (path : String) (source : SystemError)
  | notFifo (path : String)
  | openFailed (path : String) (source : SystemError)
  | flags (path : String) (source : SystemError)
  | read (source : SystemError)
  | write (source : SystemError)
deriving DecidableEq, Repr, Inhabited

namespace PipeError

def message : PipeError → String
  | createFailed path source =>
    "Failed to create FIFO " ++ path ++ ": " ++ source.message
  | notFifo path => "Path exists and is not a FIFO: " ++ path
  | openFailed path source => "Failed to open FIFO " ++ path ++ ": " ++ source.message
  | flags path source =>
    "Failed to set descriptor flags on " ++ path ++ ": " ++ source.message
  | read source => "Read from FIFO failed: " ++ source.message
  | write source => "Write to FIFO failed: " ++ source.message

def structural : PipeError → String
  | createFailed path source => withSource "CreateFailed" path source
  | notFifo path => Text.labelled "NotAFifo" [("path", Text.quotePath path)]
  | openFailed path source => withSource "OpenFailed" path source
  | flags path source => withSource "Flags" path source
  | read source => Text.wrapped "Read" source.structural
  | write source => Text.wrapped "Write" source.structural
where
  withSource (name path : String) (source : SystemError) : String :=
    Text.labelled name [("path", Text.quotePath path), ("source", source.structural)]

def source? : PipeError → Option SystemError
  | createFailed _ source | openFailed _ source | flags _ source => some source
  | read source | write source => some source
  | notFifo _ => none

/-- The system failure of the transfer itself, not of creating or opening the pipe. -/
def transferSource? : PipeError → Option SystemError
  | read source | write source => some source
  | _ => none

/-- A transfer that could only be completed by waiting. -/
def isWouldBlock (error : PipeError) : Bool :=
  error.transferSource?.any fun source => source.kind == .wouldBlock

def isInterrupted (error : PipeError) : Bool :=
  error.transferSource?.any fun source => source.kind == .interrupted

end PipeError

/-- Why a configuration document cannot be read. -/
inductive DocumentError where
  /-- The text is not a single well-formed document. -/
  | malformed
  /-- The document is well formed, and this is wrong with it. -/
  | described (text : String)
deriving DecidableEq, Repr, Inhabited

def DocumentError.text : DocumentError → String
  | malformed => "YAML parse error: malformed document"
  | described text => text

/-- A failure of the transport or of its configuration. -/
inductive StreamError where
  | validation (error : ValidationError)
  | configNotFound (path : String)
  | configDocument (error : DocumentError)
  | region (error : RegionError)
  | lock (error : LockError)
  | pipe (error : PipeError)
  | system (context : String) (source : SystemError)
deriving DecidableEq, Repr, Inhabited

namespace StreamError

def message : StreamError → String
  | validation error => "Hard validation error: " ++ error.message
  | configNotFound path => "Configuration file not found: " ++ path
  | configDocument error => "Configuration parse error: " ++ error.text
  | region error => "Shared memory error: " ++ error.message
  | lock error => "Synchronization error: " ++ error.message
  | pipe error => "Named pipe error: " ++ error.message
  | system context source => "IO error: " ++ context ++ " - " ++ source.message

def structural : StreamError → String
  | validation error => Text.wrapped "HardValidation" error.structural
  | configNotFound path =>
    Text.labelled "ConfigNotFound" [("path", Text.quotePath path)]
  | configDocument error =>
    Text.labelled "ConfigParse" [("message", Text.quote error.text)]
  | region error => Text.wrapped "SharedMemory" error.structural
  | lock error => Text.wrapped "Sync" error.structural
  | pipe error => Text.wrapped "Pipe" error.structural
  | system context source =>
    Text.labelled "Io" [("context", Text.quote context), ("source", source.structural)]

/-- The messages of the causes of an error, outermost first. -/
def causes : StreamError → List String
  | validation error => [error.message]
  | configNotFound _ | configDocument _ => []
  | region error => [error.message]
  | lock error => [error.message]
  | pipe error => error.message :: (error.source?.map SystemError.message).toList
  | system _ source => [source.message]

/-- A request that could only be completed by waiting. -/
def isWouldBlock : StreamError → Bool
  | region error => error.isWouldBlock
  | pipe error => error.isWouldBlock
  | _ => false

def isInterrupted : StreamError → Bool
  | pipe error => error.isInterrupted
  | _ => false

end StreamError

/-- A failure of a command. -/
inductive CommandError where
  | missingArgument (what : String)
  | invalidChunk
  | system (context : String) (source : SystemError)
  | stream (error : StreamError)
deriving DecidableEq, Repr, Inhabited

namespace CommandError

def message : CommandError → String
  | missingArgument what =>
    "Missing " ++ what ++ ": pass it on the command line or in the config file"
  | invalidChunk => "--chunk must be at least 1 byte"
  | system context source => "IO error: " ++ context ++ " - " ++ source.message
  | stream error => error.message

def structural : CommandError → String
  | missingArgument what =>
    Text.labelled "MissingArgument" [("what", Text.quote what)]
  | invalidChunk => "InvalidChunk"
  | system context source =>
    Text.labelled "Io" [("context", Text.quote context), ("source", source.structural)]
  | stream error => Text.wrapped "Conduit" error.structural

/-- The messages of the causes of an error, outermost first. -/
def causes : CommandError → List String
  | missingArgument _ | invalidChunk => []
  | system _ source => [source.message]
  | stream error => error.causes

end CommandError

end BoundedStream
