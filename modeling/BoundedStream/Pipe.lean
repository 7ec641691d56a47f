import BoundedStream.Config
import BoundedStream.FileSystem.OpenFile

/-!
# Named pipe endpoints

An endpoint is prepared at a path where a FIFO is, or where its producer makes one.  Its
descriptor is not opened before the first transfer, since opening a FIFO for one
direction waits until it is opened for the other.
-/

namespace BoundedStream

/-- One endpoint of a named pipe. -/
structure Pipe where
  path : String
  role : Role
  /-- Status flags for the descriptor once it is open. -/
  flags : Int32
  /-- The descriptor, once open. -/
  file : Option OpenFile
  /-- Whether a transfer is opening the descriptor. -/
  opening : Bool
deriving DecidableEq, Inhabited

namespace Pipe

/-- An endpoint whose descriptor is not open. -/
def closed (path : String) (role : Role) (flags : Int32) : Pipe :=
  ⟨path, role, flags, none, false⟩

def leadsToFifo (files : FileSystem) (path : String) : Bool :=
  match files.resolve true path with
  | .ok inode => (files.fifo? inode).isSome
  | .error _ => false

/-- Make the FIFO of a producer.  Something that came into existence meanwhile must be a
FIFO. -/
def makeFifo (files : FileSystem) (path : String) (mode : Nat) :
    Except PipeError FileSystem :=
  match files.makeFifo path mode with
  | .ok (_, made) => .ok made
  | .error (.number errno) =>
    if errno = .alreadyExists then
      if leadsToFifo files path then .ok files else .error (.notFifo path)
    else .error (.createFailed path (.number errno))
  | .error error => .error (.createFailed path error)

/-- Prepare an endpoint.  The producer makes the FIFO if nothing exists at the path. -/
def prepare (files : FileSystem) (path : String) (role : Role) (mode : Nat)
    (flags : Int32) : Except PipeError (Pipe × FileSystem) :=
  match files.resolve true path with
  | .ok inode =>
    if (files.fifo? inode).isSome then .ok (closed path role flags, files)
    else .error (.notFifo path)
  | .error error =>
    if error.kind = .notFound then
      match role with
      | .consumer => .ok (closed path role flags, files)
      | .producer =>
        (makeFifo files path mode).map fun made => (closed path role flags, made)
    else .error (.openFailed path error)

def isOpen (pipe : Pipe) : Bool := pipe.file.isSome

def close (files : FileSystem) (pipe : Pipe) : FileSystem :=
  pipe.file.elim files (OpenFile.close files)

end Pipe

end BoundedStream
