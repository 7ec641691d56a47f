import BoundedStream.Config.Flag
import BoundedStream.FileSystem

/-!
# Open files

An open file has a direction, status flags and a place in the file.  Reading and writing
a FIFO may have to wait for the other side; a write that waits keeps what it wrote.
-/

namespace BoundedStream

/-- An open file. -/
structure OpenFile where
  inode : Nat
  readable : Bool
  writable : Bool
  /-- The status flags that can be changed: append, nonblock and async. -/
  flags : Int32
  /-- The place of the next byte. -/
  offset : Nat
deriving DecidableEq, Inhabited

/-- The result of an attempt to read or write. -/
inductive Attempt (α : Type) where
  /-- Nothing can be done before the other side does something. -/
  | blocked
  | failed (errno : Errno)
  | done (value : α)
deriving Inhabited

namespace OpenFile

/-- The flags that a request to set status flags changes. -/
def changeable : Int32 :=
  DescriptorFlag.append.value ||| DescriptorFlag.nonblock.value |||
    DescriptorFlag.async.value

def has (file : OpenFile) (flag : DescriptorFlag) : Bool :=
  file.flags &&& flag.value != 0

/-- Set more status flags; others than the changeable ones are ignored. -/
def addFlags (file : OpenFile) (flags : Int32) : OpenFile :=
  { file with flags := file.flags ||| (flags &&& changeable) }

/-- The status flags with the direction: 0 for reading, 1 for writing. -/
def status (file : OpenFile) : Int32 :=
  file.flags ||| (if file.writable then 1 else 0)

def advance (file : OpenFile) (count : Nat) : OpenFile :=
  { file with offset := file.offset + count }

def readFifo (files : FileSystem) (file : OpenFile) (fifo : Fifo) (count : Nat) :
    Attempt (List UInt8 × FileSystem × OpenFile) :=
  if count = 0 then .done ([], files, file)
  else if fifo.pages.isEmpty then
    if fifo.writers = 0 then .done ([], files, file)
    else if file.has .nonblock then .failed .tryAgain
    else .blocked
  else
    let (bytes, rest) := fifo.read count
    .done (bytes, files.setContent file.inode (.fifo rest), file)

def read (files : FileSystem) (file : OpenFile) (count : Nat) :
    Attempt (List UInt8 × FileSystem × OpenFile) :=
  if !file.readable then .failed .badDescriptor
  else
    match files.content? file.inode with
    | some (.fifo fifo) => file.readFifo files fifo count
    | some (.file bytes) =>
      let data := (bytes.extract file.offset (file.offset + count)).toList
      .done (data, files, file.advance data.length)
    | some (.directory _ _) => .failed .isDirectory
    | _ => .failed .badDescriptor

/-- What a write has come to. -/
structure WriteProgress where
  /-- Whether the write began. -/
  begun : Bool
  /-- The bytes that were taken. -/
  written : Nat
  /-- The bytes that are still to be taken. -/
  rest : List UInt8
deriving DecidableEq, Repr, Inhabited

/-- A write that did not begin. -/
def WriteProgress.start (data : List UInt8) : WriteProgress := ⟨false, 0, data⟩

def fill (fifo : Fifo) (progress : WriteProgress) : WriteProgress × Fifo :=
  let (behind, fifo) :=
    if progress.begun then (progress.rest, fifo) else fifo.beginWrite progress.rest
  let (rest, fifo) := fifo.continueWrite behind
  (⟨true, progress.written + (progress.rest.length - rest.length), rest⟩, fifo)

/-- Go on with a write to a FIFO.  The answer is the number of bytes written once the
write ended, and otherwise how far it came. -/
def writeFifo (files : FileSystem) (file : OpenFile) (fifo : Fifo)
    (progress : WriteProgress) : Attempt (Option Nat × WriteProgress × FileSystem) :=
  if progress.rest.isEmpty then .done (some progress.written, progress, files)
  else if fifo.readers = 0 then
    if progress.written = 0 then .failed .brokenPipe
    else .done (some progress.written, progress, files)
  else
    let (filled, fifo) := fill fifo progress
    let files := files.setContent file.inode (.fifo fifo)
    if filled.rest.isEmpty then .done (some filled.written, filled, files)
    else if file.has .nonblock then
      if filled.written = 0 then .failed .tryAgain
      else .done (some filled.written, filled, files)
    else if filled.written = progress.written ∧ progress.begun then .blocked
    else .done (none, filled, files)

def write (files : FileSystem) (file : OpenFile) (progress : WriteProgress) :
    Attempt (Option Nat × WriteProgress × FileSystem × OpenFile) :=
  if !file.writable then .failed .badDescriptor
  else
    match files.content? file.inode with
    | some (.fifo fifo) =>
      match file.writeFifo files fifo progress with
      | .blocked => .blocked
      | .failed errno => .failed errno
      | .done (count, progress, files) => .done (count, progress, files, file)
    | some (.file bytes) =>
      let offset := if file.has .append then bytes.size else file.offset
      let count := progress.rest.length
      .done (some count, progress, files.writeFile file.inode offset progress.rest,
        { file with offset := offset + count })
    | _ => .failed .badDescriptor

def close (files : FileSystem) (file : OpenFile) : FileSystem :=
  files.updateFifo file.inode fun fifo =>
    let fifo := if file.readable then fifo.closeReader else fifo
    if file.writable then fifo.closeWriter else fifo

/-- An open file for one role: producers write and consumers read. -/
def forRole (inode : Nat) (isProducer : Bool) : OpenFile :=
  ⟨inode, !isProducer, isProducer, 0, 0⟩

/-- Open a FIFO in both directions, which needs no other side. -/
def openBoth (files : FileSystem) (path : String) :
    Except SystemError (OpenFile × FileSystem) :=
  match files.resolve true path with
  | .error error => .error error
  | .ok inode =>
    .ok (⟨inode, true, true, 0, 0⟩,
      files.updateFifo inode fun fifo => fifo.openReader.openWriter)

end OpenFile

end BoundedStream
