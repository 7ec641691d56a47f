import BoundedStream.Pipe

/-!
# Transfers through a named pipe

A transfer looks for the descriptor of its endpoint and opens it if there is none; only
one transfer opens it at a time, and those that waited meanwhile look again.  Then it
reads or writes once.  Each of these is a step of its own, between which other parties
take theirs.
-/

namespace BoundedStream

/-- What a party asks of a named pipe. -/
inductive PipeRequest where
  | produce (data : List UInt8)
  | consume (length : Nat)
deriving DecidableEq, Repr, Inhabited

/-- The result of a transfer. -/
inductive PipeOutcome where
  | produced (count : Nat)
  | consumed (bytes : List UInt8)
  | failed (error : PipeError)
deriving DecidableEq, Repr, Inhabited

/-- How far a transfer has come. -/
inductive PipePhase where
  /-- About to look for the descriptor. -/
  | looking
  /-- There was none, and it wants to be the one that opens it. -/
  | queueing
  /-- It is the one that opens, and looks again. -/
  | rechecking
  /-- About to open the FIFO. -/
  | opening
  /-- It opened its end and waits until the other end was opened once more. -/
  | awaitingPeer (file : OpenFile) (opens : Nat)
  /-- About to set the flags of the open descriptor and to keep it. -/
  | keeping (file : OpenFile)
  /-- It transfers through the descriptor. -/
  | transferring (progress : OpenFile.WriteProgress)
  | finished (outcome : PipeOutcome)
deriving Inhabited

/-- A transfer in progress. -/
structure PipeCall where
  request : PipeRequest
  phase : PipePhase
deriving Inhabited

/-- The files and the endpoint that a transfer works on. -/
structure PipeScene where
  files : FileSystem
  pipe : Pipe
deriving Inhabited

/-- The data that are still to be written when the transfer starts. -/
def PipeRequest.progress : PipeRequest → OpenFile.WriteProgress
  | .produce data => .start data
  | .consume _ => .start []

namespace PipeCall

/-- A transfer that has not begun. -/
def start (request : PipeRequest) : PipeCall := ⟨request, .looking⟩

def goTo (call : PipeCall) (phase : PipePhase) : PipeCall := { call with phase }

def beginTransfer (call : PipeCall) : PipeCall :=
  call.goTo (.transferring call.request.progress)

/-- Fail to open: the endpoint stays closed and others may try. -/
def failOpening (scene : PipeScene) (call : PipeCall) (error : SystemError) :
    PipeScene × PipeCall :=
  ({ scene with pipe := { scene.pipe with opening := false } },
    call.goTo (.finished (.failed (.openFailed scene.pipe.path error))))

/-- Open the end of a FIFO: its reader or its writer is counted at once, and the other
side need not be there yet. -/
def openFifo (scene : PipeScene) (call : PipeCall) (inode : Nat) (fifo : Fifo) :
    PipeScene × PipeCall :=
  let isProducer := scene.pipe.role.isProducer
  let file := OpenFile.forRole inode isProducer
  let opened := if isProducer then fifo.openWriter else fifo.openReader
  let peers := if isProducer then fifo.readers else fifo.writers
  let opens := if isProducer then fifo.readerOpens else fifo.writerOpens
  let scene := { scene with files := scene.files.setContent inode (.fifo opened) }
  (scene, call.goTo (if peers = 0 then .awaitingPeer file opens else .keeping file))

def openPath (scene : PipeScene) (call : PipeCall) : PipeScene × PipeCall :=
  match scene.files.resolve true scene.pipe.path with
  | .error error => failOpening scene call error
  | .ok inode =>
    let isProducer := scene.pipe.role.isProducer
    match scene.files.content? inode with
    | some (.fifo fifo) => call.openFifo scene inode fifo
    | some (.directory _ _) =>
      if isProducer then failOpening scene call (.number .isDirectory)
      else (scene, call.goTo (.keeping (.forRole inode isProducer)))
    | _ => (scene, call.goTo (.keeping (.forRole inode isProducer)))

/-- Whether the other end was opened since the given number of openings. -/
def peerCame (files : FileSystem) (file : OpenFile) (opens : Nat) : Bool :=
  match files.fifo? file.inode with
  | some fifo => (if file.writable then fifo.readerOpens else fifo.writerOpens) != opens
  | none => true

/-- Set the flags of an open descriptor and keep it. -/
def keep (scene : PipeScene) (call : PipeCall) (file : OpenFile) : PipeScene × PipeCall :=
  let pipe :=
    { scene.pipe with file := some (file.addFlags scene.pipe.flags), opening := false }
  ({ scene with pipe }, call.beginTransfer)

def readOnce (scene : PipeScene) (call : PipeCall) (file : OpenFile) (count : Nat) :
    Option (PipeScene × PipeCall) :=
  match file.read scene.files count with
  | .blocked => none
  | .failed errno =>
    some (scene, call.goTo (.finished (.failed (.read (.number errno)))))
  | .done (bytes, files, file) =>
    some (⟨files, { scene.pipe with file := some file }⟩,
      call.goTo (.finished (.consumed bytes)))

def writeOnce (scene : PipeScene) (call : PipeCall) (file : OpenFile)
    (progress : OpenFile.WriteProgress) : Option (PipeScene × PipeCall) :=
  match file.write scene.files progress with
  | .blocked => none
  | .failed errno =>
    some (scene, call.goTo (.finished (.failed (.write (.number errno)))))
  | .done (count, progress, files, file) =>
    let phase : PipePhase :=
      match count with
      | some count => .finished (.produced count)
      | none => .transferring progress
    some (⟨files, { scene.pipe with file := some file }⟩, call.goTo phase)

/-- Go on with the transfer through the descriptor. -/
def transfer (scene : PipeScene) (call : PipeCall) (progress : OpenFile.WriteProgress) :
    Option (PipeScene × PipeCall) :=
  match scene.pipe.file, call.request with
  | none, _ => some (scene, call.goTo .looking)
  | some file, .consume count => call.readOnce scene file count
  | some file, .produce _ => call.writeOnce scene file progress

def step (scene : PipeScene) (call : PipeCall) : Option (PipeScene × PipeCall) :=
  match call.phase with
  | .looking =>
    some (scene, if scene.pipe.isOpen then call.beginTransfer else call.goTo .queueing)
  | .queueing =>
    if scene.pipe.opening then none
    else
      some ({ scene with pipe := { scene.pipe with opening := true } },
        call.goTo .rechecking)
  | .rechecking =>
    if scene.pipe.isOpen then
      some ({ scene with pipe := { scene.pipe with opening := false } },
        call.beginTransfer)
    else some (scene, call.goTo .opening)
  | .opening => some (call.openPath scene)
  | .awaitingPeer file opens =>
    if peerCame scene.files file opens then some (scene, call.goTo (.keeping file))
    else none
  | .keeping file => some (call.keep scene file)
  | .transferring progress => call.transfer scene progress
  | .finished _ => none

end PipeCall

end BoundedStream
