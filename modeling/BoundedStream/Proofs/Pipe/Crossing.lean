import BoundedStream.Pipe.Call

/-!
# One transfer and the descriptor of its endpoint

What a step of a transfer, or a refusal of the system, does to the endpoint.  A transfer that
holds the lock of the endpoint finds it closed before it opens, and either keeps what it opened
or leaves the endpoint as it was; it gives the lock back whatever happens.  A transfer against
the direction of the descriptor is refused.
-/

namespace BoundedStream

namespace OpenFile

/-- An open file is another one apart from the place in the file. -/
def Continues (file kept : OpenFile) : Prop := file = { kept with offset := file.offset }

variable {files later : FileSystem} {file kept : OpenFile}

theorem Continues.refl (file : OpenFile) : file.Continues file := rfl

theorem Continues.trans {last : OpenFile} (second : last.Continues file)
    (first : file.Continues kept) : last.Continues kept := by
  rw [Continues, second, first]

/-- Only a file that is open for reading is read, and it remains the same open file. -/
theorem read_done {count : Nat} {bytes : List UInt8}
    (done : file.read files count = .done (bytes, later, kept)) :
    file.readable = true ∧ kept.Continues file := by
  unfold read at done
  split at done
  · cases done
  · rename_i readable
    refine ⟨by simpa using readable, ?_⟩
    split at done
    · unfold readFifo at done
      split at done
      · cases done; rfl
      · split at done
        · split at done
          · cases done; rfl
          · split at done <;> cases done
        · cases done; rfl
    · cases done; rfl
    · cases done
    · cases done

/-- Only a file that is open for writing is written, and it remains the same open file. -/
theorem write_done {progress progress' : WriteProgress} {count : Option Nat}
    (done : file.write files progress = .done (count, progress', later, kept)) :
    file.writable = true ∧ kept.Continues file := by
  unfold write at done
  split at done
  · cases done
  · rename_i writable
    refine ⟨by simpa using writable, ?_⟩
    split at done
    · split at done <;> cases done
      rfl
    · cases done; rfl
    · cases done

end OpenFile

namespace PipeRequest

/-- Whether a request goes the way that an endpoint is for. -/
def suits (role : Role) : PipeRequest → Bool
  | produce _ => role.isProducer
  | consume _ => !role.isProducer

/-- Whether a request goes the way that a file is open for. -/
def goesWith (file : OpenFile) : PipeRequest → Bool
  | produce _ => file.writable
  | consume _ => file.readable

/-- The error of a read or a write that the system refuses. -/
def refusal (error : SystemError) : PipeRequest → PipeError
  | produce _ => .write error
  | consume _ => .read error

/-- What the system may answer to a transfer that opens, reads or writes. -/
inductive Answers (request : PipeRequest) (path : String) : PipePhase → PipePhase → Prop
  | refuseOpening (error : SystemError) :
      Answers request path .opening (.finished (.failed (.openFailed path error)))
  | refuseFlags (file : OpenFile) (error : SystemError) :
      Answers request path (.keeping file) (.finished (.failed (.flags path error)))
  | write (data : List UInt8) (progress progress' : OpenFile.WriteProgress)
      (asks : request = .produce data) :
      Answers request path (.transferring progress) (.transferring progress')
  | written (data : List UInt8) (progress : OpenFile.WriteProgress) (count : Nat)
      (asks : request = .produce data) :
      Answers request path (.transferring progress) (.finished (.produced count))
  | refuseWrite (data : List UInt8) (progress : OpenFile.WriteProgress) (error : SystemError)
      (asks : request = .produce data) :
      Answers request path (.transferring progress) (.finished (.failed (.write error)))
  | read (length : Nat) (progress : OpenFile.WriteProgress) (bytes : List UInt8)
      (asks : request = .consume length) :
      Answers request path (.transferring progress) (.finished (.consumed bytes))
  | refuseRead (length : Nat) (progress : OpenFile.WriteProgress) (error : SystemError)
      (asks : request = .consume length) :
      Answers request path (.transferring progress) (.finished (.failed (.read error)))

end PipeRequest

/-- The error says that an endpoint could not be opened. -/
def PipeError.isOpening : PipeError → Bool
  | openFailed _ _ | flags _ _ => true
  | _ => false

namespace PipePhase

/-- Whether a transfer holds the lock of its endpoint. -/
def holds : PipePhase → Bool
  | rechecking | opening | awaitingPeer _ _ | keeping _ => true
  | _ => false

/-- Whether a transfer has not come to read or write, and never will if it has failed. -/
def precedes : PipePhase → Bool
  | transferring _ => false
  | finished (.failed error) => error.isOpening
  | finished _ => false
  | _ => true

/-- What a transfer can rely on of its endpoint: one that holds the lock that the others keep
away, and one that has looked that the endpoint is closed or open. -/
def Relies (pipe : Pipe) : PipePhase → Prop
  | rechecking => pipe.opening = true
  | opening => pipe.opening = true ∧ pipe.file = none
  | awaitingPeer file _ | keeping file =>
    pipe.opening = true ∧ pipe.file = none ∧ ∃ inode, file = .forRole inode pipe.role.isProducer
  | transferring _ => pipe.isOpen = true
  | _ => True

end PipePhase

namespace PipePhase

variable {pipe : Pipe} {phase : PipePhase}

theorem Relies.opening (relies : phase.Relies pipe) (holds : phase.holds = true) :
    pipe.opening = true := by
  cases phase with
  | rechecking => exact relies
  | opening | awaitingPeer | keeping => exact relies.1
  | looking | queueing | transferring | finished => cases holds

/-- Without the lock a transfer relies at most on a descriptor that it has seen. -/
theorem Relies.of_not_holds (relies : phase.Relies pipe) (outside : phase.holds = false)
    {file : Option OpenFile} (keeps : pipe.isOpen = true → file.isSome = true)
    (opening : Bool) : phase.Relies { pipe with file, opening } := by
  cases phase with
  | transferring progress => exact keeps relies
  | rechecking | opening | awaitingPeer | keeping => cases outside
  | looking | queueing | finished => trivial

/-- Nothing is relied on of an open descriptor but that it is open. -/
theorem Relies.of_isOpen (relies : phase.Relies pipe) {file : OpenFile}
    (isOpen : pipe.file = some file) (later : OpenFile) :
    phase.Relies { pipe with file := some later } := by
  cases phase with
  | transferring progress => rfl
  | rechecking => exact relies
  | opening => cases isOpen.symm.trans relies.2
  | awaitingPeer | keeping => cases isOpen.symm.trans relies.2.1
  | looking | queueing | finished => trivial

end PipePhase

/-- The descriptor of an endpoint is open only for the direction of its role. -/
def Pipe.Directed (pipe : Pipe) : Prop :=
  ∀ file, pipe.file = some file →
    file.readable = !pipe.role.isProducer ∧ file.writable = pipe.role.isProducer

namespace PipeCall

/-- Why an endpoint is not opened after all: the FIFO cannot be opened, or the flags of the
descriptor cannot be set. -/
inductive Fails (pipe : Pipe) : PipePhase → PipeError → Prop
  | opening (source : SystemError) : Fails pipe .opening (.openFailed pipe.path source)
  | awaiting (file : OpenFile) (opens : Nat) (source : SystemError) :
      Fails pipe (.awaitingPeer file opens) (.openFailed pipe.path source)
  | flags (file : OpenFile) (source : SystemError) :
      Fails pipe (.keeping file) (.flags pipe.path source)

/-- What becomes of an endpoint in one step of a transfer. -/
inductive Crosses (pipe : Pipe) (request : PipeRequest) :
    PipePhase → Pipe → PipePhase → Prop
  | find (isOpen : pipe.isOpen = true) :
      Crosses pipe request .looking pipe (.transferring request.progress)
  | miss : Crosses pipe request .looking pipe .queueing
  | enter (free : pipe.opening = false) :
      Crosses pipe request .queueing { pipe with opening := true } .rechecking
  | findLate (isOpen : pipe.isOpen = true) :
      Crosses pipe request .rechecking { pipe with opening := false }
        (.transferring request.progress)
  | missAgain (closed : pipe.file = none) : Crosses pipe request .rechecking pipe .opening
  | await (inode opens : Nat) :
      Crosses pipe request .opening pipe
        (.awaitingPeer (.forRole inode pipe.role.isProducer) opens)
  | open (inode : Nat) :
      Crosses pipe request .opening pipe (.keeping (.forRole inode pipe.role.isProducer))
  | meet (file : OpenFile) (opens : Nat) :
      Crosses pipe request (.awaitingPeer file opens) pipe (.keeping file)
  | keep (file : OpenFile) :
      Crosses pipe request (.keeping file)
        { pipe with file := some (file.addFlags pipe.flags), opening := false }
        (.transferring request.progress)
  | fail (phase : PipePhase) (error : PipeError) (fails : Fails pipe phase error) :
      Crosses pipe request phase { pipe with opening := false } (.finished (.failed error))
  | lose (progress : OpenFile.WriteProgress) (closed : pipe.file = none) :
      Crosses pipe request (.transferring progress) pipe .looking
  | transfer (progress : OpenFile.WriteProgress) (file later : OpenFile) (phase' : PipePhase)
      (isOpen : pipe.file = some file) (way : request.goesWith file = true)
      (continues : later.Continues file)
      (answers : request.Answers pipe.path (.transferring progress) phase')
      (success : ∀ error, phase' ≠ .finished (.failed error)) :
      Crosses pipe request (.transferring progress) { pipe with file := some later } phase'
  | refuse (progress : OpenFile.WriteProgress) (source : SystemError) :
      Crosses pipe request (.transferring progress) pipe
        (.finished (.failed (request.refusal source)))

variable {scene scene' : PipeScene} {call call' : PipeCall}

theorem crosses_openFifo (scene : PipeScene) (call : PipeCall) (inode : Nat) (fifo : Fifo) :
    (call.openFifo scene inode fifo).2.request = call.request ∧
      Crosses scene.pipe call.request .opening (call.openFifo scene inode fifo).1.pipe
        (call.openFifo scene inode fifo).2.phase := by
  simp only [openFifo, goTo]
  generalize (if scene.pipe.role.isProducer = true then fifo.readers else fifo.writers) = peers
  refine ⟨trivial, ?_⟩
  by_cases alone : peers = 0
  · rw [if_pos alone]
    exact .await inode _
  · rw [if_neg alone]
    exact .open inode

theorem crosses_openPath (scene : PipeScene) (call : PipeCall) :
    (call.openPath scene).2.request = call.request ∧
      Crosses scene.pipe call.request .opening (call.openPath scene).1.pipe
        (call.openPath scene).2.phase := by
  simp only [openPath]
  split
  · exact ⟨rfl, .fail _ _ (.opening _)⟩
  · rename_i inode _
    split
    · exact crosses_openFifo ..
    · split
      · exact ⟨rfl, .fail _ _ (.opening _)⟩
      · exact ⟨rfl, .open inode⟩
    · exact ⟨rfl, .open inode⟩

theorem crosses_readOnce {file : OpenFile} {count : Nat} {phase : PipePhase}
    {progress : OpenFile.WriteProgress} (isOpen : scene.pipe.file = some file)
    (stepped : (⟨.consume count, phase⟩ : PipeCall).readOnce scene file count =
      some (scene', call')) :
    call'.request = .consume count ∧
      Crosses scene.pipe (.consume count) (.transferring progress) scene'.pipe call'.phase := by
  simp only [readOnce] at stepped
  split at stepped
  · cases stepped
  · cases stepped
    exact ⟨rfl, .refuse progress _⟩
  · rename_i done
    cases stepped
    obtain ⟨way, continues⟩ := OpenFile.read_done done
    exact ⟨rfl, .transfer _ _ _ _ isOpen way continues (.read count progress _ rfl)
      (by rintro error ⟨⟩)⟩

theorem crosses_writeOnce {file : OpenFile} {data : List UInt8} {phase : PipePhase}
    {progress : OpenFile.WriteProgress} (isOpen : scene.pipe.file = some file)
    (stepped : (⟨.produce data, phase⟩ : PipeCall).writeOnce scene file progress =
      some (scene', call')) :
    call'.request = .produce data ∧
      Crosses scene.pipe (.produce data) (.transferring progress) scene'.pipe call'.phase := by
  simp only [writeOnce] at stepped
  split at stepped
  · cases stepped
  · cases stepped
    exact ⟨rfl, .refuse progress _⟩
  · rename_i count progress' files later done
    cases stepped
    obtain ⟨way, continues⟩ := OpenFile.write_done done
    refine ⟨rfl, ?_⟩
    cases count with
    | some count =>
        exact .transfer _ _ _ _ isOpen way continues (.written data progress count rfl)
          (by rintro error ⟨⟩)
    | none =>
        exact .transfer _ _ _ _ isOpen way continues (.write data progress progress' rfl)
          (by rintro error ⟨⟩)

/-- Every step of a transfer is one of these. -/
theorem crosses_step (stepped : call.step scene = some (scene', call')) :
    call'.request = call.request ∧
      Crosses scene.pipe call.request call.phase scene'.pipe call'.phase := by
  obtain ⟨request, phase⟩ := call
  cases phase with
  | looking =>
      simp only [step, Option.some.injEq, Prod.mk.injEq] at stepped
      obtain ⟨rfl, rfl⟩ := stepped
      split
      · rename_i isOpen
        exact ⟨rfl, .find isOpen⟩
      · exact ⟨rfl, .miss⟩
  | queueing =>
      simp only [step] at stepped
      split at stepped <;> cases stepped
      rename_i free
      exact ⟨rfl, .enter (by simpa using free)⟩
  | rechecking =>
      simp only [step] at stepped
      split at stepped <;> cases stepped
      · rename_i isOpen
        exact ⟨rfl, .findLate isOpen⟩
      · rename_i closed
        exact ⟨rfl, .missAgain (by simpa [Pipe.isOpen] using closed)⟩
  | opening =>
      have crosses := crosses_openPath scene ⟨request, .opening⟩
      simp only [step, Option.some.injEq] at stepped
      rw [stepped] at crosses
      exact crosses
  | awaitingPeer file opens =>
      simp only [step] at stepped
      split at stepped <;> cases stepped
      exact ⟨rfl, .meet file opens⟩
  | keeping file =>
      cases stepped
      exact ⟨rfl, .keep file⟩
  | transferring progress =>
      simp only [step, transfer] at stepped
      split at stepped
      · rename_i closed
        cases stepped
        exact ⟨rfl, .lose progress closed⟩
      · rename_i isOpen
        exact crosses_readOnce isOpen stepped
      · rename_i isOpen
        exact crosses_writeOnce isOpen stepped
  | finished outcome => cases stepped

/-! ## What every step keeps -/

namespace Crosses

variable {pipe pipe' : Pipe} {request : PipeRequest} {phase phase' : PipePhase}

theorem same (crosses : Crosses pipe request phase pipe' phase') :
    pipe'.path = pipe.path ∧ pipe'.role = pipe.role ∧ pipe'.flags = pipe.flags := by
  cases crosses <;> exact ⟨rfl, rfl, rfl⟩

/-- Whoever holds the lock when the endpoint is opened finds it closed. -/
theorem relies (crosses : Crosses pipe request phase pipe' phase') (relies : phase.Relies pipe) :
    phase'.Relies pipe' := by
  cases crosses with
  | find isOpen => exact isOpen
  | miss => trivial
  | enter free => rfl
  | findLate isOpen => exact isOpen
  | missAgain closed => exact ⟨relies, closed⟩
  | await inode opens => exact ⟨relies.1, relies.2, inode, rfl⟩
  | «open» inode => exact ⟨relies.1, relies.2, inode, rfl⟩
  | meet file opens => exact relies
  | keep file => rfl
  | fail phase error fails => trivial
  | lose progress closed => trivial
  | transfer progress file later phase' isOpen way continues answers success =>
      cases answers with
      | write => rfl
      | _ => trivial
  | refuse progress source => trivial

/-- What another transfer relies on stays, as long as only one of the two holds the lock. -/
theorem others_rely (crosses : Crosses pipe request phase pipe' phase')
    (relies : phase.Relies pipe) {other : PipePhase} (otherRelies : other.Relies pipe)
    (apart : phase.holds = true → other.holds = false) : other.Relies pipe' := by
  cases crosses with
  | enter free =>
      -- The lock was free, so that the other one does not hold it.
      refine otherRelies.of_not_holds ?_ id true
      refine Bool.eq_false_iff.mpr fun holds => ?_
      rw [otherRelies.opening holds] at free
      cases free
  | findLate isOpen => exact otherRelies.of_not_holds (apart rfl) id false
  | keep file => exact otherRelies.of_not_holds (apart rfl) (fun _ => rfl) false
  | fail phase error fails =>
      exact otherRelies.of_not_holds (apart (by cases fails <;> rfl)) id false
  | transfer progress file later phase' isOpen => exact otherRelies.of_isOpen isOpen later
  | _ => exact otherRelies

theorem directed (crosses : Crosses pipe request phase pipe' phase')
    (relies : phase.Relies pipe) (directed : pipe.Directed) : pipe'.Directed := by
  cases crosses with
  | keep file =>
      obtain ⟨-, -, inode, rfl⟩ := relies
      rintro _ ⟨⟩
      exact ⟨rfl, rfl⟩
  | transfer progress file later phase' isOpen way continues =>
      rintro _ ⟨⟩
      rw [continues]
      exact directed file isOpen
  | _ => exact directed

/-- The lock is given back by whoever held it, or still held. -/
theorem released (crosses : Crosses pipe request phase pipe' phase')
    (locked : pipe'.opening = true) :
    phase'.holds = true ∨ pipe.opening = true ∧ phase.holds = false := by
  cases crosses with
  | find | miss | lose | transfer | refuse => exact .inr ⟨locked, rfl⟩
  | enter | missAgain | await | «open» | meet => exact .inl rfl
  | findLate | keep | fail => cases locked

/-- The lock is only taken when it is free. -/
theorem entered (crosses : Crosses pipe request phase pipe' phase')
    (holds : phase'.holds = true) : phase.holds = true ∨ pipe.opening = false := by
  cases crosses with
  | enter free => exact .inr free
  | missAgain | await | «open» | meet => exact .inl rfl
  | transfer progress file later phase' isOpen way continues answers =>
      cases answers <;> cases holds
  | find | miss | findLate | keep | fail | lose | refuse => cases holds

end Crosses

/-! ## Transfers that move nothing -/

theorem goesWith_eq {request : PipeRequest} {pipe : Pipe} (directed : pipe.Directed)
    {file : OpenFile} (isOpen : pipe.file = some file) :
    request.goesWith file = request.suits pipe.role := by
  obtain ⟨readable, writable⟩ := directed file isOpen
  cases request with
  | produce data => exact writable
  | consume length => exact readable

/-- A transfer against the direction of the descriptor is refused at once. -/
theorem step_of_unsuited {file : OpenFile} {progress : OpenFile.WriteProgress}
    (transfers : call.phase = .transferring progress) (isOpen : scene.pipe.file = some file)
    (against : call.request.goesWith file = false) :
    call.step scene = some (scene, call.goTo
      (.finished (.failed (call.request.refusal (.number .badDescriptor))))) := by
  obtain ⟨request, phase⟩ := call
  subst transfers
  cases request with
  | produce data =>
      have refused : file.write scene.files progress = .failed .badDescriptor := by
        rw [OpenFile.write, show file.writable = false from against]
        rfl
      simp only [step, transfer, isOpen, writeOnce, refused]
      rfl
  | consume length =>
      have refused : file.read scene.files length = .failed .badDescriptor := by
        rw [OpenFile.read, show file.readable = false from against]
        rfl
      simp only [step, transfer, isOpen, readOnce, refused]
      rfl

end PipeCall

end BoundedStream
