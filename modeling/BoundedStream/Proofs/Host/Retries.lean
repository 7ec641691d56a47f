import BoundedStream.Proofs.FileSystem.Paths
import BoundedStream.Proofs.Party.Pursuit
import BoundedStream.Proofs.Pipe.Transfer
import BoundedStream.Proofs.Program.Dialogue
import BoundedStream.Proofs.Stream.Outlet
import BoundedStream.Transport
import Mathlib.Tactic.SplitIfs

/-!
# Retries are safe

Programs repeat a transfer that failed with an error that invites another try.  Such a
transfer moved no byte, whatever the system answered it and others did meanwhile, as long as
the system refuses no write that it has begun.  The error is one of reading or writing, never
one of opening, and a ring never gives such an error, since it waits.
-/

namespace BoundedStream

/-! ## Bytes that stay where they are -/

namespace FileSystem

variable {files : FileSystem}

/-- The bytes that lie in a file or in a FIFO. -/
def bytes? (files : FileSystem) (inode : Nat) : Option (List UInt8) :=
  match files.content? inode with
  | some (.file bytes) => some bytes.toList
  | some (.fifo fifo) => some fifo.contents
  | _ => none

theorem bytes?_setContent_fifo {inode : Nat} {fifo changed : Fifo}
    (present : files.content? inode = some (.fifo fifo))
    (same : changed.contents = fifo.contents) (other : Nat) :
    (files.setContent inode (.fifo changed)).bytes? other = files.bytes? other := by
  by_cases isOther : other = inode
  · subst isOther
    simp only [bytes?, content?_setContent_self present, present, same]
  · simp only [bytes?, content?_setContent_of_ne isOther]

end FileSystem

namespace Fifo

theorem fillPages_eq_or_lt (count : Nat) (fifo : Fifo) (data : List UInt8) :
    fillPages count fifo data = (data, fifo) ∨
      (fillPages count fifo data).1.length < data.length := by
  induction count generalizing fifo data with
  | zero => exact .inl rfl
  | succ count ih =>
      simp only [fillPages]
      split
      · exact .inl rfl
      · rename_i some
        refine .inr ?_
        have shorter : (data.drop pageSize).length < data.length := by
          have positive : data.length ≠ 0 := by simpa using some
          simp only [List.length_drop, pageSize]
          omega
        rcases ih _ (data.drop pageSize) with same | less
        · rw [same]
          exact shorter
        · exact Nat.lt_trans less shorter

theorem beginWrite_eq_or_lt (fifo : Fifo) (data : List UInt8) :
    fifo.beginWrite data = (data, fifo) ∨ (fifo.beginWrite data).1.length < data.length := by
  simp only [beginWrite]
  split
  · exact .inl rfl
  · rename_i odd
    split
    · refine .inr ?_
      have some : data.length % pageSize ≤ data.length := Nat.mod_le _ _
      simp only [List.length_drop]
      omega
    · exact .inl rfl

end Fifo

namespace OpenFile

/-- A write that takes no byte leaves the FIFO as it is. -/
theorem fill_eq_or_lt (fifo : Fifo) (progress : WriteProgress) :
    (fill fifo progress).2 = fifo ∧ (fill fifo progress).1.written = progress.written ∨
      progress.written < (fill fifo progress).1.written := by
  have begins : (if progress.begun then (progress.rest, fifo)
        else fifo.beginWrite progress.rest) = (progress.rest, fifo) ∨
      (if progress.begun then (progress.rest, fifo)
        else fifo.beginWrite progress.rest).1.length < progress.rest.length := by
    split
    · exact .inl rfl
    · exact fifo.beginWrite_eq_or_lt progress.rest
  simp only [fill]
  generalize (if progress.begun then (progress.rest, fifo)
    else fifo.beginWrite progress.rest) = begun at begins
  obtain ⟨behind, middle⟩ := begun
  have goesOn := Fifo.fillPages_eq_or_lt (Fifo.pageLimit - middle.pages.length) middle behind
  simp only [Fifo.continueWrite]
  generalize Fifo.fillPages (Fifo.pageLimit - middle.pages.length) middle behind = filled
    at goesOn
  rcases begins with same | less
  · cases same
    rcases goesOn with same | less
    · exact .inl (by simp [same])
    · exact .inr (by omega)
  · refine .inr ?_
    rcases goesOn with same | less'
    · rw [same]
      dsimp only at less ⊢
      omega
    · dsimp only at less ⊢
      omega

section Write

variable {files later : FileSystem} {file kept : OpenFile} {fifo : Fifo}
  {progress progress' : WriteProgress} {errno : Errno}

theorem writeFifo_unended
    (wrote : file.writeFifo files fifo progress = .done (none, progress', later)) :
    progress' = (fill fifo progress).1 ∧
      later = files.setContent file.inode (.fifo (fill fifo progress).2) := by
  simp only [writeFifo] at wrote
  split_ifs at wrote <;> cases wrote
  exact ⟨rfl, rfl⟩

/-- A write to a FIFO is refused only before it took a byte. -/
theorem writeFifo_failed (failed : file.writeFifo files fifo progress = .failed errno) :
    progress.written = 0 := by
  simp only [writeFifo] at failed
  split_ifs at failed with _ _ untouched _ _ none
  · exact untouched
  · rcases fill_eq_or_lt fifo progress with ⟨-, count⟩ | less
    · rw [← count]
      exact none
    · omega

/-- A write that has not ended took bytes or left all as it was. -/
theorem write_unended (wrote : file.write files progress = .done (none, progress', later, kept)) :
    (∀ inode, later.bytes? inode = files.bytes? inode) ∧ progress'.written = progress.written ∨
      progress.written < progress'.written := by
  simp only [write] at wrote
  split at wrote
  · cases wrote
  · split at wrote
    · rename_i fifo isFifo
      split at wrote <;> cases wrote
      rename_i wrote
      obtain ⟨rfl, rfl⟩ := writeFifo_unended wrote
      rcases fill_eq_or_lt fifo progress with ⟨same, count⟩ | less
      · rw [same]
        exact .inl ⟨FileSystem.bytes?_setContent_fifo isFifo rfl, count⟩
      · exact .inr less
    · cases wrote
    · cases wrote

theorem write_failed (failed : file.write files progress = .failed errno) :
    progress.written = 0 ∨ errno = .badDescriptor := by
  simp only [write] at failed
  split at failed
  · cases failed
    exact .inr rfl
  · split at failed
    · rename_i fifo isFifo
      split at failed <;> cases failed
      rename_i failed
      exact .inl (writeFifo_failed failed)
    · cases failed
    · cases failed
      exact .inr rfl

end Write

end OpenFile

/-- No byte was moved: those of files and FIFOs lie where they lay, and every ring with its
cursors is as it was. -/
structure Host.Unmoved (host later : Host) : Prop where
  bytes?_eq : ∀ inode, later.files.bytes? inode = host.files.bytes? inode
  guarded?_eq : ∀ location, later.guarded? location = host.guarded? location

/-- Every pipe endpoint that was open is still open. -/
def Host.KeepsOpen (host later : Host) : Prop :=
  ∀ (number : Nat) (pipe : Pipe), host.pipes[number]? = some pipe → pipe.isOpen = true →
    ∃ pipe' : Pipe, later.pipes[number]? = some pipe' ∧ pipe'.isOpen = true

/-! ## What a call may meet with -/

/-- The read or the write could only be completed by waiting, or was interrupted. -/
def PipeError.invitesRetry (error : PipeError) : Bool :=
  error.isInterrupted || error.isWouldBlock

namespace PipePhase

/-- In such a step of a transfer no byte is to be moved: none before it reads or writes, none by
a write that took none, and none by what fails and invites another try. -/
def Spares : PipePhase → PipePhase → Prop
  | .transferring _, .transferring progress => progress.written = 0
  | .transferring _, .finished (.failed error) =>
    error.invitesRetry = true
  | .transferring _, _ => False
  | _, _ => True

/-- A write counts the bytes that it took, and nothing invites another try after some. -/
def Counts : PipePhase → PipePhase → Prop
  | .transferring progress, .transferring progress' => progress.written ≤ progress'.written
  | .transferring progress, .finished (.failed error) =>
    error.invitesRetry = true → progress.written = 0
  | _, _ => True

end PipePhase

/-- How a system treats the bytes of a transfer from one phase to the next. -/
structure Host.Treats (host later : Host) (phase phase' : PipePhase) : Prop where
  keepsOpen : host.KeepsOpen later
  spares : phase.Spares phase' → host.Unmoved later
  counts : phase.Counts phase'

namespace Call

/-- What may become of a call in one step: it takes the step itself, or the mutex or the system
answers it in another way. -/
inductive Fares (host : Host) : Call → Host → Call → Prop
  | step {call call' : Call} {later : Host} (stepped : call.step host = some (later, call')) :
      Fares host call later call'
  | fault (location : Location) (request : RingRequest) (phase : RingPhase) (error : LockError)
      (later : Host) :
      Fares host (.ring location ⟨request, phase⟩) later
        (.ring location ⟨request, .finished (.failed (.lock error))⟩)
  | forsake (number : Nat) (pipe : Pipe) (request : PipeRequest) (file : OpenFile)
      (opens : Nat) (error : SystemError) (later : Host) (keepsOpen : host.KeepsOpen later)
      (unmoved : host.Unmoved later) (found : host.pipes[number]? = some pipe) :
      Fares host (.pipe number ⟨request, .awaitingPeer file opens⟩) later
        (.pipe number ⟨request, .finished (.failed (.openFailed pipe.path error))⟩)
  | answer (number : Nat) (pipe : Pipe) (request : PipeRequest) (phase phase' : PipePhase)
      (later : Host) (found : host.pipes[number]? = some pipe)
      (answers : request.Answers pipe.path phase phase') (treats : host.Treats later phase phase') :
      Fares host (.pipe number ⟨request, phase⟩) later (.pipe number ⟨request, phase'⟩)

/-- The course of a call that begins on some host: others do what they like with the host but
close no pipe endpoint, and the call goes on.  The deeds are what it does to the host. -/
inductive Course (begun : Call) : List (Host × Host) → Host → Call → Prop
  | begin (host : Host) : Course begun [] host begun
  | others {deeds : List (Host × Host)} {host later : Host} {call : Call}
      (course : Course begun deeds host call) (keepsOpen : host.KeepsOpen later) :
      Course begun deeds later call
  | own {deeds : List (Host × Host)} {host later : Host} {call call' : Call}
      (course : Course begun deeds host call) (fares : call.Fares host later call') :
      Course begun (deeds ++ [(host, later)]) later call'

end Call

/-! ## Steps of a transfer on a pipe -/

namespace PipeCall

variable {scene scene' : PipeScene} {call call' : PipeCall}

theorem bytes?_openPath (scene : PipeScene) (call : PipeCall) (inode : Nat) :
    (call.openPath scene).1.files.bytes? inode = scene.files.bytes? inode := by
  simp only [openPath]
  split
  · rfl
  · split
    · rename_i found fifo isFifo
      refine FileSystem.bytes?_setContent_fifo isFifo ?_ inode
      split <;> rfl
    · split <;> rfl
    · rfl

/-- A transfer that is to move no byte moves none. -/
theorem bytes?_step (stepped : call.step scene = some (scene', call'))
    (spares : call.phase.Spares call'.phase) (inode : Nat) :
    scene'.files.bytes? inode = scene.files.bytes? inode := by
  obtain ⟨request, phase⟩ := call
  cases phase with
  | looking => cases stepped; rfl
  | queueing =>
      simp only [step] at stepped
      split at stepped <;> cases stepped
      rfl
  | rechecking =>
      simp only [step] at stepped
      split at stepped <;> cases stepped <;> rfl
  | opening =>
      simp only [step, Option.some.injEq] at stepped
      have same := bytes?_openPath scene ⟨request, .opening⟩ inode
      rw [stepped] at same
      exact same
  | awaitingPeer file opens =>
      simp only [step] at stepped
      split at stepped <;> cases stepped
      rfl
  | keeping file => cases stepped; rfl
  | transferring progress =>
      simp only [step, transfer] at stepped
      split at stepped
      · cases stepped; rfl
      · simp only [readOnce] at stepped
        split at stepped <;> cases stepped
        · rfl
        · exact spares.elim
      · simp only [writeOnce] at stepped
        split at stepped <;> cases stepped
        · rfl
        · rename_i count progress' files file' wrote
          cases count with
          | some count => exact spares.elim
          | none =>
              rcases OpenFile.write_unended wrote with ⟨same, -⟩ | less
              · exact same inode
              · have none : progress'.written = 0 := spares
                omega
  | finished outcome => cases stepped

theorem counts_step (stepped : call.step scene = some (scene', call'))
    (unwritten : ∀ length progress, call.request = .consume length →
      call.phase = .transferring progress → progress.written = 0) :
    call.phase.Counts call'.phase := by
  obtain ⟨request, phase⟩ := call
  cases phase with
  | transferring progress =>
      simp only [step, transfer] at stepped
      split at stepped
      · cases stepped; trivial
      · rename_i file length isOpen
        simp only [readOnce] at stepped
        split at stepped <;> cases stepped
        · exact fun _ => unwritten length progress rfl rfl
        · trivial
      · simp only [writeOnce] at stepped
        split at stepped <;> cases stepped
        · rename_i errno failed
          intro retry
          rcases OpenFile.write_failed failed with untouched | rfl
          · exact untouched
          · cases retry
        · rename_i count progress' files file' wrote
          cases count with
          | some count => trivial
          | none =>
              rcases OpenFile.write_unended wrote with ⟨-, same⟩ | less
              · exact Nat.le_of_eq same.symm
              · exact Nat.le_of_lt less
  | _ => trivial

theorem isOpen_step (stepped : call.step scene = some (scene', call'))
    (isOpen : scene.pipe.isOpen = true) : scene'.pipe.isOpen = true := by
  obtain ⟨-, step⟩ := step_cases stepped
  obtain ⟨files, pipe⟩ := scene
  obtain ⟨files', pipe'⟩ := scene'
  obtain ⟨request, phase⟩ := call
  obtain ⟨request', phase'⟩ := call'
  cases step with
  | answer phase phase' pipe' keeps answers => exact keeps isOpen
  | keep file kept => rfl
  | _ => exact isOpen

theorem Step.isOpen {pipe pipe' : Pipe} {request : PipeRequest} {phase : PipePhase}
    {progress : OpenFile.WriteProgress}
    (step : Step pipe request phase pipe' (.transferring progress))
    (before : ∀ progress, phase = .transferring progress → pipe.isOpen = true) :
    pipe'.isOpen = true := by
  cases step with
  | find isOpen => exact isOpen
  | findLate isOpen => exact isOpen
  | keep file kept => rfl
  | answer phase phase' pipe' keeps answers =>
      cases answers with
      | write data progress progress' asks => exact keeps (before progress rfl)

end PipeCall

namespace Call

variable {host later : Host} {number : Nat}

theorem step_pipe_eq_some {call : PipeCall} {call' : Call}
    (stepped : (Call.pipe number call).step host = some (later, call')) :
    ∃ pipe scene after, host.pipes[number]? = some pipe ∧
      call.step ⟨host.files, pipe⟩ = some (scene, after) ∧ call' = .pipe number after ∧
      later = { host.withFiles scene.files with pipes := host.pipes.set number scene.pipe } := by
  simp only [step, Option.bind_eq_bind, Option.bind_eq_some_iff, Option.pure_def,
    Option.some.injEq, Prod.mk.injEq, Prod.exists] at stepped
  obtain ⟨pipe, found, scene, after, pipeStep, rfl, rfl⟩ := stepped
  exact ⟨pipe, scene, after, found, pipeStep, rfl, rfl⟩

/-- A transfer on a pipe that takes a step by itself is treated well. -/
theorem treats_step {call : PipeCall} {call' : Call}
    (stepped : (Call.pipe number call).step host = some (later, call'))
    (unwritten : ∀ length progress, call.request = .consume length →
      call.phase = .transferring progress → progress.written = 0) :
    ∃ pipe pipe' after, host.pipes[number]? = some pipe ∧ call' = .pipe number after ∧
      later.pipes[number]? = some pipe' ∧ after.request = call.request ∧
      PipeCall.Step pipe call.request call.phase pipe' after.phase ∧
      host.Treats later call.phase after.phase := by
  obtain ⟨pipe, scene, after, found, pipeStep, rfl, rfl⟩ := step_pipe_eq_some stepped
  obtain ⟨sameRequest, step⟩ := PipeCall.step_cases pipeStep
  obtain ⟨inside, here⟩ := List.getElem?_eq_some_iff.mp found
  refine ⟨pipe, scene.pipe, after, found, rfl, List.getElem?_set_self inside, sameRequest, step,
    ?_, fun spares => ⟨PipeCall.bytes?_step pipeStep spares, fun location => ?_⟩,
    PipeCall.counts_step pipeStep unwritten⟩
  · intro other pipe₁ present isOpen
    by_cases same : number = other
    · subst same
      rw [found] at present
      cases present
      exact ⟨scene.pipe, List.getElem?_set_self inside, PipeCall.isOpen_step pipeStep isOpen⟩
    · exact ⟨pipe₁, (List.getElem?_set_ne same).trans present, isOpen⟩
  · cases location <;> rfl

end Call

/-! ## Transfers that may be tried again -/

/-- The error is one of the read or the write that the request asks for. -/
def PipeError.Concerns (error : PipeError) : PipeRequest → Prop
  | .produce _ => ∃ source, error = .write source
  | .consume _ => ∃ source, error = .read source

/-- None of the deeds moved a byte. -/
def Harmless (deeds : List (Host × Host)) : Prop := ∀ deed ∈ deeds, deed.1.Unmoved deed.2

theorem Harmless.snoc {deeds : List (Host × Host)} {host later : Host}
    (harmless : Harmless deeds) (unmoved : host.Unmoved later) :
    Harmless (deeds ++ [(host, later)]) := by
  intro deed member
  rcases List.mem_append.mp member with early | last
  · exact harmless deed early
  · rw [List.mem_singleton.mp last]
    exact unmoved

namespace PipePhase

variable {deeds : List (Host × Host)} {host later : Host} {number : Nat} {request : PipeRequest}
  {phase phase' : PipePhase}

/-- Where a transfer on the endpoint stands after its deeds. -/
def Stands (deeds : List (Host × Host)) (host : Host) (number : Nat) (request : PipeRequest) :
    PipePhase → Prop
  | .transferring progress =>
    (∃ pipe : Pipe, host.pipes[number]? = some pipe ∧ pipe.isOpen = true) ∧
      (progress.written = 0 → Harmless deeds) ∧
      ∀ length, request = .consume length → progress.written = 0
  | .finished (.failed error) =>
    error.invitesRetry = true →
      Harmless deeds ∧ error.Concerns request
  | .finished _ => True
  | _ => Harmless deeds

theorem Stands.others (stands : phase.Stands deeds host number request)
    (keepsOpen : host.KeepsOpen later) : phase.Stands deeds later number request := by
  cases phase with
  | transferring progress =>
      obtain ⟨⟨pipe, present, isOpen⟩, harmless, unwritten⟩ := stands
      exact ⟨keepsOpen number pipe present isOpen, harmless, unwritten⟩
  | finished outcome => cases outcome <;> exact stands
  | _ => exact stands

theorem Stands.isOpen {progress : OpenFile.WriteProgress} {pipe : Pipe}
    (stands : phase.Stands deeds host number request) (isPhase : phase = .transferring progress)
    (found : host.pipes[number]? = some pipe) : pipe.isOpen = true := by
  subst isPhase
  obtain ⟨⟨pipe', present, isOpen⟩, -, -⟩ := stands
  rw [found] at present
  cases present
  exact isOpen

theorem Stands.step {pipe pipe' : Pipe} (stands : phase.Stands deeds host number request)
    (found : host.pipes[number]? = some pipe)
    (step : PipeCall.Step pipe request phase pipe' phase')
    (treats : host.Treats later phase phase')
    (opens : ∀ progress, phase' = .transferring progress →
      ∃ pipe : Pipe, later.pipes[number]? = some pipe ∧ pipe.isOpen = true) :
    phase'.Stands (deeds ++ [(host, later)]) later number request := by
  obtain ⟨keepsOpen, spares, counts⟩ := treats
  have starts : request.progress.written = 0 := by cases request <;> rfl
  cases step with
  | find isOpen =>
      have harmless : Harmless deeds := stands
      exact ⟨opens _ rfl, fun _ => harmless.snoc (spares trivial), fun _ _ => starts⟩
  | findLate isOpen =>
      have harmless : Harmless deeds := stands
      exact ⟨opens _ rfl, fun _ => harmless.snoc (spares trivial), fun _ _ => starts⟩
  | keep file kept =>
      have harmless : Harmless deeds := stands
      exact ⟨opens _ rfl, fun _ => harmless.snoc (spares trivial), fun _ _ => starts⟩
  | lose progress closed =>
      have isOpen := stands.isOpen rfl found
      simp [Pipe.isOpen, closed] at isOpen
  | answer phase phase' pipe' keeps answers =>
      cases answers with
      | refuseOpening error => exact fun retry => by cases retry
      | refuseFlags file error => exact fun retry => by cases retry
      | write data progress progress' asks =>
          obtain ⟨-, harmless, -⟩ := stands
          refine ⟨opens _ rfl, fun none => ?_, fun length isConsume => ?_⟩
          · have before : progress.written = 0 := Nat.le_zero.mp (none ▸ counts)
            exact (harmless before).snoc (spares none)
          · cases asks.symm.trans isConsume
      | written data progress count asks => trivial
      | refuseWrite data progress error asks =>
          obtain ⟨-, harmless, -⟩ := stands
          subst asks
          exact fun retry => ⟨(harmless (counts retry)).snoc (spares retry), error, rfl⟩
      | read length progress bytes asks => trivial
      | refuseRead length progress error asks =>
          obtain ⟨-, harmless, -⟩ := stands
          subst asks
          exact fun retry => ⟨(harmless (counts retry)).snoc (spares retry), error, rfl⟩
  | _ => exact Harmless.snoc stands (spares trivial)

end PipePhase

/-- A call on a ring that waits fails with an error of the mutex, if at all. -/
structure RingCall.Patient (call : RingCall) : Prop where
  waits : call.request.waits = true
  fails : ∀ error, call.phase.outcome? = some (.failed error) → ∃ fault, error = .lock fault

theorem RingCall.Patient.step {guarded guarded' : GuardedRing} {call call' : RingCall}
    (patient : call.Patient) (stepped : call.step guarded = some (guarded', call')) :
    call'.Patient := by
  obtain ⟨sameRequest, step⟩ := RingCall.step_cases stepped
  obtain ⟨request, phase⟩ := call
  obtain ⟨_, phase'⟩ := call'
  cases sameRequest
  obtain ⟨waits, fails⟩ := patient
  refine ⟨waits, ?_⟩
  cases step with
  | lose phase wanting monitor error lost =>
      rintro _ ⟨⟩
      exact ⟨error, rfl⟩
  | refuse moves lacks hastens =>
      rw [waits] at hastens
      cases hastens
  | copy => cases request <;> simp [RingPhase.outcome?, RingRequest.copy]
  | update outcome => exact fails
  | notify outcome => exact fails
  | unlock outcome => exact fails
  | _ => simp [RingPhase.outcome?]

namespace Call

variable {deeds : List (Host × Host)} {host later : Host} {begun call call' : Call}

/-- Where a call stands that began as a transfer. -/
def Stands (begun : Call) (deeds : List (Host × Host)) (host : Host) (call : Call) : Prop :=
  match begun, call with
  | .ring _ _, .ring _ call => call.Patient
  | .pipe number begun, .pipe number' call =>
    number' = number ∧ call.request = begun.request ∧
      call.phase.Stands deeds host number call.request
  | _, _ => False

theorem Stands.others (stands : Stands begun deeds host call) (keepsOpen : host.KeepsOpen later) :
    Stands begun deeds later call := by
  cases begun with
  | ring location begun => cases call <;> exact stands
  | monitor location begun => exact stands.elim
  | pipe number begun =>
      cases call with
      | pipe number' call =>
          obtain ⟨sameNumber, sameRequest, stands⟩ := stands
          exact ⟨sameNumber, sameRequest, stands.others keepsOpen⟩
      | _ => exact stands.elim

theorem Stands.fares (stands : Stands begun deeds host call) (fares : call.Fares host later call') :
    Stands begun (deeds ++ [(host, later)]) later call' := by
  cases begun with
  | ring location begun =>
      cases call with
      | ring location' call =>
          have patient : call.Patient := stands
          cases fares with
          | step stepped =>
              obtain ⟨guarded, guarded', after, -, ringStep, -, rfl⟩ := step_ring_eq_some stepped
              exact patient.step ringStep
          | fault _ request phase error _ =>
              refine ⟨patient.waits, ?_⟩
              rintro _ ⟨⟩
              exact ⟨error, rfl⟩
      | _ => exact stands.elim
  | monitor location begun => exact stands.elim
  | pipe number begun =>
      cases call with
      | pipe number' call =>
          obtain ⟨sameNumber, sameRequest, stands⟩ := stands
          subst sameNumber
          cases fares with
          | step stepped =>
              have unwritten : ∀ length progress, call.request = .consume length →
                  call.phase = .transferring progress → progress.written = 0 := by
                intro length progress isConsume isPhase
                rw [isPhase] at stands
                exact stands.2.2 length isConsume
              obtain ⟨pipe, pipe', after, found, rfl, found', kept, step, treats⟩ :=
                treats_step stepped unwritten
              refine ⟨rfl, kept.trans sameRequest, ?_⟩
              rw [kept]
              refine stands.step found step treats fun progress isPhase => ⟨pipe', found', ?_⟩
              rw [isPhase] at step
              exact step.isOpen fun _ isPhase => stands.isOpen isPhase found
          | forsake _ pipe request file opens error _ keepsOpen unmoved found =>
              refine ⟨rfl, sameRequest, ?_⟩
              exact nofun
          | answer _ pipe request phase phase' _ found answers treats =>
              refine ⟨rfl, sameRequest,
                stands.step found (.answer _ _ _ id answers) treats fun progress isPhase => ?_⟩
              subst isPhase
              cases answers with
              | write data progress progress' asks =>
                  exact treats.keepsOpen _ pipe found (stands.isOpen rfl found)
      | _ => exact stands.elim

theorem stands_course (course : Course begun deeds host call)
    (starts : ∀ host, Stands begun [] host begun) : Stands begun deeds host call := by
  induction course with
  | begin host => exact starts host
  | others course keepsOpen ih => exact ih.others keepsOpen
  | own course fares ih => exact ih.fares fares

theorem stands_start_ring (location : Location) {request : RingRequest}
    (waits : request.waits = true) (host : Host) :
    Stands (.ring location (.start request)) [] host (.ring location (.start request)) :=
  ⟨waits, nofun⟩

theorem stands_start_pipe (number : Nat) (request : PipeRequest) (host : Host) :
    Stands (.pipe number (.start request)) [] host (.pipe number (.start request)) :=
  ⟨rfl, rfl, nofun⟩

end Call

/-! ## Errors that invite another try -/

/-- No error belongs to both classes. -/
theorem StreamError.not_both (error : StreamError) :
    ¬ (error.isWouldBlock = true ∧ error.isInterrupted = true) := by
  rintro ⟨waits, interrupted⟩
  cases error with
  | pipe error =>
      simp only [isWouldBlock, isInterrupted, PipeError.isWouldBlock, PipeError.isInterrupted,
        Option.any_eq_true, beq_iff_eq] at waits interrupted
      obtain ⟨source, isSource, kind⟩ := waits
      obtain ⟨source', isSource', kind'⟩ := interrupted
      rw [isSource] at isSource'
      cases isSource'
      rw [kind] at kind'
      cases kind'
  | _ => cases interrupted

/-- What a buffer of the caller holds after a call: the bytes that were received lie at its
front. -/
def TransportOutcome.into (buffer : List UInt8) : TransportOutcome → List UInt8
  | .received bytes => bytes ++ buffer.drop bytes.length
  | _ => buffer

section Failures

variable {transport : Transport} {begun ended : Call} {deeds : List (Host × Host)} {host : Host}
  {error : StreamError}

theorem produceCall?_pipe {data : List UInt8} {number : Nat} {call : PipeCall}
    (begins : transport.produceCall? data = some (.pipe number call)) :
    call.request = .produce data ∧ transport.backend = .pipe number := by
  unfold Transport.produceCall? at begins
  split at begins
  · cases begins
  · split at begins <;> cases begins
    rename_i isPipe
    exact ⟨rfl, isPipe⟩

theorem consumeCall?_pipe {length number : Nat} {call : PipeCall}
    (begins : transport.consumeCall? length = some (.pipe number call)) :
    call.request = .consume length ∧ transport.backend = .pipe number := by
  unfold Transport.consumeCall? at begins
  split at begins
  · cases begins
  · split at begins <;> cases begins
    rename_i isPipe
    exact ⟨rfl, isPipe⟩

theorem stands_of_produceCall? {data : List UInt8}
    (begins : transport.produceCall? data = some begun) (host : Host) :
    begun.Stands [] host begun := by
  unfold Transport.produceCall? at begins
  split at begins
  · cases begins
  · split at begins <;> cases begins
    · exact Call.stands_start_pipe _ _ host
    · exact Call.stands_start_ring _ rfl host

theorem stands_of_consumeCall? {length : Nat}
    (begins : transport.consumeCall? length = some begun) (host : Host) :
    begun.Stands [] host begun := by
  unfold Transport.consumeCall? at begins
  split at begins
  · cases begins
  · split at begins <;> cases begins
    · exact Call.stands_start_pipe _ _ host
    · exact Call.stands_start_ring _ rfl host

/-- A transfer that failed is one on a ring that failed with an error of the mutex, or one on a
pipe that moved nothing if its error invites another try. -/
theorem Call.Stands.failed (stands : begun.Stands deeds host ended)
    (failed : ended.outcome?.map Outcome.onTransport = some (.failed error)) :
    (∃ location call fault, begun = .ring location call ∧ error = .region (.lock fault)) ∨
      ∃ number call fault, begun = .pipe number call ∧ error = .pipe fault ∧
        (fault.invitesRetry = true → Harmless deeds ∧ fault.Concerns call.request) := by
  cases begun with
  | ring location begun =>
      cases ended with
      | ring location' call =>
          have patient : call.Patient := stands
          obtain ⟨request, phase⟩ := call
          cases phase with
          | finished outcome =>
              cases outcome with
              | failed own =>
                  cases failed
                  obtain ⟨fault, rfl⟩ := patient.fails own rfl
                  exact .inl ⟨location, begun, fault, rfl, rfl⟩
              | _ => cases failed
          | _ => cases failed
      | _ => exact stands.elim
  | monitor location begun => exact stands.elim
  | pipe number begun =>
      cases ended with
      | pipe number' call =>
          obtain ⟨-, sameRequest, stands⟩ := stands
          obtain ⟨request, phase⟩ := call
          cases phase with
          | finished outcome =>
              cases outcome with
              | failed own =>
                  cases failed
                  exact .inr ⟨number, begun, own, rfl, rfl, sameRequest ▸ stands⟩
              | _ => cases failed
          | _ => cases failed
      | _ => exact stands.elim

/-- What holds of a transfer that failed with the error. -/
structure SafeFailure (transport : Transport) (begun : Call) (deeds : List (Host × Host))
    (error : StreamError) : Prop where
  exclusive : ¬ (error.isWouldBlock = true ∧ error.isInterrupted = true)
  /-- An error that invites another try means that nothing was moved. -/
  harmless : error.invitesRetry = true → Harmless deeds
  buffer : error.invitesRetry = true →
    ∀ buffer, (TransportOutcome.failed error).into buffer = buffer
  /-- It is the error of the write or the read itself. -/
  sends : error.invitesRetry = true → ∀ data, transport.produceCall? data = some begun →
    ∃ source, error = .pipe (.write source)
  receives : error.invitesRetry = true → ∀ length, transport.consumeCall? length = some begun →
    ∃ source, error = .pipe (.read source)
  /-- A ring waits instead. -/
  segment : ∀ segment, transport.backend = .segment segment →
    error.isWouldBlock = false ∧ error.isInterrupted = false

theorem safeFailure_of_course
    (begins : (∃ data, transport.produceCall? data = some begun) ∨
      ∃ length, transport.consumeCall? length = some begun)
    (course : Call.Course begun deeds host ended)
    (failed : ended.outcome?.map Outcome.onTransport = some (.failed error)) :
    SafeFailure transport begun deeds error := by
  have starts : ∀ host, begun.Stands [] host begun := by
    rcases begins with ⟨data, begins⟩ | ⟨length, begins⟩
    · exact stands_of_produceCall? begins
    · exact stands_of_consumeCall? begins
  rcases (Call.stands_course course starts).failed failed with
    ⟨location, call, fault, rfl, rfl⟩ | ⟨number, call, fault, rfl, rfl, harmless⟩
  · exact ⟨StreamError.not_both _, nofun, nofun, nofun, nofun, fun _ _ => ⟨rfl, rfl⟩⟩
  · refine ⟨StreamError.not_both _, fun retry => (harmless retry).1, fun _ _ => rfl, ?_, ?_, ?_⟩
    · intro retry data begins
      have concerns := (harmless retry).2
      rw [(produceCall?_pipe begins).1] at concerns
      obtain ⟨source, rfl⟩ := concerns
      exact ⟨source, rfl⟩
    · intro retry length begins
      have concerns := (harmless retry).2
      rw [(consumeCall?_pipe begins).1] at concerns
      obtain ⟨source, rfl⟩ := concerns
      exact ⟨source, rfl⟩
    · intro segment isSegment
      have isPipe : transport.backend = .pipe number := by
        rcases begins with ⟨data, begins⟩ | ⟨length, begins⟩
        · exact (produceCall?_pipe begins).2
        · exact (consumeCall?_pipe begins).2
      rw [isPipe] at isSegment
      cases isSegment

/-- A read that must not wait finds an empty FIFO that another end may still fill. -/
theorem safeFailure_of_course_of_empty_fifo :
    ∃ transport begun deeds host ended error,
      transport.consumeCall? 4 = some begun ∧ Call.Course begun deeds host ended ∧
        ended.outcome?.map Outcome.onTransport = some (.failed error) ∧
        error.invitesRetry = true ∧ SafeFailure transport begun deeds error := by
  let fifo : Fifo := ⟨[], 1, 1, 1, 1⟩
  let files : FileSystem :=
    ⟨[⟨0o755, .directory 0 [("fifo", 1)]⟩, ⟨0o600, .fifo fifo⟩], 0, 0o022⟩
  let file : OpenFile := ⟨1, true, false, DescriptorFlag.nonblock.value, 0⟩
  let pipe : Pipe := ⟨"fifo", .consumer, DescriptorFlag.nonblock.value, some file, false⟩
  let host : Host := ⟨⟨files, .empty⟩, [], [], [pipe]⟩
  let begun : Call := .pipe 0 (.start (.consume 4))
  have found : Call.Course begun [(host, host)] host
      (.pipe 0 ⟨.consume 4, .transferring (.start [])⟩) :=
    (Call.Course.begin host).own (.step rfl)
  have course : Call.Course begun [(host, host), (host, host)] host
      (.pipe 0 ⟨.consume 4, .finished (.failed (.read (.number .tryAgain)))⟩) := by
    refine found.own (.step ?_)
    subst host pipe file files fifo
    rfl
  exact ⟨⟨default, .consumer, .pipe 0⟩, begun, _, _, _, _, rfl, course, rfl, by decide,
    safeFailure_of_course (.inr ⟨4, rfl⟩) course rfl⟩

end Failures

end BoundedStream
