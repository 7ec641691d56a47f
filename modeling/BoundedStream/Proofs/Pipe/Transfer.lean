import BoundedStream.Party
import BoundedStream.Proofs.Pipe.Crossing

/-!
# Transfers through a pipe

A transfer opens its end of the FIFO when it has none, and then reads or writes once; the
system may split, refuse or interrupt whatever it is asked for.  What a transfer reports is
what the FIFO did: a producer is told how many of its bytes were accepted, and a consumer is
given the bytes that were taken out.
-/

namespace BoundedStream

/-! ## FIFOs -/

/-- The bytes that went through a FIFO. -/
structure Channel where
  /-- The bytes that it holds. -/
  queue : List UInt8
  /-- All bytes that were taken out of it. -/
  taken : List UInt8
  /-- Whether its writer has closed it. -/
  closed : Bool

namespace Channel

/-- All bytes that it has accepted. -/
def accepted (channel : Channel) : List UInt8 := channel.taken ++ channel.queue

def accept (channel : Channel) (bytes : List UInt8) : Channel :=
  { channel with queue := channel.queue ++ bytes }

/-- Nothing more will come out of it. -/
def Dry (channel : Channel) : Prop := channel.closed = true ∧ channel.queue = []

@[simp]
theorem accepted_accept (channel : Channel) (bytes : List UInt8) :
    (channel.accept bytes).accepted = channel.accepted ++ bytes :=
  (List.append_assoc _ _ _).symm

@[simp]
theorem accept_nil (channel : Channel) : channel.accept [] = channel := by
  simp [accept]

end Channel

/-! ## Steps -/

namespace PipeRequest

/-- What a FIFO of at most `bound` bytes may do in a step of a transfer.  A write may be split
anywhere, but is refused only as a whole; a read ends the stream only when the writer has
closed and nothing is left. -/
inductive Serves (request : PipeRequest) (bound : Nat) :
    PipePhase → PipePhase → Channel → Channel → Prop
  | apart (phase phase' : PipePhase) (channel : Channel)
      (outside : ∀ progress, phase ≠ .transferring progress) :
      Serves request bound phase phase' channel channel
  | astray (progress : OpenFile.WriteProgress) (channel : Channel) :
      Serves request bound (.transferring progress) .looking channel channel
  | write (progress progress' : OpenFile.WriteProgress) (part : List UInt8)
      (channel : Channel) (whole : progress.rest = part ++ progress'.rest)
      (counted : progress'.written = progress.written + part.length)
      (room : channel.queue.length + part.length ≤ bound) :
      Serves request bound (.transferring progress) (.transferring progress') channel
        (channel.accept part)
  | written (progress : OpenFile.WriteProgress) (part rest : List UInt8) (channel : Channel)
      (whole : progress.rest = part ++ rest)
      (room : channel.queue.length + part.length ≤ bound) :
      Serves request bound (.transferring progress)
        (.finished (.produced (progress.written + part.length))) channel
        (channel.accept part)
  | refuse (progress : OpenFile.WriteProgress) (error : PipeError) (channel : Channel)
      (untouched : progress.written = 0) :
      Serves request bound (.transferring progress) (.finished (.failed error)) channel
        channel
  | read (length : Nat) (progress : OpenFile.WriteProgress) (bytes rest taken : List UInt8)
      (closed : Bool) (asks : request = .consume length) (few : bytes.length ≤ length)
      (last : bytes = [] → length = 0 ∨ closed = true ∧ rest = []) :
      Serves request bound (.transferring progress) (.finished (.consumed bytes))
        ⟨bytes ++ rest, taken, closed⟩ ⟨rest, taken ++ bytes, closed⟩

end PipeRequest

namespace PipeCall

/-- What a transfer does by itself before it reads or writes, and what the system answers. -/
inductive Step (pipe : Pipe) (request : PipeRequest) : PipePhase → Pipe → PipePhase → Prop
  | find (isOpen : pipe.isOpen = true) :
      Step pipe request .looking pipe (.transferring request.progress)
  | miss : Step pipe request .looking pipe .queueing
  | queue : Step pipe request .queueing { pipe with opening := true } .rechecking
  | findLate (isOpen : pipe.isOpen = true) :
      Step pipe request .rechecking { pipe with opening := false }
        (.transferring request.progress)
  | missAgain : Step pipe request .rechecking pipe .opening
  | await (file : OpenFile) (opens : Nat) :
      Step pipe request .opening pipe (.awaitingPeer file opens)
  | open (file : OpenFile) : Step pipe request .opening pipe (.keeping file)
  | meet (file : OpenFile) (opens : Nat) :
      Step pipe request (.awaitingPeer file opens) pipe (.keeping file)
  | keep (file kept : OpenFile) :
      Step pipe request (.keeping file) { pipe with file := some kept, opening := false }
        (.transferring request.progress)
  | lose (progress : OpenFile.WriteProgress) (closed : pipe.file = none) :
      Step pipe request (.transferring progress) pipe .looking
  | answer (phase phase' : PipePhase) (pipe' : Pipe)
      (keeps : pipe.isOpen = true → pipe'.isOpen = true)
      (answers : request.Answers pipe.path phase phase') :
      Step pipe request phase pipe' phase'

theorem Step.unfinished {pipe pipe' : Pipe} {request : PipeRequest} {phase phase' : PipePhase}
    (step : Step pipe request phase pipe' phase') (outcome : PipeOutcome) :
    phase ≠ .finished outcome := by
  rintro rfl
  cases step with
  | answer phase phase' pipe' keeps answers => cases answers

variable {scene scene' : PipeScene} {call call' : PipeCall}

/-- The list of what a transfer can do is complete. -/
theorem step_cases (stepped : call.step scene = some (scene', call')) :
    call'.request = call.request ∧
      Step scene.pipe call.request call.phase scene'.pipe call'.phase := by
  obtain ⟨sameRequest, crosses⟩ := crosses_step stepped
  refine ⟨sameRequest, ?_⟩
  obtain ⟨files', pipe'⟩ := scene'
  obtain ⟨request, phase⟩ := call
  obtain ⟨request', phase'⟩ := call'
  cases crosses with
  | find isOpen => exact .find isOpen
  | miss => exact .miss
  | enter free => exact .queue
  | findLate isOpen => exact .findLate isOpen
  | missAgain closed => exact .missAgain
  | await inode opens => exact .await _ opens
  | «open» inode => exact .open _
  | meet file opens => exact .meet file opens
  | keep file => exact .keep file _
  | fail phase error fails =>
      cases fails with
      | opening source => exact .answer _ _ _ id (.refuseOpening source)
      | awaiting file opens source =>
          -- Only the system gives up a wait for the other end.
          simp only [step] at stepped
          split at stepped <;> simp [goTo] at stepped
      | flags file source => exact .answer _ _ _ id (.refuseFlags file source)
  | lose progress closed => exact .lose progress closed
  | transfer progress file later phase' isOpen way continues answers success =>
      exact .answer _ _ _ (fun _ => rfl) answers
  | refuse progress source =>
      cases request with
      | produce data => exact .answer _ _ _ id (.refuseWrite data progress source rfl)
      | consume length => exact .answer _ _ _ id (.refuseRead length progress source rfl)

end PipeCall

/-! ## What a transfer has done -/

/-- The part of its data that a FIFO has accepted from a call, if there is one. -/
inductive Offers (pipe : Pipe) (data : List UInt8) : Option PipeCall → List UInt8 → Prop
  | idle : Offers pipe data none []
  | outside (phase : PipePhase) (outside : ∀ progress, phase ≠ .transferring progress)
      (unfinished : ∀ outcome, phase ≠ .finished outcome) :
      Offers pipe data (some ⟨.produce data, phase⟩) []
  | underway (progress : OpenFile.WriteProgress) (part : List UInt8)
      (isOpen : pipe.isOpen = true) (whole : data = part ++ progress.rest)
      (counted : progress.written = part.length) :
      Offers pipe data (some ⟨.produce data, .transferring progress⟩) part
  | produced (part rest : List UInt8) (whole : data = part ++ rest) :
      Offers pipe data (some ⟨.produce data, .finished (.produced part.length)⟩) part
  | failed (error : PipeError) :
      Offers pipe data (some ⟨.produce data, .finished (.failed error)⟩) []

/-- The bytes that a call has taken out of a FIFO, if there is one.  It takes none only at the
end. -/
inductive Fetches (pipe : Pipe) (length : Nat) (dry : Prop) :
    Option PipeCall → List UInt8 → Prop
  | idle : Fetches pipe length dry none []
  | outside (phase : PipePhase) (outside : ∀ progress, phase ≠ .transferring progress)
      (unfinished : ∀ outcome, phase ≠ .finished outcome) :
      Fetches pipe length dry (some ⟨.consume length, phase⟩) []
  | underway (progress : OpenFile.WriteProgress) (isOpen : pipe.isOpen = true) :
      Fetches pipe length dry (some ⟨.consume length, .transferring progress⟩) []
  | consumed (bytes : List UInt8) (few : bytes.length ≤ length)
      (last : bytes = [] → length = 0 ∨ dry) :
      Fetches pipe length dry (some ⟨.consume length, .finished (.consumed bytes)⟩) bytes
  | failed (error : PipeError) :
      Fetches pipe length dry (some ⟨.consume length, .finished (.failed error)⟩) []

section

variable {pipe pipe' : Pipe} {request : PipeRequest} {phase phase' : PipePhase} {bound : Nat}
  {channel channel' : Channel}

theorem Offers.part_prefix {data part : List UInt8} {call : Option PipeCall}
    (offers : Offers pipe data call part) : part <+: data := by
  cases offers with
  | underway progress part isOpen whole counted => exact ⟨progress.rest, whole.symm⟩
  | produced part rest whole => exact ⟨rest, whole.symm⟩
  | _ => exact List.nil_prefix

theorem Offers.step {data part : List UInt8}
    (offers : Offers pipe data (some ⟨request, phase⟩) part)
    (step : PipeCall.Step pipe request phase pipe' phase')
    (serves : request.Serves bound phase phase' channel channel') : ∃ more,
    channel' = channel.accept more ∧
      Offers pipe' data (some ⟨request, phase'⟩) (part ++ more) := by
  cases offers with
  | outside phase outside unfinished =>
      cases serves with
      | apart phase phase' channel _ =>
          refine ⟨[], by simp, ?_⟩
          cases step with
          | find isOpen => exact .underway _ [] isOpen rfl rfl
          | findLate isOpen => exact .underway _ [] isOpen rfl rfl
          | keep file kept => exact .underway _ [] rfl rfl rfl
          | lose progress closed => exact absurd rfl (outside progress)
          | answer phase phase' pipe' keeps answers =>
              cases answers with
              | refuseOpening error => exact .failed _
              | refuseFlags file error => exact .failed _
              | _ => exact absurd rfl (outside _)
          | _ => exact .outside _ (by simp) (by simp)
      | _ => exact absurd rfl (outside _)
  | underway progress part isOpen whole counted =>
      cases step with
      | lose progress closed => simp [Pipe.isOpen, closed] at isOpen
      | answer phase phase' pipe' keeps answers =>
          cases serves with
          | apart phase phase' channel outside => exact absurd rfl (outside progress)
          | astray progress channel => cases answers
          | write progress progress' more channel split more_counted room =>
              refine ⟨more, rfl, .underway progress' _ (keeps isOpen) ?_ ?_⟩
              · rw [whole, split, List.append_assoc]
              · rw [more_counted, counted, List.length_append]
          | written progress more rest channel split room =>
              refine ⟨more, rfl, ?_⟩
              rw [counted, ← List.length_append]
              exact .produced _ rest (by rw [whole, split, List.append_assoc])
          | refuse progress error channel untouched =>
              -- A write that is refused was not begun, so nothing of it was accepted.
              have nothing : part = [] := List.eq_nil_of_length_eq_zero (by omega)
              subst nothing
              exact ⟨[], by simp, .failed error⟩
          | read length progress bytes rest taken closed asks few last => cases asks
  | produced part rest whole => exact absurd rfl (step.unfinished _)
  | failed error => exact absurd rfl (step.unfinished _)

theorem Fetches.length_le {length : Nat} {dry : Prop} {call : Option PipeCall}
    {bytes : List UInt8} (fetches : Fetches pipe length dry call bytes) :
    bytes.length ≤ length := by
  cases fetches with
  | consumed bytes few last => exact few
  | _ => exact Nat.zero_le length

theorem Fetches.mono {length : Nat} {dry dry' : Prop} {call : Option PipeCall}
    {bytes : List UInt8} (fetches : Fetches pipe length dry call bytes)
    (ends : dry → dry') : Fetches pipe length dry' call bytes := by
  cases fetches with
  | idle => exact .idle
  | outside phase outside unfinished => exact .outside phase outside unfinished
  | underway progress isOpen => exact .underway progress isOpen
  | consumed bytes few last => exact .consumed bytes few fun none => (last none).imp_right ends
  | failed error => exact .failed error

theorem Fetches.step {length : Nat} {bytes : List UInt8}
    (fetches : Fetches pipe length channel.Dry (some ⟨request, phase⟩) bytes)
    (step : PipeCall.Step pipe request phase pipe' phase')
    (serves : request.Serves bound phase phase' channel channel') : ∃ more,
    channel.queue = more ++ channel'.queue ∧ channel'.taken = channel.taken ++ more ∧
      channel'.closed = channel.closed ∧
      Fetches pipe' length channel'.Dry (some ⟨request, phase'⟩) (bytes ++ more) := by
  cases fetches with
  | outside phase outside unfinished =>
      cases serves with
      | apart phase phase' channel _ =>
          refine ⟨[], by simp, by simp, rfl, ?_⟩
          cases step with
          | find isOpen => exact .underway _ isOpen
          | findLate isOpen => exact .underway _ isOpen
          | keep file kept => exact .underway _ rfl
          | lose progress closed => exact absurd rfl (outside progress)
          | answer phase phase' pipe' keeps answers =>
              cases answers with
              | refuseOpening error => exact .failed _
              | refuseFlags file error => exact .failed _
              | _ => exact absurd rfl (outside _)
          | _ => exact .outside _ (by simp) (by simp)
      | _ => exact absurd rfl (outside _)
  | underway progress isOpen =>
      cases step with
      | lose progress closed => simp [Pipe.isOpen, closed] at isOpen
      | answer phase phase' pipe' keeps answers =>
          cases answers with
          | read length progress bytes asks =>
              cases asks
              cases serves with
              | apart phase phase' channel outside => exact absurd rfl (outside progress)
              | read length progress bytes rest taken closed asks few last =>
                  cases asks
                  exact ⟨bytes, rfl, rfl, rfl, .consumed bytes few last⟩
          | refuseRead length progress error asks =>
              cases serves with
              | apart phase phase' channel outside => exact absurd rfl (outside progress)
              | refuse progress error channel untouched =>
                  exact ⟨[], by simp, by simp, rfl, .failed _⟩
          | write data progress progress' asks => cases asks
          | written data progress count asks => cases asks
          | refuseWrite data progress error asks => cases asks
  | consumed bytes few last => exact absurd rfl (step.unfinished _)
  | failed error => exact absurd rfl (step.unfinished _)

end

/-! ## Transfers of a program -/

/-- A program with its endpoint of a pipe and its transfer in progress. -/
structure Piping (State : Type) where
  program : State
  pipe : Pipe
  call : Option PipeCall

/-- Everything that a program can do about a transfer through a pipe: its call begins, takes a
step on the files of some system, or is answered otherwise by the system, and at last the
program goes on. -/
inductive Piping.Pursues {State Answer : Type} (bound : Nat) (transport : Transport)
    (number : Nat) (begin? : Transport → Option Call) (idle : Answer)
    (settle : TransportOutcome → Party.Settled Answer) (resume : Answer → State)
    (piping : Piping State) : Piping State → Channel → Channel → Prop
  | skip (channel : Channel) (isIdle : piping.call = none)
      (needless : begin? transport = none) :
      Pursues bound transport number begin? idle settle resume piping
        { piping with program := resume idle } channel channel
  | begin (call : PipeCall) (channel : Channel) (isIdle : piping.call = none)
      (begins : begin? transport = some (.pipe number call)) :
      Pursues bound transport number begin? idle settle resume piping
        { piping with call := some call } channel channel
  | advance (scene scene' : PipeScene) (call call' : PipeCall) (channel channel' : Channel)
      (running : piping.call = some call) (endpoint : scene.pipe = piping.pipe)
      (stepped : call.step scene = some (scene', call'))
      (serves : call.request.Serves bound call.phase call'.phase channel channel') :
      Pursues bound transport number begin? idle settle resume piping
        { piping with pipe := scene'.pipe, call := some call' } channel channel'
  | react (call : PipeCall) (phase' : PipePhase) (channel channel' : Channel)
      (running : piping.call = some call)
      (answers : call.request.Answers piping.pipe.path call.phase phase')
      (serves : call.request.Serves bound call.phase phase' channel channel') :
      Pursues bound transport number begin? idle settle resume piping
        { piping with
          pipe := { piping.pipe with opening := false }, call := some (call.goTo phase') }
        channel channel'
  | answer (request : PipeRequest) (outcome : PipeOutcome) (answer : Answer)
      (channel : Channel) (running : piping.call = some ⟨request, .finished outcome⟩)
      (settled : settle (Outcome.pipe outcome).onTransport = .answer answer) :
      Pursues bound transport number begin? idle settle resume piping
        { piping with program := resume answer, call := none } channel channel

namespace Piping.Pursues

variable {State Answer : Type} {bound number : Nat} {transport : Transport}
  {begin? : Transport → Option Call} {idle : Answer}
  {settle : TransportOutcome → Party.Settled Answer} {resume : Answer → State}
  {piping later : Piping State} {channel channel' : Channel}

theorem program_eq (pursues : piping.Pursues bound transport number begin? idle settle resume
    later channel channel') :
    later.program = piping.program ∨ ∃ answer, later.program = resume answer := by
  cases pursues with
  | skip channel isIdle needless => exact .inr ⟨idle, rfl⟩
  | answer request outcome answer channel running settled => exact .inr ⟨answer, rfl⟩
  | _ => exact .inl rfl

theorem skipped (pursues : piping.Pursues bound transport number begin? idle settle resume
    later channel channel') (isIdle : piping.call = none) (needless : begin? transport = none) :
    channel' = channel ∧ later = { piping with program := resume idle } := by
  cases pursues with
  | skip channel isIdle needless => exact ⟨rfl, rfl⟩
  | begin call channel isIdle begins =>
      rw [needless] at begins
      cases begins
  | advance scene scene' call call' channel channel' running =>
      rw [isIdle] at running
      cases running
  | react call phase' channel channel' running =>
      rw [isIdle] at running
      cases running
  | answer request outcome answer channel running =>
      rw [isIdle] at running
      cases running

theorem step_or_answer {request : PipeRequest}
    (pursues : piping.Pursues bound transport number begin? idle settle resume later channel
      channel')
    (begins : begin? transport = some (.pipe number (.start request))) :
    (piping.call = none ∧ channel' = channel ∧
        later = { piping with call := some (.start request) }) ∨
      (∃ call phase', piping.call = some call ∧
        PipeCall.Step piping.pipe call.request call.phase later.pipe phase' ∧
        call.request.Serves bound call.phase phase' channel channel' ∧
        later.program = piping.program ∧ later.call = some ⟨call.request, phase'⟩) ∨
      ∃ request outcome answer, piping.call = some ⟨request, .finished outcome⟩ ∧
        settle (Outcome.pipe outcome).onTransport = .answer answer ∧ channel' = channel ∧
        later = { piping with program := resume answer, call := none } := by
  cases pursues with
  | skip channel isIdle needless =>
      rw [begins] at needless
      cases needless
  | begin call channel isIdle isCall =>
      rw [begins] at isCall
      cases isCall
      exact .inl ⟨isIdle, rfl, rfl⟩
  | advance scene scene' call call' channel channel' running endpoint stepped serves =>
      obtain ⟨sameRequest, step⟩ := PipeCall.step_cases stepped
      rw [endpoint] at step
      refine .inr (.inl ⟨call, call'.phase, running, step, serves, rfl, ?_⟩)
      rw [← sameRequest]
  | react call phase' channel channel' running answers serves =>
      exact .inr (.inl ⟨call, phase', running, .answer _ _ _ id answers, serves, rfl, rfl⟩)
  | answer request outcome answer channel running settled =>
      exact .inr (.inr ⟨request, outcome, answer, running, settled, rfl, rfl⟩)

theorem offers {data part : List UInt8}
    (pursues : piping.Pursues bound transport number begin? idle settle resume later channel
      channel')
    (begins : begin? transport = some (.pipe number (.start (.produce data))))
    (offers : Offers piping.pipe data piping.call part) :
    (∃ more, channel' = channel.accept more ∧ later.program = piping.program ∧
        Offers later.pipe data later.call (part ++ more)) ∨
      ∃ request outcome answer, piping.call = some ⟨request, .finished outcome⟩ ∧
        settle (Outcome.pipe outcome).onTransport = .answer answer ∧ channel' = channel ∧
        later = { piping with program := resume answer, call := none } := by
  rcases pursues.step_or_answer begins with ⟨isIdle, rfl, rfl⟩ |
    ⟨call, phase', running, step, serves, same, isCall⟩ | answered
  · rw [isIdle] at offers
    cases offers
    exact .inl ⟨[], by simp, rfl, .outside _ (by simp) (by simp)⟩
  · rw [running] at offers
    obtain ⟨more, accepted, offers'⟩ := offers.step step serves
    exact .inl ⟨more, accepted, same, by rwa [isCall]⟩
  · exact .inr answered

theorem fetches {length : Nat} {bytes : List UInt8}
    (pursues : piping.Pursues bound transport number begin? idle settle resume later channel
      channel')
    (begins : begin? transport = some (.pipe number (.start (.consume length))))
    (fetches : Fetches piping.pipe length channel.Dry piping.call bytes) :
    (∃ more, channel.queue = more ++ channel'.queue ∧
        channel'.taken = channel.taken ++ more ∧ channel'.closed = channel.closed ∧
        later.program = piping.program ∧
        Fetches later.pipe length channel'.Dry later.call (bytes ++ more)) ∨
      ∃ request outcome answer, piping.call = some ⟨request, .finished outcome⟩ ∧
        settle (Outcome.pipe outcome).onTransport = .answer answer ∧ channel' = channel ∧
        later = { piping with program := resume answer, call := none } := by
  rcases pursues.step_or_answer begins with ⟨isIdle, rfl, rfl⟩ |
    ⟨call, phase', running, step, serves, same, isCall⟩ | answered
  · rw [isIdle] at fetches
    cases fetches
    exact .inl ⟨[], by simp, by simp, rfl, rfl, .outside _ (by simp) (by simp)⟩
  · rw [running] at fetches
    obtain ⟨more, queue, taken, closed, fetches'⟩ := fetches.step step serves
    exact .inl ⟨more, queue, taken, closed, same, by rwa [isCall]⟩
  · exact .inr answered

end Piping.Pursues

end BoundedStream
