import BoundedStream.Proofs.Host.Retries
import Mathlib.Data.List.Infix
import Mathlib.Logic.Function.Basic
import Mathlib.Logic.Relation

/-!
# One descriptor for all callers

Any number of callers transfer through one endpoint in any interleaving of their steps, while
others do what they like with the file system, the system refuses what it likes, and onlookers
ask for the descriptor.  The endpoint is closed until a call has opened the FIFO and set the
flags, and from then on it has that one descriptor.  A call that could not open the FIFO has
moved nothing and is forgotten.
-/

namespace BoundedStream

/-! ## Calls and what they announce -/

/-- A call with what it did to the file system. -/
structure Venture where
  call : PipeCall
  /-- The file systems before and after each of its steps. -/
  deeds : List (FileSystem × FileSystem)

/-- Nothing is read or written from one file system to the next; at most an end that was opened
in vain is closed again. -/
def FileSystem.Still (role : Role) (files later : FileSystem) : Prop :=
  (∀ inode, later.bytes? inode = files.bytes? inode) ∨
    ∃ inode, later = (OpenFile.forRole inode role.isProducer).close files

/-- A call has read and written nothing. -/
def Venture.MovesNothing (role : Role) (venture : Venture) : Prop :=
  ∀ deed ∈ venture.deeds, deed.1.Still role deed.2

/-- What becomes known about the descriptor of an endpoint. -/
inductive Notice (Caller : Type) where
  /-- A call opened the FIFO and keeps the descriptor. -/
  | kept (caller : Caller) (file : OpenFile)
  /-- A call failed since it could not open the FIFO or set the flags. -/
  | failed (caller : Caller) (error : PipeError)
  /-- Somebody asked whether the descriptor is open. -/
  | asked (answer : Bool)
  /-- Somebody asked for the descriptor. -/
  | described (answer : Option OpenFile)

namespace Notice

variable {Caller : Type}

/-- The descriptor that a call keeps. -/
def file? : Notice Caller → Option OpenFile
  | kept _ file => some file
  | _ => none

/-- The descriptors that calls have kept, in order. -/
def opened (history : List (Notice Caller)) : List OpenFile := history.filterMap file?

@[simp]
theorem opened_snoc (history : List (Notice Caller)) (notice : Notice Caller) :
    opened (history ++ [notice]) = opened history ++ notice.file?.toList := by
  cases notice <;> simp [opened, file?]

/-- An endpoint has no descriptor as long as none was kept, and otherwise the only one. -/
inductive Agrees : Option OpenFile → List OpenFile → Prop
  | closed : Agrees none []
  | open (file kept : OpenFile) (continues : file.Continues kept) : Agrees (some file) [kept]

/-- What a notice says is so after what was known before. -/
def Tells (path : String) (role : Role) (flags : Int32) (before : List (Notice Caller)) :
    Notice Caller → Prop
  | kept _ file =>
    opened before = [] ∧
      ∃ inode, file = (OpenFile.forRole inode role.isProducer).addFlags flags
  | failed _ error =>
    opened before = [] ∧ ∃ source, error = .openFailed path source ∨ error = .flags path source
  | asked answer => answer = true ↔ opened before ≠ []
  | described answer => Agrees answer (opened before)

/-- Every notice of a history tells what was so. -/
def Faithful (path : String) (role : Role) (flags : Int32) (history : List (Notice Caller)) :
    Prop :=
  ∀ before notice after, history = before ++ notice :: after → Tells path role flags before notice

variable {path : String} {role : Role} {flags : Int32} {history : List (Notice Caller)}
  {notice : Notice Caller}

theorem Faithful.snoc (faithful : Faithful path role flags history)
    (tells : Tells path role flags history notice) :
    Faithful path role flags (history ++ [notice]) := by
  intro before other after split
  obtain rfl | ⟨after, last, rfl⟩ := after.eq_nil_or_concat
  · obtain ⟨rfl, ended⟩ := List.append_inj' split rfl
    cases ended
    exact tells
  · rw [List.concat_eq_append, ← List.cons_append, ← List.append_assoc] at split
    exact faithful before other after (List.append_inj' split rfl).1

end Notice

/-! ## Everything that may happen at an endpoint -/

namespace PipeCall

/-- The system refuses what a transfer asks of it.  An open file that is not kept is closed. -/
inductive Refused (scene : PipeScene) (request : PipeRequest) :
    PipePhase → PipeScene → PipeError → Prop
  | opening (source : SystemError) :
      Refused scene request .opening ⟨scene.files, { scene.pipe with opening := false }⟩
        (.openFailed scene.pipe.path source)
  | awaiting (file : OpenFile) (opens : Nat) (source : SystemError) :
      Refused scene request (.awaitingPeer file opens)
        ⟨file.close scene.files, { scene.pipe with opening := false }⟩
        (.openFailed scene.pipe.path source)
  | flags (file : OpenFile) (source : SystemError) (flagged : scene.pipe.flags ≠ 0) :
      Refused scene request (.keeping file)
        ⟨file.close scene.files, { scene.pipe with opening := false }⟩
        (.flags scene.pipe.path source)
  | transfer (progress : OpenFile.WriteProgress) (source : SystemError)
      (untouched : progress.written = 0) :
      Refused scene request (.transferring progress) scene (request.refusal source)

theorem Refused.crosses {scene scene' : PipeScene} {request : PipeRequest} {phase : PipePhase}
    {error : PipeError} (refused : Refused scene request phase scene' error) :
    Crosses scene.pipe request phase scene'.pipe (.finished (.failed error)) := by
  cases refused with
  | opening source => exact .fail _ _ (.opening source)
  | awaiting file opens source => exact .fail _ _ (.awaiting file opens source)
  | flags file source flagged => exact .fail _ _ (.flags file source)
  | transfer progress source untouched => exact .refuse progress source

/-- What a step from one phase to the next makes known. -/
def notice? {Caller : Type} (caller : Caller) (pipe : Pipe) :
    PipePhase → PipePhase → Option (Notice Caller)
  | .keeping _, .transferring _ => pipe.file.map (.kept caller)
  | .opening, .finished (.failed error) => some (.failed caller error)
  | .awaitingPeer _ _, .finished (.failed error) => some (.failed caller error)
  | .keeping _, .finished (.failed error) => some (.failed caller error)
  | _, _ => none

end PipeCall

/-! ## What a step makes known -/

namespace Notice.Agrees

variable {Caller : Type} {file kept later : OpenFile} {history : List (Notice Caller)}

theorem opened_eq_nil (agrees : Agrees none (opened history)) : opened history = [] := by
  generalize opened history = files at agrees ⊢
  cases agrees
  rfl

theorem isSome_iff {file : Option OpenFile} {files : List OpenFile} (agrees : Agrees file files) :
    file.isSome = true ↔ files ≠ [] := by
  cases agrees <;> simp

theorem moved {files : List OpenFile} (agrees : Agrees (some file) files)
    (continues : later.Continues file) : Agrees (some later) files := by
  cases agrees with
  | «open» file kept first => exact .open later kept (continues.trans first)

end Notice.Agrees

/-- Whoever fails to open says so. -/
theorem PipeCall.Crosses.notice?_of_isOpening {Caller : Type} {pipe pipe' : Pipe}
    {request : PipeRequest} {phase : PipePhase} {error : PipeError}
    (crosses : Crosses pipe request phase pipe' (.finished (.failed error)))
    (isOpening : error.isOpening = true) (caller : Caller) :
    notice? caller pipe' phase (.finished (.failed error)) = some (.failed caller error) := by
  cases crosses with
  | fail phase error fails => cases fails <;> rfl
  | transfer progress file later phase' isOpen way continues answers success =>
      exact absurd rfl (success error)
  | refuse progress source => cases request <;> cases isOpening

theorem PipeCall.Crosses.announces {Caller : Type} {pipe pipe' : Pipe} {request : PipeRequest}
    {phase phase' : PipePhase} {history : List (Notice Caller)}
    (crosses : Crosses pipe request phase pipe' phase') (relies : phase.Relies pipe)
    (agrees : Notice.Agrees pipe.file (Notice.opened history)) (caller : Caller) :
    Notice.Agrees pipe'.file
        (Notice.opened (history ++ (notice? caller pipe' phase phase').toList)) ∧
      ∀ notice ∈ notice? caller pipe' phase phase',
        Notice.Tells pipe.path pipe.role pipe.flags history notice := by
  cases crosses with
  | keep file =>
      obtain ⟨-, closed, inode, rfl⟩ := relies
      rw [closed] at agrees
      have nothing := agrees.opened_eq_nil
      refine ⟨?_, ?_⟩
      · simp only [notice?, Option.map_some, Option.toList_some, Notice.opened_snoc, nothing]
        exact .open _ _ (.refl _)
      · rintro _ ⟨⟩
        exact ⟨nothing, inode, rfl⟩
  | fail phase error fails =>
      have closed : pipe.file = none := by
        cases fails with
        | opening source => exact relies.2
        | awaiting file opens source => exact relies.2.1
        | flags file source => exact relies.2.1
      have nothing := (closed ▸ agrees).opened_eq_nil
      have isOpening : error.isOpening = true := by cases fails <;> rfl
      have crosses : Crosses pipe request phase _ _ := .fail phase error fails
      rw [crosses.notice?_of_isOpening isOpening]
      refine ⟨?_, ?_⟩
      · simpa [Notice.file?] using agrees
      · rintro _ ⟨⟩
        refine ⟨nothing, ?_⟩
        cases fails with
        | opening source => exact ⟨source, .inl rfl⟩
        | awaiting file opens source => exact ⟨source, .inl rfl⟩
        | flags file source => exact ⟨source, .inr rfl⟩
  | transfer progress file later phase' isOpen way continues =>
      rw [isOpen] at agrees
      exact ⟨by simpa [notice?] using agrees.moved continues, by simp [notice?]⟩
  | _ => exact ⟨by simpa [notice?] using agrees, by simp [notice?]⟩

/-- An endpoint with its callers. -/
structure Threshold (Caller : Type) where
  files : FileSystem
  pipe : Pipe
  ventures : Caller → Option Venture
  /-- What became known about the descriptor, in order. -/
  history : List (Notice Caller)

namespace Threshold

variable {Caller : Type}

/-- An endpoint that nobody uses yet. -/
def start (files : FileSystem) (pipe : Pipe) : Threshold Caller := ⟨files, pipe, fun _ => none, []⟩

def scene (threshold : Threshold Caller) : PipeScene := ⟨threshold.files, threshold.pipe⟩

/-- A caller that has no call under way. -/
def Idle (threshold : Threshold Caller) (caller : Caller) : Prop :=
  ∀ venture, threshold.ventures caller = some venture →
    ∃ outcome, venture.call.phase = .finished outcome

/-- The call of a caller has come to a scene. -/
def settle [DecidableEq Caller] (threshold : Threshold Caller) (caller : Caller) (venture : Venture)
    (scene : PipeScene) (call : PipeCall) : Threshold Caller where
  files := scene.files
  pipe := scene.pipe
  ventures := Function.update threshold.ventures caller
    (some ⟨call, venture.deeds ++ [(threshold.files, scene.files)]⟩)
  history := threshold.history ++
    (PipeCall.notice? caller scene.pipe venture.call.phase call.phase).toList

/-- Everything that may happen at an endpoint. -/
inductive Step [DecidableEq Caller] : Threshold Caller → Threshold Caller → Prop
  | begin {threshold : Threshold Caller} (caller : Caller) (request : PipeRequest)
      (idle : threshold.Idle caller) :
      Step threshold
        { threshold with
          ventures := Function.update threshold.ventures caller (some ⟨.start request, []⟩) }
  | advance {threshold : Threshold Caller} (caller : Caller) (venture : Venture) (scene : PipeScene)
      (call : PipeCall) (running : threshold.ventures caller = some venture)
      (stepped : venture.call.step threshold.scene = some (scene, call)) :
      Step threshold (threshold.settle caller venture scene call)
  | refuse {threshold : Threshold Caller} (caller : Caller) (venture : Venture) (scene : PipeScene)
      (error : PipeError) (running : threshold.ventures caller = some venture)
      (refused : PipeCall.Refused threshold.scene venture.call.request venture.call.phase scene
        error) :
      Step threshold
        (threshold.settle caller venture scene (venture.call.goTo (.finished (.failed error))))
  /-- Others do what they like with the file system. -/
  | others {threshold : Threshold Caller} (files : FileSystem) :
      Step threshold { threshold with files }
  | ask {threshold : Threshold Caller} :
      Step threshold
        { threshold with history := threshold.history ++ [.asked threshold.pipe.isOpen] }
  | describe {threshold : Threshold Caller} :
      Step threshold
        { threshold with history := threshold.history ++ [.described threshold.pipe.file] }

end Threshold

/-! ## What is kept by every step -/

/-- A call that has not read or written, or never may, has moved nothing, and one that goes
against its endpoint only ends with a failure. -/
structure Venture.Sound (role : Role) (venture : Venture) : Prop where
  still : venture.call.phase.precedes = true ∨ venture.call.request.suits role = false →
    venture.MovesNothing role
  fails : venture.call.request.suits role = false →
    ∀ outcome, venture.call.phase = .finished outcome → ∃ error, outcome = .failed error

theorem Venture.MovesNothing.snoc {role : Role} {venture : Venture} {call : PipeCall}
    {files later : FileSystem} (still : venture.MovesNothing role)
    (last : files.Still role later) :
    Venture.MovesNothing role ⟨call, venture.deeds ++ [(files, later)]⟩ := by
  intro deed member
  rcases List.mem_append.mp member with early | late
  · exact still deed early
  · rw [List.mem_singleton.mp late]
    exact last

namespace PipeCall

variable {pipe pipe' : Pipe} {request : PipeRequest} {phase phase' : PipePhase}

/-- A transfer that has not come to read or write never did. -/
theorem Crosses.precedes (crosses : Crosses pipe request phase pipe' phase')
    (relies : phase.Relies pipe) (before : phase'.precedes = true) : phase.precedes = true := by
  cases crosses with
  | fail phase error fails => cases fails <;> rfl
  | lose progress closed =>
      rw [PipePhase.Relies, Pipe.isOpen, closed] at relies
      cases relies
  | transfer progress file later phase' isOpen way continues answers success =>
      cases answers with
      | write | written | read => cases before
      | refuseWrite | refuseRead => exact absurd rfl (success _)
  | refuse progress source => cases request <;> cases before
  | find | findLate | keep => cases before
  | miss | enter | missAgain | await | «open» | meet => rfl

/-- A transfer against the direction of its endpoint ends with a failure. -/
theorem Crosses.fails (crosses : Crosses pipe request phase pipe' phase')
    (directed : pipe.Directed) (against : request.suits pipe.role = false)
    {outcome : PipeOutcome} (ends : phase' = .finished outcome) :
    ∃ error, outcome = .failed error := by
  cases crosses with
  | fail phase error fails =>
      cases ends
      exact ⟨error, rfl⟩
  | transfer progress file later phase' isOpen way continues =>
      rw [goesWith_eq directed isOpen, against] at way
      cases way
  | refuse progress source =>
      cases ends
      exact ⟨_, rfl⟩
  | _ => cases ends

variable {scene scene' : PipeScene} {call call' : PipeCall}

/-- No byte is moved before a transfer reads or writes. -/
theorem bytes?_of_not_transferring (stepped : call.step scene = some (scene', call'))
    (apart : ∀ progress, call.phase ≠ .transferring progress) (inode : Nat) :
    scene'.files.bytes? inode = scene.files.bytes? inode := by
  refine bytes?_step stepped ?_ inode
  cases isPhase : call.phase with
  | transferring progress => exact absurd isPhase (apart progress)
  | _ => trivial

/-- A step before the transfer, or of a transfer against the direction, moves nothing. -/
theorem still_step (stepped : call.step scene = some (scene', call'))
    (relies : call.phase.Relies scene.pipe) (directed : scene.pipe.Directed)
    (apart : (∀ progress, call.phase ≠ .transferring progress) ∨
      call.request.suits scene.pipe.role = false) :
    scene.files.Still scene.pipe.role scene'.files := by
  by_cases transfers : ∃ progress, call.phase = .transferring progress
  · obtain ⟨progress, transfers⟩ := transfers
    rw [transfers] at relies
    obtain ⟨file, isOpen⟩ := Option.isSome_iff_exists.mp relies
    have against : call.request.suits scene.pipe.role = false :=
      apart.resolve_left fun outside => outside progress transfers
    rw [← goesWith_eq directed isOpen] at against
    rw [step_of_unsuited transfers isOpen against] at stepped
    cases stepped
    exact .inl fun _ => rfl
  · exact .inl (bytes?_of_not_transferring stepped (not_exists.mp transfers))

/-- The system refuses nothing that was moved. -/
theorem Refused.still {error : PipeError} (refused : Refused scene request phase scene' error)
    (relies : phase.Relies scene.pipe) : scene.files.Still scene.pipe.role scene'.files := by
  cases refused with
  | opening source => exact .inl fun _ => rfl
  | awaiting file opens source =>
      obtain ⟨-, -, inode, rfl⟩ := relies
      exact .inr ⟨inode, rfl⟩
  | flags file source flagged =>
      obtain ⟨-, -, inode, rfl⟩ := relies
      exact .inr ⟨inode, rfl⟩
  | transfer progress source untouched => exact .inl fun _ => rfl

end PipeCall

theorem Venture.Sound.step {venture : Venture} {call : PipeCall} {files later : FileSystem}
    {pipe pipe' : Pipe} (sound : venture.Sound pipe.role)
    (sameRequest : call.request = venture.call.request)
    (crosses : PipeCall.Crosses pipe venture.call.request venture.call.phase pipe' call.phase)
    (relies : venture.call.phase.Relies pipe) (directed : pipe.Directed)
    (still : (∀ progress, venture.call.phase ≠ .transferring progress) ∨
      venture.call.request.suits pipe.role = false → files.Still pipe.role later) :
    Venture.Sound pipe.role ⟨call, venture.deeds ++ [(files, later)]⟩ where
  still := by
    rintro (precedes | against)
    · have before := crosses.precedes relies precedes
      refine (sound.still (.inl before)).snoc (still (.inl fun progress transfers => ?_))
      rw [transfers] at before
      cases before
    · rw [sameRequest] at against
      exact (sound.still (.inr against)).snoc (still (.inr against))
  fails := by
    intro against outcome ends
    rw [sameRequest] at against
    exact crosses.fails directed against ends

namespace Threshold

variable {Caller : Type} {threshold later : Threshold Caller} {path : String} {role : Role}
  {flags : Int32}

/-- What holds of an endpoint whatever happened to it. -/
structure Sound (threshold : Threshold Caller) (path : String) (role : Role) (flags : Int32) :
    Prop where
  samePath : threshold.pipe.path = path
  sameRole : threshold.pipe.role = role
  sameFlags : threshold.pipe.flags = flags
  directed : threshold.pipe.Directed
  agrees : Notice.Agrees threshold.pipe.file (Notice.opened threshold.history)
  faithful : Notice.Faithful path role flags threshold.history
  relies : ∀ caller venture, threshold.ventures caller = some venture →
    venture.call.phase.Relies threshold.pipe
  alone : ∀ caller other venture otherVenture, threshold.ventures caller = some venture →
    threshold.ventures other = some otherVenture → venture.call.phase.holds = true →
      otherVenture.call.phase.holds = true → other = caller
  /-- The lock is never left behind. -/
  held : threshold.pipe.opening = true → ∃ caller venture,
    threshold.ventures caller = some venture ∧ venture.call.phase.holds = true
  ventures : ∀ caller venture, threshold.ventures caller = some venture → venture.Sound role
  known : ∀ caller venture error, threshold.ventures caller = some venture →
    venture.call.phase = .finished (.failed error) → error.isOpening = true →
      Notice.failed caller error ∈ threshold.history

namespace Sound

theorem start (files : FileSystem) (path : String) (role : Role) (flags : Int32) :
    (start files (.closed path role flags) : Threshold Caller).Sound path role flags where
  samePath := rfl
  sameRole := rfl
  sameFlags := rfl
  directed := by rintro file ⟨⟩
  agrees := .closed
  faithful := by
    intro before notice after split
    cases (List.append_eq_nil_iff.mp split.symm).2
  relies := by rintro caller venture ⟨⟩
  alone := by rintro caller other venture otherVenture ⟨⟩
  held := by rintro ⟨⟩
  ventures := by rintro caller venture ⟨⟩
  known := by rintro caller venture error ⟨⟩

/-- One call is in another phase, and relies on what the endpoint is like then. -/
theorem substitute [DecidableEq Caller] (sound : threshold.Sound path role flags)
    {caller : Caller} {venture : Venture} {files : FileSystem} {pipe : Pipe}
    {history : List (Notice Caller)}
    (same : pipe.path = path ∧ pipe.role = role ∧ pipe.flags = flags) (directed : pipe.Directed)
    (agrees : Notice.Agrees pipe.file (Notice.opened history))
    (faithful : Notice.Faithful path role flags history)
    (relies : venture.call.phase.Relies pipe)
    (others : ∀ other otherVenture, other ≠ caller → threshold.ventures other = some otherVenture →
      otherVenture.call.phase.Relies pipe ∧
        (venture.call.phase.holds = true → otherVenture.call.phase.holds = false))
    (held : pipe.opening = true → venture.call.phase.holds = true ∨
      threshold.pipe.opening = true ∧
        ∀ before, threshold.ventures caller = some before → before.call.phase.holds = false)
    (ventureSound : venture.Sound role) (grows : threshold.history ⊆ history)
    (known : ∀ error, venture.call.phase = .finished (.failed error) → error.isOpening = true →
      Notice.failed caller error ∈ history) :
    (⟨files, pipe, Function.update threshold.ventures caller (some venture), history⟩ :
      Threshold Caller).Sound path role flags := by
  have present_cases : ∀ other otherVenture,
      Function.update threshold.ventures caller (some venture) other = some otherVenture →
        (other = caller ∧ otherVenture = venture) ∨
          other ≠ caller ∧ threshold.ventures other = some otherVenture := by
    intro other otherVenture present
    by_cases isCaller : other = caller
    · subst isCaller
      rw [Function.update_self] at present
      exact .inl ⟨rfl, (Option.some.inj present).symm⟩
    · rw [Function.update_of_ne isCaller] at present
      exact .inr ⟨isCaller, present⟩
  exact {
    samePath := same.1
    sameRole := same.2.1
    sameFlags := same.2.2
    directed
    agrees
    faithful
    relies := by
      intro other otherVenture present
      obtain ⟨rfl, rfl⟩ | ⟨distinct, present⟩ := present_cases other otherVenture present
      · exact relies
      · exact (others other otherVenture distinct present).1
    alone := by
      intro first second firstVenture secondVenture isFirst isSecond firstHolds secondHolds
      obtain ⟨isCaller, rfl⟩ | ⟨distinct, wasFirst⟩ := present_cases first firstVenture isFirst
      · obtain ⟨isCaller', -⟩ | ⟨distinct, wasSecond⟩ :=
          present_cases second secondVenture isSecond
        · exact isCaller'.trans isCaller.symm
        · rw [(others second secondVenture distinct wasSecond).2 firstHolds] at secondHolds
          cases secondHolds
      · obtain ⟨-, rfl⟩ | ⟨-, wasSecond⟩ := present_cases second secondVenture isSecond
        · rw [(others first firstVenture distinct wasFirst).2 secondHolds] at firstHolds
          cases firstHolds
        · exact sound.alone first second firstVenture secondVenture wasFirst wasSecond firstHolds
            secondHolds
    held := by
      intro locked
      obtain holds | ⟨locked, outside⟩ := held locked
      · exact ⟨caller, venture, Function.update_self .., holds⟩
      · obtain ⟨other, otherVenture, present, holds⟩ := sound.held locked
        have distinct : other ≠ caller := by
          rintro rfl
          rw [outside otherVenture present] at holds
          cases holds
        exact ⟨other, otherVenture, (Function.update_of_ne distinct ..).trans present, holds⟩
    ventures := by
      intro other otherVenture present
      obtain ⟨-, rfl⟩ | ⟨-, present⟩ := present_cases other otherVenture present
      · exact ventureSound
      · exact sound.ventures other otherVenture present
    known := by
      intro other otherVenture error present failed isOpening
      obtain ⟨rfl, rfl⟩ | ⟨-, present⟩ := present_cases other otherVenture present
      · exact known error failed isOpening
      · exact grows (sound.known other otherVenture error present failed isOpening) }

theorem begin [DecidableEq Caller] (sound : threshold.Sound path role flags) {caller : Caller}
    (idle : threshold.Idle caller) (request : PipeRequest) :
    ({ threshold with
      ventures := Function.update threshold.ventures caller (some ⟨.start request, []⟩) } :
        Threshold Caller).Sound path role flags := by
  refine sound.substitute ⟨sound.samePath, sound.sameRole, sound.sameFlags⟩ sound.directed
    sound.agrees sound.faithful trivial ?_ ?_ ?_ (fun _ => id) ?_
  · exact fun other otherVenture _ present => ⟨sound.relies other otherVenture present, nofun⟩
  · refine fun locked => .inr ⟨locked, fun before present => ?_⟩
    obtain ⟨outcome, isFinished⟩ := idle before present
    rw [isFinished]
    rfl
  · exact ⟨by rintro - deed ⟨⟩, by rintro - outcome ⟨⟩⟩
  · rintro error ⟨⟩

/-- What a call does alone or is refused keeps everything. -/
theorem settle [DecidableEq Caller] (sound : threshold.Sound path role flags) {caller : Caller}
    {venture : Venture} {scene : PipeScene} {call : PipeCall}
    (running : threshold.ventures caller = some venture)
    (sameRequest : call.request = venture.call.request)
    (crosses : PipeCall.Crosses threshold.pipe venture.call.request venture.call.phase scene.pipe
      call.phase)
    (still : (∀ progress, venture.call.phase ≠ .transferring progress) ∨
      venture.call.request.suits role = false → threshold.files.Still role scene.files) :
    (threshold.settle caller venture scene call).Sound path role flags := by
  have whole := sound
  obtain ⟨rfl, rfl, rfl, directed, agrees, faithful, relies, alone, held, ventures, -⟩ := sound
  have relied := relies caller venture running
  obtain ⟨agrees', tells⟩ := crosses.announces relied agrees caller
  -- Whoever holds the lock or finds it free is the only one to hold it.
  have apart : ∀ other otherVenture, other ≠ caller → threshold.ventures other = some otherVenture →
      venture.call.phase.holds = true ∨ threshold.pipe.opening = false →
        otherVenture.call.phase.holds = false := by
    rintro other otherVenture distinct present (holds | free)
    · refine Bool.eq_false_iff.mpr fun otherHolds => distinct ?_
      exact alone caller other venture otherVenture running present holds otherHolds
    · refine Bool.eq_false_iff.mpr fun otherHolds => ?_
      rw [(relies other otherVenture present).opening otherHolds] at free
      cases free
  refine whole.substitute crosses.same (crosses.directed relied directed) agrees' ?_
    (crosses.relies relied) ?_ ?_ ?_ (List.subset_append_left ..) ?_
  · cases announced : PipeCall.notice? caller scene.pipe venture.call.phase call.phase with
    | none => simpa using faithful
    | some notice => exact faithful.snoc (tells notice announced)
  · intro other otherVenture distinct present
    exact ⟨crosses.others_rely relied (relies other otherVenture present)
        fun holds => apart other otherVenture distinct present (.inl holds),
      fun holds => apart other otherVenture distinct present (crosses.entered holds)⟩
  · intro locked
    obtain holds | ⟨locked, outside⟩ := crosses.released locked
    · exact .inl holds
    · refine .inr ⟨locked, fun before present => ?_⟩
      rw [running] at present
      cases present
      exact outside
  · exact (ventures caller venture running).step sameRequest crosses relied directed still
  · intro error failed isOpening
    rw [failed] at crosses ⊢
    rw [crosses.notice?_of_isOpening isOpening caller]
    exact List.mem_append_right _ (List.mem_singleton_self _)

/-- Something becomes known that is so. -/
theorem learn (sound : threshold.Sound path role flags) {notice : Notice Caller}
    (unkept : notice.file? = none)
    (tells : Notice.Tells path role flags threshold.history notice) :
    ({ threshold with history := threshold.history ++ [notice] } : Threshold Caller).Sound path
      role flags :=
  { sound with
    agrees := by simpa [unkept] using sound.agrees
    faithful := sound.faithful.snoc tells
    known := fun caller venture error present failed isOpening =>
      List.mem_append_left _ (sound.known caller venture error present failed isOpening) }

theorem step [DecidableEq Caller] (sound : threshold.Sound path role flags)
    (step : Step threshold later) : later.Sound path role flags := by
  cases step with
  | begin caller request idle => exact sound.begin idle request
  | advance caller venture scene call running stepped =>
      obtain ⟨sameRequest, crosses⟩ := PipeCall.crosses_step stepped
      refine sound.settle running sameRequest crosses fun apart => ?_
      have relies := sound.relies caller venture running
      have sameRole := sound.sameRole
      subst sameRole
      exact PipeCall.still_step stepped relies sound.directed apart
  | refuse caller venture scene error running refused =>
      refine sound.settle running rfl refused.crosses fun _ => ?_
      have relies := sound.relies caller venture running
      have sameRole := sound.sameRole
      subst sameRole
      exact refused.still relies
  | others files => exact { sound with }
  | ask =>
      refine sound.learn rfl ?_
      rw [Notice.Tells, Pipe.isOpen, sound.agrees.isSome_iff]
  | describe => exact sound.learn rfl sound.agrees

theorem steps [DecidableEq Caller] {files : FileSystem}
    (reaches : Relation.ReflTransGen Step
      (Threshold.start files (.closed path role flags)) threshold) :
    threshold.Sound path role flags := by
  induction reaches with
  | refl => exact .start files path role flags
  | tail _ step hypothesis => exact hypothesis.step step

end Sound

/-! ## A later call -/

/-- The steps that a call takes when nobody else moves. -/
def Runs (before after : PipeScene × PipeCall) : Prop := before.2.step before.1 = some after

theorem runs_opening {files : FileSystem} {pipe : Pipe} (request : PipeRequest)
    (closed : pipe.file = none) (free : pipe.opening = false) :
    Relation.ReflTransGen Runs (⟨files, pipe⟩, .start request)
      (⟨files, { pipe with opening := true }⟩, ⟨request, .opening⟩) := by
  have misses : Runs (⟨files, pipe⟩, .start request) (⟨files, pipe⟩, ⟨request, .queueing⟩) := by
    simp only [Runs, PipeCall.start, PipeCall.step, Pipe.isOpen, closed]
    rfl
  have enters : Runs (⟨files, pipe⟩, ⟨request, .queueing⟩)
      (⟨files, { pipe with opening := true }⟩, ⟨request, .rechecking⟩) := by
    simp only [Runs, PipeCall.step, free]
    rfl
  have missesAgain : Runs (⟨files, { pipe with opening := true }⟩, ⟨request, .rechecking⟩)
      (⟨files, { pipe with opening := true }⟩, ⟨request, .opening⟩) := by
    simp only [Runs, PipeCall.step, Pipe.isOpen, closed]
    rfl
  exact ((Relation.ReflTransGen.single misses).tail enters).tail missesAgain

theorem runs_keeping {files : FileSystem} {pipe : Pipe} {inode : Nat} {fifo : Fifo}
    (request : PipeRequest) (closed : pipe.file = none) (free : pipe.opening = false)
    (leads : files.resolve true pipe.path = .ok inode)
    (isFifo : files.content? inode = some (.fifo fifo))
    (peers : (if pipe.role.isProducer then fifo.readers else fifo.writers) ≠ 0) :
    ∃ later, Relation.ReflTransGen Runs (⟨files, pipe⟩, .start request)
      (⟨later, { pipe with opening := true }⟩,
        ⟨request, .keeping (.forRole inode pipe.role.isProducer)⟩) := by
  let opened := if pipe.role.isProducer then fifo.openWriter else fifo.openReader
  have opens : Runs (⟨files, { pipe with opening := true }⟩, ⟨request, .opening⟩)
      (⟨files.setContent inode (.fifo opened), { pipe with opening := true }⟩,
        ⟨request, .keeping (.forRole inode pipe.role.isProducer)⟩) := by
    simp only [Runs, PipeCall.step, PipeCall.openPath, leads, isFifo, PipeCall.openFifo,
      if_neg peers]
    rfl
  exact ⟨_, (runs_opening request closed free).tail opens⟩

/-- What a call does alone it can also do among others that do not move. -/
theorem steps_of_runs [DecidableEq Caller] {caller : Caller} {request : PipeRequest}
    {after : PipeScene × PipeCall} (idle : threshold.Idle caller)
    (runs : Relation.ReflTransGen Runs (threshold.scene, .start request) after) :
    ∃ later deeds, Relation.ReflTransGen Step threshold later ∧ later.scene = after.1 ∧
      later.ventures caller = some ⟨after.2, deeds⟩ := by
  induction runs with
  | refl => exact ⟨_, [], .single (.begin caller request idle), rfl, Function.update_self ..⟩
  | tail _ run hypothesis =>
      obtain ⟨later, deeds, steps, there, goesOn⟩ := hypothesis
      rw [Runs, ← there] at run
      exact ⟨_, _, steps.tail (.advance caller _ _ _ goesOn run), rfl, Function.update_self ..⟩

/-- Whoever comes when nobody holds the lock can open a FIFO whose other end is open, however
often that failed before. -/
theorem can_open [DecidableEq Caller] {caller : Caller} {inode : Nat} {fifo : Fifo}
    (idle : threshold.Idle caller) (request : PipeRequest)
    (closed : threshold.pipe.file = none) (free : threshold.pipe.opening = false)
    (leads : threshold.files.resolve true threshold.pipe.path = .ok inode)
    (isFifo : threshold.files.content? inode = some (.fifo fifo))
    (peers : (if threshold.pipe.role.isProducer then fifo.readers else fifo.writers) ≠ 0) :
    ∃ later file deeds, Relation.ReflTransGen Step threshold later ∧
      later.pipe.file = some file ∧ Notice.kept caller file ∈ later.history ∧
      later.ventures caller = some ⟨⟨request, .transferring request.progress⟩, deeds⟩ := by
  obtain ⟨files, runs⟩ := runs_keeping request closed free leads isFifo peers
  obtain ⟨later, deeds, steps, there, running⟩ := steps_of_runs idle runs
  exact ⟨_, _, _, steps.tail (.advance caller _ _ _ running rfl), rfl,
    List.mem_append_right _ (List.mem_singleton_self _), Function.update_self ..⟩

/-! ## The endpoint is opened once -/

/-- What an endpoint and its callers can count on. -/
structure OpensOnce [DecidableEq Caller] (threshold : Threshold Caller) (path : String)
    (role : Role) (flags : Int32) : Prop where
  /-- The endpoint is closed until a call keeps a descriptor, and nobody keeps another one. -/
  agrees : Notice.Agrees threshold.pipe.file (Notice.opened threshold.history)
  /-- Every notice, and so every answer to an onlooker, fits the one descriptor. -/
  faithful : Notice.Faithful path role flags threshold.history
  directed : ∀ file, threshold.pipe.file = some file →
    file.readable = !role.isProducer ∧ file.writable = role.isProducer ∧
      file.flags = flags &&& OpenFile.changeable
  /-- A call that could not open has said so and has moved nothing. -/
  vain : ∀ caller venture error, threshold.ventures caller = some venture →
    venture.call.phase = .finished (.failed error) → error.isOpening = true →
      Notice.failed caller error ∈ threshold.history ∧ venture.MovesNothing role
  /-- No call leaves the lock behind. -/
  unlocked : (∀ caller venture, threshold.ventures caller = some venture →
    venture.call.phase.holds = false) → threshold.pipe.opening = false
  /-- As long as the endpoint is closed, whoever comes may open it. -/
  available : threshold.pipe.file = none → threshold.pipe.opening = false →
    ∀ inode fifo, threshold.files.resolve true path = .ok inode →
      threshold.files.content? inode = some (.fifo fifo) →
      (if role.isProducer then fifo.readers else fifo.writers) ≠ 0 →
      ∀ caller, threshold.Idle caller → ∀ request : PipeRequest,
        ∃ later file deeds, Relation.ReflTransGen Step threshold later ∧
          later.pipe.file = some file ∧ Notice.kept caller file ∈ later.history ∧
          later.ventures caller = some ⟨⟨request, .transferring request.progress⟩, deeds⟩
  /-- A transfer against the direction of the endpoint fails and moves nothing. -/
  against : ∀ caller venture, threshold.ventures caller = some venture →
    venture.call.request.suits role = false →
      venture.MovesNothing role ∧
        (∀ outcome, venture.call.phase = .finished outcome → ∃ error, outcome = .failed error) ∧
        ∀ progress, venture.call.phase = .transferring progress →
          venture.call.step threshold.scene = some (threshold.scene, venture.call.goTo
            (.finished (.failed (venture.call.request.refusal (.number .badDescriptor)))))

/-- The flags and the direction of an endpoint are those of the descriptor that a call keeps. -/
theorem Sound.flags_eq (sound : threshold.Sound path role flags) {file : OpenFile}
    (isOpen : threshold.pipe.file = some file) : file.flags = flags &&& OpenFile.changeable := by
  have agrees := sound.agrees
  rw [isOpen] at agrees
  generalize once : Notice.opened threshold.history = files at agrees
  cases agrees with
  | «open» file kept continues =>
      have member : kept ∈ Notice.opened threshold.history := by
        rw [once]
        exact List.mem_singleton_self kept
      obtain ⟨notice, inside, isKept⟩ := List.mem_filterMap.mp member
      obtain ⟨before, after, split⟩ := List.append_of_mem inside
      have tells := sound.faithful before notice after split
      cases notice with
      | kept caller first =>
          cases isKept
          obtain ⟨-, inode, rfl⟩ := tells
          rw [continues]
          exact Int32.zero_or
      | failed | asked | described => cases isKept

/-- Whatever callers, onlookers and the system do, the endpoint is opened once. -/
theorem opens_once [DecidableEq Caller] {files : FileSystem}
    (reaches : Relation.ReflTransGen Step
      (start files (.closed path role flags)) threshold) :
    threshold.OpensOnce path role flags := by
  have sound := Sound.steps reaches
  have flags_eq : ∀ file, threshold.pipe.file = some file →
      file.flags = flags &&& OpenFile.changeable := fun file => sound.flags_eq
  obtain ⟨rfl, rfl, -, directed, agrees, faithful, relies, -, held, ventures, known⟩ := sound
  exact {
    agrees
    faithful
    directed := fun file isOpen =>
      ⟨(directed file isOpen).1, (directed file isOpen).2, flags_eq file isOpen⟩
    vain := by
      intro caller venture error present failed isOpening
      refine ⟨known caller venture error present failed isOpening,
        (ventures caller venture present).still (.inl ?_)⟩
      rw [failed]
      exact isOpening
    unlocked := by
      intro unheld
      refine Bool.eq_false_iff.mpr fun locked => ?_
      obtain ⟨caller, venture, present, holds⟩ := held locked
      rw [unheld caller venture present] at holds
      cases holds
    available := fun closed free inode fifo leads isFifo peers caller idle request =>
      can_open idle request closed free leads isFifo peers
    against := by
      intro caller venture present against
      have sound := ventures caller venture present
      refine ⟨sound.still (.inr against), sound.fails against, fun progress transfers => ?_⟩
      have isOpen := relies caller venture present
      rw [transfers] at isOpen
      obtain ⟨file, isOpen⟩ := Option.isSome_iff_exists.mp isOpen
      refine PipeCall.step_of_unsuited transfers isOpen ?_
      exact (PipeCall.goesWith_eq directed isOpen).trans against }

/-- A consumer is refused once and opens its end when it comes again. -/
theorem opensOnce_of_second_try : ∃ (files : FileSystem) (before later : Threshold Unit),
    Relation.ReflTransGen Step (start files (.closed "data.fifo" .consumer 0)) before ∧
      Notice.failed () (.openFailed "data.fifo" (.number .tryAgain)) ∈ before.history ∧
      Relation.ReflTransGen Step before later ∧
      (∃ file, Notice.kept () file ∈ later.history) ∧
      later.OpensOnce "data.fifo" .consumer 0 := by
  let files : FileSystem :=
    ⟨[⟨0o755, .directory 0 [("data.fifo", 1)]⟩, ⟨0o600, .fifo ⟨[], 0, 1, 0, 1⟩⟩], 0, 0o022⟩
  let pipe : Pipe := .closed "data.fifo" .consumer 0
  let request : PipeRequest := .consume 4
  have leads : files.resolve true "data.fifo" = .ok 1 := rfl
  have unused : (start files pipe).Idle () := by rintro venture ⟨⟩
  obtain ⟨⟨_, _, ventures, history⟩, deeds, steps, there, running⟩ :=
    steps_of_runs unused (runs_opening request rfl rfl)
  cases there
  let first : Threshold Unit := ⟨files, { pipe with opening := true }, ventures, history⟩
  let before : Threshold Unit := first.settle () ⟨⟨request, .opening⟩, deeds⟩ ⟨files, pipe⟩
    ⟨request, .finished (.failed (.openFailed "data.fifo" (.number .tryAgain)))⟩
  have reached : Relation.ReflTransGen Step (start files pipe) before :=
    steps.tail (.refuse () _ _ _ running (.opening (.number .tryAgain)))
  have idle : before.Idle () := by
    intro venture present
    simp only [before, settle, Function.update_self, Option.some.injEq] at present
    exact ⟨_, congrArg (PipeCall.phase ∘ Venture.call) present.symm⟩
  obtain ⟨later, file, -, onward, -, kept, -⟩ :=
    can_open idle request rfl rfl leads rfl Nat.one_ne_zero
  exact ⟨files, before, later, reached,
    List.mem_append_right _ (List.mem_singleton_self _), onward, ⟨file, kept⟩,
    opens_once (reached.trans onward)⟩

end Threshold

end BoundedStream
