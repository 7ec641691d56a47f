import BoundedStream.Proofs.Program.Chunks
import BoundedStream.Proofs.Program.Dialogue
import BoundedStream.Proofs.Summary.Chunking

/-!
# Consumers keep to their limit

Whatever its endpoint answers, a consumer asks for no more than its chunk and what is missing
to its limit, and for nothing at the limit.  What it writes is what it received, so that a
fatal error leaves an output that holds all of it.  As long as the output takes what is
written, only four things end its loop: the limit, the end that a pipe tells, an empty ring
whose other side left, and a fatal error.
-/

namespace BoundedStream

/-- A consumer asks its endpoint for bytes, or for what tells whether there are any. -/
def ProgramRequest.isInquiry : ProgramRequest → Bool
  | receive _ | countPending | countReferences => true
  | _ => false

namespace Exchange

/-- The buffer was taken, with which the rounds begin. -/
def isOpening : Exchange → Bool
  | ⟨.allocate _, ()⟩ => true
  | _ => false

/-- The output did not take what was written. -/
def isSpill : Exchange → Bool
  | ⟨.writeOutput _, .error _⟩ => true
  | _ => false

/-- The answer tells a consumer the end of the stream, or is a fatal error. -/
def isEnd : Exchange → Bool
  | ⟨.receive _, .ok data⟩ => data.val.isEmpty
  | ⟨.receive _, .error error⟩ => !error.invitesRetry
  | ⟨.countPending, .error _⟩ => true
  | ⟨.countReferences, references⟩ => Consumption.showsEnd references
  | _ => false

/-- The error with which an answer makes a consumer fail. -/
def fault? : Exchange → Option RunError
  | ⟨.connect _ _, .error error⟩ => some (.stream error)
  | ⟨.createOutput _, .error error⟩ => some (.command (.system "creating output file" error))
  | ⟨.countPending, .error error⟩ => some (.command (.stream error))
  | ⟨.receive _, .error error⟩ => if error.invitesRetry then none else some (.stream error)
  | ⟨.writeOutput _, .error error⟩ => some (.command (.system "writing output" error))
  | ⟨.flushOutput, .error error⟩ => some (.command (.system "flushing output" error))
  | _ => none

end Exchange

namespace ConsumePhase

/-- The rounds of a consumer have begun and not ended yet. -/
def isLooping : ConsumePhase → Bool
  | counting _ | observing _ | resting _ | receiving _ | postponed | writing _ => true
  | _ => false

/-- What was received and is about to be written. -/
def unwritten : ConsumePhase → List UInt8
  | writing data => data
  | _ => []

/-- The result of a consumer that only has to give its endpoint up. -/
def outcome? : ConsumePhase → Option (Except RunError Report)
  | leaving result | finished result => some result
  | _ => none

end ConsumePhase

namespace Consumption

variable {config : Config} {output : Option String} {limit : Option Nat} {chunk : Nat}
  {exchanges : List Exchange} {consumption : Consumption}

/-- What an endpoint gave, in order. -/
def gained (exchanges : List Exchange) : List UInt8 := exchanges.flatMap Exchange.received

/-- What an output took, in order. -/
def stored (exchanges : List Exchange) : List UInt8 := exchanges.flatMap Exchange.written

theorem gained_snoc (exchanges : List Exchange) (last : Exchange) :
    gained (exchanges ++ [last]) = gained exchanges ++ last.received := by
  simp [gained]

theorem stored_snoc (exchanges : List Exchange) (last : Exchange) :
    stored (exchanges ++ [last]) = stored exchanges ++ last.written := by
  simp [stored]

@[simp]
theorem summary_begin (consumption : Consumption) :
    consumption.begin.summary = consumption.summary := by
  unfold begin
  split <;> rfl

@[simp]
theorem unwritten_begin (consumption : Consumption) :
    consumption.begin.phase.unwritten = [] := by
  unfold begin
  split <;> rfl

/-- An error that invites another try leads to another round. -/
theorem received_error_cases (consumption : Consumption) (length : Nat) (error : StreamError) :
    let later := consumption.received (.error error : Except StreamError (Chunk length))
    error.invitesRetry = true ∧
        (later = consumption.begin ∨ later = consumption.goTo .postponed) ∨
      error.invitesRetry = false ∧ later = consumption.fail (.stream error) := by
  simp only [received, StreamError.invitesRetry]
  cases error.isInterrupted <;> cases error.isWouldBlock <;> simp

/-! ## What was received and written -/

/-- The books of a consumer with the limit and the chunk after the exchanges. -/
structure Accounts (limit : Option Nat) (chunk : Nat) (exchanges : List Exchange)
    (consumption : Consumption) : Prop where
  limited : consumption.limit = limit
  chunked : consumption.chunk = chunk
  summed : consumption.summary = Summary.empty.update (stored exchanges)
  gained_eq : gained exchanges = stored exchanges ++ consumption.phase.unwritten
  kept : ∀ greatest, limit = some greatest → (gained exchanges).length ≤ greatest
  aims : consumption.Aims

namespace Accounts

variable {later : Consumption}

theorem bytes_eq (accounts : Accounts limit chunk exchanges consumption) :
    consumption.summary.bytes = (stored exchanges).length := by
  rw [accounts.summed]
  exact Nat.zero_add _

/-- A report warns of the limit if less than it was written. -/
theorem lines_report (accounts : Accounts limit chunk exchanges consumption) :
    consumption.report.lines =
      ((limit.filter fun greatest => decide ((stored exchanges).length < greatest)).map
        fun greatest => Report.warning greatest (stored exchanges).length).toList ++
        [consumption.report.line] := by
  have limited : consumption.report.limit = limit := accounts.limited
  have bytes : consumption.report.summary.bytes = (stored exchanges).length := accounts.bytes_eq
  rw [Report.lines, Report.missed?, limited, bytes]

theorem of_quiet (accounts : Accounts limit chunk exchanges consumption)
    (last : Exchange) (positive : 1 ≤ chunk) (next : Next consumption later)
    (summed : later.summary = consumption.summary)
    (settled : consumption.phase.unwritten = []) (settled' : later.phase.unwritten = [])
    (nothing : last.received = []) (nothing' : last.written = []) :
    Accounts limit chunk (exchanges ++ [last]) later where
  limited := next.limit_eq.trans accounts.limited
  chunked := next.chunk_eq.trans accounts.chunked
  summed := by rw [summed, accounts.summed, stored_snoc, nothing', List.append_nil]
  gained_eq := by
    rw [gained_snoc, stored_snoc, nothing, nothing', List.append_nil, List.append_nil, settled',
      accounts.gained_eq, settled]
  kept := by
    rw [gained_snoc, nothing, List.append_nil]
    exact accounts.kept
  aims := next.aims (accounts.chunked ▸ positive) accounts.aims

/-- A consumer that receives asks for what is missing to its limit at most. -/
theorem bounds (accounts : Accounts limit chunk exchanges consumption) {length : Nat}
    (receives : consumption.phase = .receiving length) :
    1 ≤ length ∧ length ≤ chunk ∧
      ∀ greatest, limit = some greatest → (gained exchanges).length + length ≤ greatest := by
  obtain ⟨want, wanted, some, few⟩ : ∃ want, consumption.want? = some want ∧ 1 ≤ length ∧
      length ≤ want := by
    have aims := accounts.aims
    simpa only [Aims, receives] using aims
  have settled : gained exchanges = stored exchanges := by
    simpa [receives, ConsumePhase.unwritten] using accounts.gained_eq
  unfold want? at wanted
  rw [accounts.limited, accounts.chunked, accounts.bytes_eq, ← settled] at wanted
  split at wanted
  · cases wanted
    exact ⟨some, few, fun greatest isLimit => by cases isLimit⟩
  · split at wanted <;> cases wanted
    refine ⟨some, Nat.le_trans few (Nat.min_le_right _ _), ?_⟩
    rintro greatest ⟨⟩
    omega

/-- As long as a consumer asks its endpoint, something is missing to its limit. -/
theorem below (accounts : Accounts limit chunk exchanges consumption) {request : ProgramRequest}
    {resume : ProgramReply request → Consumption} (asks : consumption.turn = .ask request resume)
    (inquires : request.isInquiry = true) :
    ∀ greatest, limit = some greatest → (gained exchanges).length < greatest := by
  have aims := accounts.aims
  obtain ⟨want, wanted, settled⟩ : ∃ want, consumption.want? = some want ∧
      consumption.phase.unwritten = [] := by
    unfold turn at asks
    unfold Aims at aims
    split at asks <;> rename_i isPhase <;> rw [isPhase] at aims ⊢ <;> cases asks <;> first
      | exact ⟨_, aims, rfl⟩
      | exact ⟨_, aims.choose_spec.1, rfl⟩
      | cases inquires
  have short := accounts.gained_eq
  rw [settled, List.append_nil] at short
  unfold want? at wanted
  rw [accounts.limited, accounts.bytes_eq, ← short] at wanted
  rintro greatest rfl
  simp only at wanted
  split at wanted
  · cases wanted
  · omega

theorem start (config : Config) (output : Option String) (limit : Option Nat)
    (positive : 1 ≤ chunk) : Accounts limit chunk [] (start config output limit chunk) := by
  have isStart : Consumption.start config output limit chunk =
      ⟨config, output, limit, chunk, .empty, .connecting⟩ := by
    simp [Consumption.start, Nat.ne_of_gt positive]
  rw [isStart]
  exact ⟨rfl, rfl, rfl, rfl, fun _ _ => Nat.zero_le _, trivial⟩

/-- Bytes that were received are about to be written. -/
theorem gain (accounts : Accounts limit chunk exchanges consumption) {length : Nat}
    (receives : consumption.phase = .receiving length) (data : Chunk length) :
    Accounts limit chunk (exchanges ++ [⟨.receive length, .ok data⟩])
      (consumption.goTo (.writing data.val)) where
  limited := accounts.limited
  chunked := accounts.chunked
  summed := by
    rw [stored_snoc]
    exact accounts.summed.trans (by simp [Exchange.written])
  gained_eq := by
    have settled := accounts.gained_eq
    rw [receives] at settled
    rw [gained_snoc, stored_snoc, settled]
    simp [Exchange.received, Exchange.written, ConsumePhase.unwritten, goTo]
  kept := by
    rintro greatest isLimit
    have bound := (accounts.bounds receives).2.2 greatest isLimit
    have few := data.property
    rw [gained_snoc, List.length_append]
    exact Nat.le_trans (Nat.add_le_add_left few _) bound
  aims := trivial

/-- Bytes that were written count. -/
theorem store (accounts : Accounts limit chunk exchanges consumption) (positive : 1 ≤ chunk)
    {data : List UInt8} (writes : consumption.phase = .writing data) :
    Accounts limit chunk (exchanges ++ [⟨.writeOutput data, .ok ()⟩])
      { consumption with summary := consumption.summary.update data }.begin := by
  have next : Next consumption
      { consumption with summary := consumption.summary.update data }.begin := .begin _
  refine ⟨next.limit_eq.trans accounts.limited, next.chunk_eq.trans accounts.chunked, ?_, ?_, ?_,
    next.aims (accounts.chunked ▸ positive) accounts.aims⟩
  · rw [summary_begin, stored_snoc, Summary.update_append, ← accounts.summed]
    rfl
  · have unsettled := accounts.gained_eq
    rw [writes] at unsettled
    rw [gained_snoc, stored_snoc, unsettled, unwritten_begin]
    simp [Exchange.received, Exchange.written, ConsumePhase.unwritten]
  · rw [gained_snoc]
    exact fun greatest isLimit =>
      Nat.le_trans (by simp [Exchange.received]) (accounts.kept greatest isLimit)

theorem reply {request : ProgramRequest} {resume : ProgramReply request → Consumption}
    (accounts : Accounts limit chunk exchanges consumption) (positive : 1 ≤ chunk)
    (asks : consumption.turn = .ask request resume) (reply : ProgramReply request)
    (dry : Exchange.isSpill ⟨request, reply⟩ = false) :
    Accounts limit chunk (exchanges ++ [⟨request, reply⟩]) (resume reply) := by
  have next : Next consumption (resume reply) :=
    next_of_goesOn (.answer request resume asks reply)
  have quiet := fun summed settled settled' nothing nothing' =>
    accounts.of_quiet ⟨request, reply⟩ positive next summed settled settled' nothing nothing'
  unfold turn at asks
  split at asks <;> rename_i isPhase <;> rw [isPhase] at quiet <;> cases asks
  · cases reply <;> exact quiet rfl rfl rfl rfl rfl
  · cases reply <;> exact quiet rfl rfl rfl rfl rfl
  · exact quiet (summary_begin _) rfl (unwritten_begin _) rfl rfl
  · rcases reply with error | _ | _ | pending <;> exact quiet rfl rfl rfl rfl rfl
  · refine quiet ?_ rfl ?_ rfl rfl <;> simp only [referencesCounted] <;> split <;> rfl
  · exact quiet rfl rfl rfl rfl rfl
  · rcases reply with error | ⟨_ | ⟨byte, data⟩, short⟩
    · rcases consumption.received_error_cases _ error with ⟨-, same | same⟩ | ⟨-, same⟩ <;>
        rw [same] at quiet ⊢
      · exact quiet (summary_begin _) rfl (unwritten_begin _) rfl rfl
      · exact quiet rfl rfl rfl rfl rfl
      · exact quiet rfl rfl rfl rfl rfl
    · exact quiet rfl rfl rfl rfl rfl
    · exact accounts.gain isPhase ⟨byte :: data, short⟩
  · exact quiet (summary_begin _) rfl (unwritten_begin _) rfl rfl
  · cases reply with
    | ok _ => exact accounts.store positive isPhase
    | error error => cases dry
  · cases reply <;> exact quiet rfl rfl rfl rfl rfl
  · exact quiet rfl rfl rfl rfl rfl

end Accounts

theorem accounts_dialogue (positive : 1 ≤ chunk)
    (dialogue : Turn.Dialogue turn (start config output limit chunk) exchanges consumption)
    (dry : exchanges.any Exchange.isSpill = false) :
    Accounts limit chunk exchanges consumption := by
  induction dialogue with
  | nil => exact .start config output limit positive
  | snoc before asks reply accounts =>
      rw [List.any_append, Bool.or_eq_false_iff] at dry
      exact (accounts dry.1).reply positive asks reply (by simpa using dry.2)

/-! ## The end of the rounds -/

/-- The buffer was taken, something is missing to the limit, and no answer ended the rounds. -/
structure Ongoing (limit : Option Nat) (exchanges : List Exchange) : Prop where
  opened : exchanges.any Exchange.isOpening = true
  below : ∀ greatest, limit = some greatest → (stored exchanges).length < greatest
  endless : exchanges.any Exchange.isEnd = false

/-- The rounds of a consumer in the phase are just going on, or have not begun, or are over. -/
def Course (limit : Option Nat) (exchanges : List Exchange) : ConsumePhase → Prop
  | .connecting | .creatingOutput | .allocating =>
    exchanges.any Exchange.isOpening = false ∧ exchanges.any Exchange.isEnd = false
  | .flushing | .leaving _ | .finished _ => ¬ Ongoing limit exchanges
  | _ => Ongoing limit exchanges

section Course

variable {last : Exchange}

theorem Ongoing.snoc (ongoing : Ongoing limit exchanges) (nothing : last.written = [])
    (goes : last.isEnd = false) : Ongoing limit (exchanges ++ [last]) where
  opened := by rw [List.any_append, ongoing.opened, Bool.true_or]
  below := by
    rw [stored_snoc, nothing, List.append_nil]
    exact ongoing.below
  endless := by simp [ongoing.endless, goes]

theorem not_ongoing_of_closed (closed : exchanges.any Exchange.isOpening = false) :
    ¬ Ongoing limit exchanges := by
  intro ongoing
  rw [ongoing.opened] at closed
  cases closed

theorem not_ongoing_of_end (ends : last.isEnd = true) :
    ¬ Ongoing limit (exchanges ++ [last]) := by
  intro ongoing
  have endless := ongoing.endless
  simp [ends] at endless

theorem not_ongoing_snoc (past : ¬ Ongoing limit exchanges) (closed : last.isOpening = false) :
    ¬ Ongoing limit (exchanges ++ [last]) := by
  rintro ⟨opened, below, endless⟩
  refine past ⟨by simpa [closed] using opened, fun greatest isLimit => ?_, ?_⟩
  · have below := below greatest isLimit
    rw [stored_snoc, List.length_append] at below
    omega
  · rw [List.any_append, Bool.or_eq_false_iff] at endless
    exact endless.1

/-- A round begins as long as something is missing to the limit. -/
theorem course_begin (accounts : Accounts limit chunk exchanges consumption.begin)
    (opened : exchanges.any Exchange.isOpening = true)
    (endless : exchanges.any Exchange.isEnd = false) :
    Course limit exchanges consumption.begin.phase := by
  have bytes : consumption.summary.bytes = (stored exchanges).length := by
    rw [← accounts.bytes_eq, summary_begin]
  have limited : consumption.limit = limit := by
    rw [← accounts.limited]
    exact (Next.limit_eq (.begin consumption.summary)).symm
  cases wanted : consumption.want? with
  | none =>
      have isBegin : consumption.begin = consumption.goTo .flushing := by
        simp only [begin, wanted]
      rw [isBegin]
      rintro ⟨-, below, -⟩
      unfold want? at wanted
      rw [limited, bytes] at wanted
      split at wanted
      · cases wanted
      · split at wanted
        · have short := below _ rfl
          omega
        · cases wanted
  | some want =>
      have isBegin : consumption.begin = consumption.goTo (.counting want) := by
        simp only [begin, wanted]
      rw [isBegin]
      refine ⟨opened, ?_, endless⟩
      rintro greatest rfl
      unfold want? at wanted
      rw [limited, bytes] at wanted
      simp only at wanted
      split at wanted
      · cases wanted
      · omega

theorem course_start (config : Config) (output : Option String) (limit : Option Nat)
    (positive : 1 ≤ chunk) : Course limit [] (start config output limit chunk).phase := by
  simp only [start, if_neg (Nat.ne_of_gt positive)]
  exact ⟨rfl, rfl⟩

theorem course_reply {request : ProgramRequest} {resume : ProgramReply request → Consumption}
    (course : Course limit exchanges consumption.phase)
    (asks : consumption.turn = .ask request resume) (reply : ProgramReply request)
    (dry : Exchange.isSpill ⟨request, reply⟩ = false)
    (accounts : Accounts limit chunk (exchanges ++ [⟨request, reply⟩]) (resume reply)) :
    Course limit (exchanges ++ [⟨request, reply⟩]) (resume reply).phase := by
  unfold turn at asks
  split at asks <;> rename_i isPhase <;> rw [isPhase] at course <;> cases asks
  · obtain ⟨closed, endless⟩ := course
    cases reply with
    | ok capacity =>
        exact ⟨by rw [List.any_append, closed]; rfl, by rw [List.any_append, endless]; rfl⟩
    | error error => exact not_ongoing_snoc (not_ongoing_of_closed closed) rfl
  · obtain ⟨closed, endless⟩ := course
    cases reply with
    | ok _ =>
        exact ⟨by rw [List.any_append, closed]; rfl, by rw [List.any_append, endless]; rfl⟩
    | error error => exact not_ongoing_snoc (not_ongoing_of_closed closed) rfl
  · obtain ⟨closed, endless⟩ := course
    exact course_begin accounts (by simp [Exchange.isOpening]) (by
      rw [List.any_append, endless]; rfl)
  · rcases reply with error | _ | _ | pending
    · exact not_ongoing_of_end rfl
    · exact course.snoc rfl rfl
    · exact course.snoc rfl rfl
    · exact course.snoc rfl rfl
  · simp only [referencesCounted]
    split
    · rename_i ended
      exact not_ongoing_of_end ended
    · rename_i attended
      exact course.snoc rfl (eq_false_of_ne_true attended)
  · exact course.snoc rfl rfl
  · rename_i length
    rcases reply with error | ⟨_ | ⟨byte, data⟩, short⟩
    · have ends : Exchange.isEnd ⟨.receive length, .error error⟩ = !error.invitesRetry := rfl
      rcases consumption.received_error_cases _ error with
        ⟨again, same | same⟩ | ⟨final, same⟩ <;> rw [same] at accounts ⊢
      · have ongoing := course.snoc rfl (ends.trans (by rw [again]; rfl))
        exact course_begin accounts ongoing.opened ongoing.endless
      · exact course.snoc rfl (ends.trans (by rw [again]; rfl))
      · exact not_ongoing_of_end (ends.trans (by rw [final]; rfl))
    · exact not_ongoing_of_end rfl
    · exact course.snoc rfl rfl
  · exact course_begin accounts (course.snoc rfl rfl).opened (course.snoc rfl rfl).endless
  · cases reply with
    | ok _ => exact course_begin accounts (by simp [course.opened]) (by
        rw [List.any_append, course.endless]; rfl)
    | error error => cases dry
  · cases reply <;> exact not_ongoing_snoc course rfl
  · exact not_ongoing_snoc course rfl

end Course

theorem course_dialogue (positive : 1 ≤ chunk)
    (dialogue : Turn.Dialogue turn (start config output limit chunk) exchanges consumption)
    (dry : exchanges.any Exchange.isSpill = false) :
    Course limit exchanges consumption.phase := by
  induction dialogue with
  | nil => exact course_start config output limit positive
  | snoc before asks reply course =>
      have accounts := accounts_dialogue positive (before.snoc asks reply) dry
      rw [List.any_append, Bool.or_eq_false_iff] at dry
      exact course_reply (course dry.1) asks reply (by simpa using dry.2) accounts

theorem Course.isLooping_iff (course : Course limit exchanges consumption.phase) :
    consumption.phase.isLooping = true ↔ Ongoing limit exchanges := by
  cases isPhase : consumption.phase <;> rw [isPhase] at course <;> first
    | exact iff_of_true rfl course
    | exact iff_of_false (by decide) (not_ongoing_of_closed course.1)
    | exact iff_of_false (by simp [ConsumePhase.isLooping]) course

/-! ## The result -/

/-- The result of a consumer is the first error that it was answered and could not go on with,
or a report without such an error. -/
def Judged (exchanges : List Exchange) (consumption : Consumption) : Prop :=
  match consumption.phase.outcome? with
  | none => exchanges.findSome? Exchange.fault? = none
  | some (.ok report) =>
    exchanges.findSome? Exchange.fault? = none ∧ report = consumption.report
  | some (.error error) => exchanges.findSome? Exchange.fault? = some error

section Judged

variable {last : Exchange} {later : Consumption}

theorem fault?_snoc (exchanges : List Exchange) (last : Exchange) :
    (exchanges ++ [last]).findSome? Exchange.fault? =
      (exchanges.findSome? Exchange.fault?).or last.fault? := by
  simp [List.findSome?_append]

theorem judged_snoc (blameless : exchanges.findSome? Exchange.fault? = none)
    (harmless : last.fault? = none) (going : later.phase.outcome? = none) :
    Judged (exchanges ++ [last]) later := by
  simp only [Judged, going, fault?_snoc, blameless, harmless, Option.or_none]

theorem judged_of_fault {error : RunError}
    (blameless : exchanges.findSome? Exchange.fault? = none)
    (fault : last.fault? = some error) (failed : later.phase.outcome? = some (.error error)) :
    Judged (exchanges ++ [last]) later := by
  simp only [Judged, failed, fault?_snoc, blameless, fault, Option.none_or]

@[simp]
theorem outcome?_begin (consumption : Consumption) :
    consumption.begin.phase.outcome? = none := by
  unfold begin
  split <;> rfl

theorem judged_reply {request : ProgramRequest} {resume : ProgramReply request → Consumption}
    (judged : Judged exchanges consumption) (asks : consumption.turn = .ask request resume)
    (reply : ProgramReply request) : Judged (exchanges ++ [⟨request, reply⟩]) (resume reply) := by
  unfold turn at asks
  unfold Judged at judged
  split at asks <;> rename_i isPhase <;> rw [isPhase] at judged <;> cases asks
  · cases reply
    · exact judged_of_fault judged rfl rfl
    · exact judged_snoc judged rfl rfl
  · cases reply
    · exact judged_of_fault judged rfl rfl
    · exact judged_snoc judged rfl rfl
  · exact judged_snoc judged rfl (outcome?_begin _)
  · rcases reply with error | _ | _ | pending
    · exact judged_of_fault judged rfl rfl
    · exact judged_snoc judged rfl rfl
    · exact judged_snoc judged rfl rfl
    · exact judged_snoc judged rfl rfl
  · simp only [referencesCounted]
    split <;> exact judged_snoc judged rfl rfl
  · exact judged_snoc judged rfl rfl
  · rename_i length
    rcases reply with error | ⟨_ | ⟨byte, data⟩, short⟩
    · rcases consumption.received_error_cases length error with
        ⟨again, same | same⟩ | ⟨final, same⟩ <;> rw [same]
      · exact judged_snoc judged (if_pos again) (outcome?_begin _)
      · exact judged_snoc judged (if_pos again) rfl
      · exact judged_of_fault judged (if_neg (ne_true_of_eq_false final)) rfl
    · exact judged_snoc judged rfl rfl
    · exact judged_snoc judged rfl rfl
  · exact judged_snoc judged rfl (outcome?_begin _)
  · cases reply
    · exact judged_of_fault judged rfl rfl
    · exact judged_snoc judged rfl (outcome?_begin _)
  · cases reply with
    | error error => exact judged_of_fault judged rfl rfl
    | ok _ => exact ⟨by rw [fault?_snoc, show exchanges.findSome? _ = none from judged]; rfl, rfl⟩
  · rename_i result
    cases result with
    | ok report =>
        obtain ⟨blameless, isReport⟩ := judged
        exact ⟨by rw [fault?_snoc, blameless]; rfl, isReport⟩
    | error error =>
        have blamed : exchanges.findSome? Exchange.fault? = some error := judged
        show List.findSome? Exchange.fault? _ = some error
        rw [fault?_snoc, blamed]
        rfl

end Judged

theorem judged_dialogue (positive : 1 ≤ chunk)
    (dialogue : Turn.Dialogue turn (start config output limit chunk) exchanges consumption) :
    Judged exchanges consumption := by
  induction dialogue with
  | nil =>
      simp only [start, if_neg (Nat.ne_of_gt positive)]
      rfl
  | snoc before asks reply judged => exact judged_reply judged asks reply

theorem outcome?_of_result? {result : Except RunError Report}
    (finished : consumption.turn.result? = some result) :
    consumption.phase.outcome? = some result := by
  unfold turn at finished
  split at finished <;> rename_i isPhase <;> cases finished
  rw [isPhase]
  rfl

/-! ## Limits -/

/-- What holds of a consumer with the limit and the chunk that went through the exchanges. -/
structure Obeys (limit : Option Nat) (chunk : Nat) (exchanges : List Exchange)
    (consumption : Consumption) : Prop where
  /-- It asks for at least one byte, for its chunk at most, and for no more than is missing to
  the limit. -/
  bounds : ∀ before length reply after, exchanges = before ++ ⟨.receive length, reply⟩ :: after →
    1 ≤ length ∧ length ≤ chunk ∧
      ∀ greatest, limit = some greatest → (gained before).length + length ≤ greatest
  /-- At the limit it asks its endpoint for nothing. -/
  silent : ∀ before exchange after, exchanges = before ++ exchange :: after →
    exchange.request.isInquiry = true →
      ∀ greatest, limit = some greatest → (gained before).length < greatest
  kept : ∀ greatest, limit = some greatest → (gained exchanges).length ≤ greatest
  /-- It writes what it just received, before it does anything else. -/
  writes : ∀ before data reply after,
    exchanges = before ++ ⟨.writeOutput data, reply⟩ :: after →
      gained before = stored before ++ data
  stored_eq : (∀ data, consumption.turn.request? ≠ some (.writeOutput data)) →
    stored exchanges = gained exchanges
  /-- The rounds go on until the limit, the end of the stream or a fatal error. -/
  loops : consumption.phase.isLooping = true ↔ Ongoing limit exchanges
  /-- It succeeds with a report of the length and of the check value of its output. -/
  reports : ∀ report, consumption.turn.result? = some (.ok report) →
    exchanges.findSome? Exchange.fault? = none ∧
      report.summary.bytes = (stored exchanges).length ∧
      report.summary.checksum = Crc32.ofBits ((stored exchanges).flatMap Crc32.octetBits)
  /-- The report warns of an early end just below the limit. -/
  warns : ∀ report, consumption.turn.result? = some (.ok report) →
    ∀ greatest, limit = some greatest → (stored exchanges).length < greatest →
      report.lines = [Report.warning greatest (stored exchanges).length, report.line]
  quiet : ∀ report, consumption.turn.result? = some (.ok report) →
    (∀ greatest, limit = some greatest → greatest ≤ (stored exchanges).length) →
      report.lines = [report.line]
  /-- It fails with the first error that it could not go on with. -/
  fails : ∀ error, consumption.turn.result? = some (.error error) →
    exchanges.findSome? Exchange.fault? = some error

theorem obeys_of_dialogue (positive : 1 ≤ chunk)
    (dialogue : Turn.Dialogue turn (start config output limit chunk) exchanges consumption)
    (dry : exchanges.any Exchange.isSpill = false) :
    Obeys limit chunk exchanges consumption := by
  have accounts := accounts_dialogue positive dialogue dry
  have judged := judged_dialogue positive dialogue
  have earlier : ∀ before exchange after, exchanges = before ++ exchange :: after →
      ∃ middle resume, Accounts limit chunk before middle ∧
        middle.turn = .ask exchange.request resume := by
    intro before exchange after split
    obtain ⟨middle, first, resume, asks⟩ := dialogue.asks_of_split split
    rw [split, List.any_append, Bool.or_eq_false_iff] at dry
    exact ⟨middle, resume, accounts_dialogue positive first dry.1, asks⟩
  have report_eq : ∀ report, consumption.turn.result? = some (.ok report) →
      exchanges.findSome? Exchange.fault? = none ∧ report = consumption.report := by
    intro report finished
    simpa only [Judged, outcome?_of_result? finished] using judged
  refine ⟨?_, ?_, accounts.kept, ?_, ?_, (course_dialogue positive dialogue dry).isLooping_iff,
    ?_, ?_, ?_, ?_⟩
  · intro before length reply after split
    obtain ⟨middle, resume, accounts, asks⟩ := earlier before _ after split
    refine accounts.bounds ?_
    unfold turn at asks
    split at asks <;> rename_i isPhase <;> cases asks
    exact isPhase
  · intro before exchange after split inquires
    obtain ⟨middle, resume, accounts, asks⟩ := earlier before exchange after split
    exact accounts.below asks inquires
  · intro before data reply after split
    obtain ⟨middle, resume, accounts, asks⟩ := earlier before _ after split
    have gained_eq := accounts.gained_eq
    unfold turn at asks
    split at asks <;> rename_i isPhase <;> cases asks
    rw [gained_eq, isPhase]
    rfl
  · intro elsewhere
    rw [accounts.gained_eq]
    unfold turn at elsewhere
    split at elsewhere <;> rename_i isPhase <;> rw [isPhase] <;> first
      | exact (List.append_nil _).symm
      | exact absurd rfl (elsewhere _)
  · intro report finished
    obtain ⟨blameless, rfl⟩ := report_eq report finished
    refine ⟨blameless, accounts.bytes_eq, ?_⟩
    show consumption.summary.checksum = _
    rw [accounts.summed, ← Crc32.checksum_eq_ofBits]
    rfl
  · intro report finished greatest isLimit short
    obtain ⟨-, rfl⟩ := report_eq report finished
    rw [accounts.lines_report, isLimit, Option.filter_some, if_pos (by simpa using short)]
    rfl
  · intro report finished reached
    obtain ⟨-, rfl⟩ := report_eq report finished
    have nothing : limit.filter (fun greatest => decide ((stored exchanges).length < greatest)) =
        none := by
      cases limit with
      | none => rfl
      | some greatest => simpa using reached greatest rfl
    rw [accounts.lines_report, nothing]
    rfl
  · intro error finished
    simpa only [Judged, outcome?_of_result? finished] using judged

/-- The answers of a ring that holds two bytes and of which the other side then leaves. -/
def twoBytes (count : Nat) : (request : ProgramRequest) → ProgramReply request
  | .openInput _ => .ok ()
  | .readInput length => .ok (Chunk.ofList length [])
  | .connect _ _ => .ok (some 4)
  | .allocate _ => ()
  | .send data => .ok (Fin.last data.length)
  | .receive length => .ok (Chunk.ofList length [7, 8])
  | .countPending => .ok (some (if count = 3 then 2 else 0))
  | .countReferences => some 1
  | .createOutput _ => .ok ()
  | .writeOutput _ => .ok ()
  | .flushOutput => .ok ()
  | .pause => ()
  | .disconnect => ()

/-- A consumer that was to stop after three bytes gets two of them. -/
theorem obeys_of_dialogue_of_two_bytes :
    let last := Turn.converse turn twoBytes (start default none (some 3) 2) 10
    1 ≤ 2 ∧ Turn.Dialogue turn (start default none (some 3) 2) last.1 last.2 ∧
      last.1.any Exchange.isSpill = false ∧ stored last.1 = [7, 8] ∧
      Obeys (some 3) 2 last.1 last.2 := by
  have positive : 1 ≤ 2 := by decide
  have dialogue : Turn.Dialogue turn (start default none (some 3) 2) _ _ :=
    Turn.dialogue_converse twoBytes (start default none (some 3) 2) 10
  have dry : (Turn.converse turn twoBytes (start default none (some 3) 2) 10).1.any
      Exchange.isSpill = false := by rfl
  exact ⟨positive, dialogue, dry, by rfl, obeys_of_dialogue positive dialogue dry⟩

end Consumption

end BoundedStream
