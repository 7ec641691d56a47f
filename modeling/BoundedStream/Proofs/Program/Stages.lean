import BoundedStream.Program

/-!
# Stages of a command

A command works in three stages.  Ahead of its endpoint it only sees to its input; engaged with
its endpoint it works until it gives it up; and then it has ended.  The errors that belong to
the first stage are not raised in the second one.
-/

namespace BoundedStream

/-- A command raises the error before it asks for an endpoint. -/
def RunError.IsEarly : RunError → Prop
  | .command .invalidChunk => True
  | .command (.system context _) => context = "opening input file"
  | _ => False

def ProgramResult.IsEarly : ProgramResult → Prop
  | .reported (.error error) => error.IsEarly
  | _ => False

/-- A producer has its endpoint and will not end with an error from before. -/
def ProducePhase.Engaged : ProducePhase → Prop
  | .openingInput | .connecting | .finished _ => False
  | .leaving result => ¬ (ProgramResult.reported result).IsEarly
  | _ => True

/-- A consumer has its endpoint and will not end with an error from before. -/
def ConsumePhase.Engaged : ConsumePhase → Prop
  | .connecting | .finished _ => False
  | .leaving result => ¬ (ProgramResult.reported result).IsEarly
  | _ => True

namespace Production

variable {production : Production} {request : ProgramRequest}
  {resume : ProgramReply request → Production}

theorem engaged_fail {error : RunError} (late : ¬ error.IsEarly) :
    (production.fail error).phase.Engaged := late

theorem engaged_deliver {chunk : Nat} {data : List UInt8} {delivery : Delivery}
    (late : ∀ error, delivery = .failed error → ¬ (RunError.command error).IsEarly) :
    (production.deliver chunk data delivery).phase.Engaged := by
  cases delivery with
  | offering rest => trivial
  | resting rest => trivial
  | delivered => trivial
  | failed error => exact engaged_fail (late error rfl)

theorem late_of_answered {rest : List UInt8}
    {reply : Except StreamError (Fin (rest.length + 1))} {error : CommandError}
    (failed : Delivery.answered rest reply = .failed error) :
    ¬ (RunError.command error).IsEarly := by
  unfold Delivery.answered at failed
  split at failed
  · split at failed
    · cases failed
      simp [RunError.IsEarly, Delivery.stalled]
    · unfold Delivery.start at failed
      split at failed <;> cases failed
  · split at failed
    · cases failed
    · split at failed <;> cases failed
      exact id

theorem engaged_reply (engaged : production.phase.Engaged)
    (asks : production.turn = .ask request resume) (stays : request ≠ .disconnect)
    (reply : ProgramReply request) : (resume reply).phase.Engaged := by
  unfold turn at asks
  split at asks <;> rename_i isPhase <;> rw [isPhase] at engaged <;> cases asks
  · exact engaged.elim
  · exact engaged.elim
  · trivial
  · rcases reply with error | ⟨_ | ⟨byte, data⟩, short⟩
    · simp only [inputRead]
      split
      · trivial
      · exact engaged_fail (by simp [RunError.IsEarly])
    · trivial
    · exact engaged_deliver (by simp)
  · exact engaged_deliver fun error failed => late_of_answered failed
  · trivial
  · rcases reply with error | _ | pending
    · exact engaged_fail id
    · exact id
    · trivial
  · simp only [referencesCounted]
    split
    · exact id
    · trivial
  · trivial
  · exact absurd rfl stays

theorem elsewhere_of_engaged (engaged : production.phase.Engaged)
    (asks : production.turn = .ask request resume) (config : Config) (role : Role) :
    request ≠ .connect config role := by
  unfold turn at asks
  split at asks <;> rename_i isPhase <;> rw [isPhase] at engaged <;> cases asks
  · exact engaged.elim
  · exact engaged.elim
  all_goals exact nofun

theorem leaves_of_engaged {resume : ProgramReply .disconnect → Production}
    (engaged : production.phase.Engaged) (asks : production.turn = .ask .disconnect resume) :
    ∃ result, (resume ()).phase = .finished result ∧
      ¬ (ProgramResult.reported result).IsEarly := by
  unfold turn at asks
  split at asks <;> rename_i isPhase <;> rw [isPhase] at engaged <;> cases asks
  exact ⟨_, rfl, engaged⟩

end Production

namespace Consumption

variable {consumption : Consumption} {request : ProgramRequest}
  {resume : ProgramReply request → Consumption}

theorem engaged_begin (consumption : Consumption) : consumption.begin.phase.Engaged := by
  unfold begin
  split <;> trivial

theorem engaged_fail {error : RunError} (late : ¬ error.IsEarly) :
    (consumption.fail error).phase.Engaged := late

theorem engaged_reply (engaged : consumption.phase.Engaged)
    (asks : consumption.turn = .ask request resume) (stays : request ≠ .disconnect)
    (reply : ProgramReply request) : (resume reply).phase.Engaged := by
  unfold turn at asks
  split at asks <;> rename_i isPhase <;> rw [isPhase] at engaged <;> cases asks
  · exact engaged.elim
  · cases reply
    · exact engaged_fail (by simp [RunError.IsEarly])
    · trivial
  · exact engaged_begin _
  · rcases reply with error | _ | _ | pending
    · exact engaged_fail id
    · trivial
    · trivial
    · trivial
  · simp only [referencesCounted]
    split <;> trivial
  · trivial
  · rcases reply with error | ⟨_ | ⟨byte, data⟩, short⟩
    · simp only [received]
      split
      · exact engaged_begin _
      · split
        · trivial
        · exact engaged_fail id
    · trivial
    · trivial
  · exact engaged_begin _
  · cases reply
    · exact engaged_fail (by simp [RunError.IsEarly])
    · exact engaged_begin _
  · cases reply
    · exact engaged_fail (by simp [RunError.IsEarly])
    · exact id
  · exact absurd rfl stays

theorem elsewhere_of_engaged (engaged : consumption.phase.Engaged)
    (asks : consumption.turn = .ask request resume) (config : Config) (role : Role) :
    request ≠ .connect config role := by
  unfold turn at asks
  split at asks <;> rename_i isPhase <;> rw [isPhase] at engaged <;> cases asks
  · exact engaged.elim
  all_goals exact nofun

theorem leaves_of_engaged {resume : ProgramReply .disconnect → Consumption}
    (engaged : consumption.phase.Engaged) (asks : consumption.turn = .ask .disconnect resume) :
    ∃ result, (resume ()).phase = .finished result ∧
      ¬ (ProgramResult.reported result).IsEarly := by
  unfold turn at asks
  split at asks <;> rename_i isPhase <;> rw [isPhase] at engaged <;> cases asks
  exact ⟨_, rfl, engaged⟩

end Consumption

namespace Program

/-- The program of a command that has not asked for its endpoint yet, or just does. -/
def Ahead : Program → Prop
  | produce production => production.phase = .openingInput ∨ production.phase = .connecting
  | consume consumption => consumption.phase = .connecting
  | send _ | collect _ => False

/-- The program of a command that has its endpoint. -/
def Engaged : Program → Prop
  | produce production => production.phase.Engaged
  | consume consumption => consumption.phase.Engaged
  | send _ | collect _ => False

variable {program : Program} {request : ProgramRequest}
  {resume : ProgramReply request → Program}

theorem not_engaged_of_ahead (ahead : program.Ahead) : ¬ program.Engaged := by
  cases program with
  | produce production =>
      rcases ahead with opening | connecting
      · simp [Engaged, opening, ProducePhase.Engaged]
      · simp [Engaged, connecting, ProducePhase.Engaged]
  | consume consumption =>
      have connecting : consumption.phase = .connecting := ahead
      simp [Engaged, connecting, ConsumePhase.Engaged]
  | send sender => exact id
  | collect reader => exact id

theorem result?_of_engaged (engaged : program.Engaged) : program.result? = none := by
  cases program with
  | produce production =>
      have busy : production.phase.Engaged := engaged
      cases isPhase : production.phase with
      | finished result =>
          rw [isPhase] at busy
          exact busy.elim
      | _ => simp [result?, turn, Production.turn, isPhase, Turn.map, Turn.result?]
  | consume consumption =>
      have busy : consumption.phase.Engaged := engaged
      cases isPhase : consumption.phase with
      | finished result =>
          rw [isPhase] at busy
          exact busy.elim
      | _ => simp [result?, turn, Consumption.turn, isPhase, Turn.map, Turn.result?]
  | send sender => exact engaged.elim
  | collect reader => exact engaged.elim

/-- What the program of a command asks next, and where the answer leads it. -/
inductive Asks (program : Program) :
    (request : ProgramRequest) → (ProgramReply request → Program) → Prop
  | input (path : Option String) (resume : ProgramReply (.openInput path) → Program)
      (ahead : program.Ahead)
      (leads : ∀ reply, (resume reply).Ahead ∨ (resume reply).result?.isSome = true) :
      Asks program (.openInput path) resume
  | endpoint (config : Config) (role : Role)
      (resume : ProgramReply (.connect config role) → Program) (ahead : program.Ahead)
      (accepted : ∀ capacity, (resume (.ok capacity)).Engaged)
      (refused : ∀ error, (resume (.error error)).result?.isSome = true) :
      Asks program (.connect config role) resume
  | work (request : ProgramRequest) (resume : ProgramReply request → Program)
      (engaged : program.Engaged) (elsewhere : ∀ config role, request ≠ .connect config role)
      (stays : request ≠ .disconnect) (leads : ∀ reply, (resume reply).Engaged) :
      Asks program request resume
  | leave (resume : ProgramReply .disconnect → Program) (engaged : program.Engaged)
      (result : ProgramResult) (ends : (resume ()).result? = some result)
      (late : ¬ result.IsEarly) : Asks program .disconnect resume

theorem result?_produce {production : Production} {result : Except RunError Report}
    (isPhase : production.phase = .finished result) :
    (produce production).result? = some (.reported result) := by
  simp only [result?, turn, Production.turn, isPhase]
  rfl

theorem result?_consume {consumption : Consumption} {result : Except RunError Report}
    (isPhase : consumption.phase = .finished result) :
    (consume consumption).result? = some (.reported result) := by
  simp only [result?, turn, Consumption.turn, isPhase]
  rfl

private theorem asks_produce {production : Production}
    {resume : ProgramReply request → Production}
    (stage : (produce production).Ahead ∨ (produce production).Engaged)
    (turn : production.turn = .ask request resume) :
    (produce production).Asks request fun reply => produce (resume reply) := by
  rcases stage with (opening | connecting) | engaged
  · simp only [Production.turn, opening] at turn
    cases turn
    refine .input production.input _ (.inl opening) fun reply => ?_
    cases reply with
    | ok _ => exact .inl (.inr rfl)
    | error error => exact .inr rfl
  · simp only [Production.turn, connecting] at turn
    cases turn
    exact .endpoint production.config .producer _ (.inr connecting) (fun _ => trivial)
      fun _ => rfl
  · by_cases leaves : request = .disconnect
    · subst leaves
      obtain ⟨result, isPhase, late⟩ := Production.leaves_of_engaged engaged turn
      exact .leave _ engaged _ (result?_produce isPhase) late
    · exact .work request _ engaged (Production.elsewhere_of_engaged engaged turn) leaves
        (Production.engaged_reply engaged turn leaves)

private theorem asks_consume {consumption : Consumption}
    {resume : ProgramReply request → Consumption}
    (stage : (consume consumption).Ahead ∨ (consume consumption).Engaged)
    (turn : consumption.turn = .ask request resume) :
    (consume consumption).Asks request fun reply => consume (resume reply) := by
  rcases stage with ahead | engaged
  · have connecting : consumption.phase = .connecting := ahead
    simp only [Consumption.turn, connecting] at turn
    cases turn
    exact .endpoint consumption.config .consumer _ connecting (fun _ => trivial) fun _ => rfl
  · by_cases leaves : request = .disconnect
    · subst leaves
      obtain ⟨result, isPhase, late⟩ := Consumption.leaves_of_engaged engaged turn
      exact .leave _ engaged _ (result?_consume isPhase) late
    · exact .work request _ engaged (Consumption.elsewhere_of_engaged engaged turn) leaves
        (Consumption.engaged_reply engaged turn leaves)

/-- The program of a command in its first or its second stage asks for one of four things. -/
theorem asks_of_turn (stage : program.Ahead ∨ program.Engaged)
    (turn : program.turn = .ask request resume) : program.Asks request resume := by
  cases program with
  | produce production =>
      simp only [Program.turn] at turn
      cases own : production.turn with
      | finished result =>
          rw [own] at turn
          cases turn
      | ask request' resume' =>
          rw [own] at turn
          cases turn
          exact asks_produce stage own
  | consume consumption =>
      simp only [Program.turn] at turn
      cases own : consumption.turn with
      | finished result =>
          rw [own] at turn
          cases turn
      | ask request' resume' =>
          rw [own] at turn
          cases turn
          exact asks_consume stage own
  | send sender => exact stage.elim id id |>.elim
  | collect reader => exact stage.elim id id |>.elim

end Program

end BoundedStream
