import BoundedStream.Proofs.Stream.Carrier
import BoundedStream.Workload.Pair

/-!
# Rounds of a workload

In a round one side sends copies of a payload through a ring and the other side receives as
many bytes as they have.  The two sides take steps in any order, and one that sleeps may wake
up although nobody woke it.  Over a ring, each of them makes one call for each copy.
-/

namespace BoundedStream

namespace Workload

/-! ## Runs -/

/-- A moment of a round: the host with both sides. -/
structure Round where
  host : Host
  parties : Role → Party

/-- The beginning of a round over a pair of endpoints. -/
def Pair.round (pair : Pair) (payload : List UInt8) (copies : Nat) : Round where
  host := pair.host
  parties
    | .producer => .start (.send (.start payload copies)) (some pair.producer) []
    | .consumer =>
      .start (.collect (.start payload.length (payload.length * copies))) (some pair.consumer) []

namespace Round

/-- One of the sides takes a step. -/
inductive Step (round : Round) (role : Role) : Round → Prop
  | advance (host : Host) (party : Party)
      (stepped : (round.parties role).step round.host = some (host, party)) :
      Step round role ⟨host, Function.update round.parties role party⟩

/-- One of the sides wakes up, whether or not somebody woke it. -/
inductive Rouse (round : Round) (role : Role) : Round → Prop
  | wake (location : Location) (request : RingRequest) (signals : Nat)
      (sleeps : (round.parties role).call = some (.ring location ⟨request, .asleep signals⟩)) :
      Rouse round role ⟨round.host, Function.update round.parties role
        { round.parties role with call := some (.ring location ⟨request, .relocking⟩) }⟩

/-- A run of a round with so many steps and so many wakings out of turn. -/
inductive Runs (first : Round) : Nat → Nat → Round → Prop
  | start : Runs first 0 0 first
  | step {steps wakings : Nat} {round later : Round} {role : Role}
      (runs : Runs first steps wakings round) (step : round.Step role later) :
      Runs first (steps + 1) wakings later
  | rouse {steps wakings : Nat} {round later : Round} {role : Role}
      (runs : Runs first steps wakings round) (rouse : round.Rouse role later) :
      Runs first steps (wakings + 1) later

/-- Both sides have ended. -/
def IsOver (round : Round) : Prop := ∀ role, (round.parties role).hasEnded = true

/-- A side sleeps and was not woken since. -/
def Asleep (round : Round) (role : Role) : Prop :=
  ∃ location request signals guarded,
    (round.parties role).call = some (.ring location ⟨request, .asleep signals⟩) ∧
      round.host.guarded? location = some guarded ∧
      guarded.monitor.signals request.condition = signals

end Round

/-! ## Sides -/

variable {payload : List UInt8} {answered left : Nat} {role : Role} {party : Party}

/-- What a side asks of the ring for each copy. -/
def request (payload : List UInt8) : Role → RingRequest
  | .producer => .produce payload true
  | .consumer => .consume payload.length true

/-- What the ring answers. -/
def reply (payload : List UInt8) : Role → RingOutcome
  | .producer => .produced payload.length
  | .consumer => .consumed payload

/-- The program of a side after the answers to some calls, with some more copies to go. -/
def programOf (payload : List UInt8) (answered left : Nat) : Role → Program
  | .producer => .send (.start payload left)
  | .consumer =>
    .collect (.resume payload.length (payload.length * left) (List.replicate answered payload))

@[simp]
theorem result?_programOf_zero (payload : List UInt8) (answered : Nat) (role : Role) :
    (programOf payload answered 0 role).result? = some (.streamed (.ok ())) := by
  cases role <;> rfl

theorem turn_programOf_zero (payload : List UInt8) (answered : Nat) (role : Role) :
    (programOf payload answered 0 role).turn = .finished (.streamed (.ok ())) := by
  cases role <;> rfl

theorem Reader.turn_resume {chunk missing length : Nat} (pieces : List (List UInt8))
    (positive : missing ≠ 0) (isLength : min missing chunk = length) :
    (resume chunk missing pieces).turn =
      .ask (.receive length) (Reader.answered chunk missing pieces) := by
  subst isLength
  simp only [resume, if_neg positive, turn]

/-- A side with copies to go waits for a transfer. -/
theorem transfers_programOf_succ (nonempty : payload ≠ []) (answered left : Nat) (role : Role) :
    (∃ data resume, (programOf payload answered (left + 1) role).turn =
        .ask (.send data) resume) ∨
      ∃ length resume, (programOf payload answered (left + 1) role).turn =
        .ask (.receive length) resume := by
  cases role with
  | producer =>
      left
      simp [programOf, Program.turn, Sender.start, nonempty, Sender.turn, Turn.map]
  | consumer =>
      right
      have positive : payload.length ≠ 0 := mt List.length_eq_zero_iff.mp nonempty
      simp only [programOf, Program.turn, Turn.map,
        Reader.turn_resume _ (Nat.mul_ne_zero positive (Nat.succ_ne_zero left)) rfl]
      exact ⟨_, _, rfl⟩

/-- A side with copies to go pursues a call on the ring, and the answer that it expects takes
it on to the next copy. -/
theorem step_programOf (nonempty : payload ≠ [])
    (isProgram : party.program = programOf payload answered (left + 1) role)
    (sane : party.crash = none) :
    ∃ (Answer : Type) (begin? : Transport → Option Call) (idle : Answer)
      (settle : TransportOutcome → Party.Settled Answer) (resume : Answer → Program)
      (answer : Answer),
      (∀ host, party.step host = party.pursue host begin? idle settle resume) ∧
        (∀ transport number, transport.Holds number → begin? transport =
          some (.ring (.region number) (.start (request payload role)))) ∧
        settle (Outcome.ring (reply payload role)).onTransport = .answer answer ∧
        resume answer = programOf payload (answered + 1) left role := by
  have positive : payload.length ≠ 0 := mt List.length_eq_zero_iff.mp nonempty
  cases role with
  | producer =>
      have turn : (Sender.start payload (left + 1)).turn =
          .ask (.send payload) (Sender.answered payload left payload) := by
        simp [Sender.start, nonempty, Sender.turn]
      refine ⟨_, fun transport => transport.produceCall? payload, .ok 0,
        Party.settleSend payload, fun answer => .send (Sender.answered payload left payload answer),
        .ok (Fin.ofNat (payload.length + 1) payload.length), fun host => ?_, ?_, rfl, ?_⟩
      · simp only [Party.step, sane, isProgram, programOf, Program.turn, turn, Turn.map,
          Party.serve]
      · exact fun transport number holds => holds.produceCall?_eq nonempty
      · simp [Sender.answered, programOf]
  | consumer =>
      have whole : min (payload.length * (left + 1)) payload.length = payload.length :=
        Nat.min_eq_right (Nat.le_mul_of_pos_right _ (Nat.succ_pos left))
      let pieces := List.replicate answered payload
      have turn : (Reader.resume payload.length (payload.length * (left + 1)) pieces).turn =
          .ask (.receive payload.length)
            (Reader.answered payload.length (payload.length * (left + 1)) pieces) :=
        Reader.turn_resume pieces (Nat.mul_ne_zero positive (Nat.succ_ne_zero left)) whole
      refine ⟨_, fun transport => transport.consumeCall? payload.length, .ok (.ofList _ []),
        Party.settleReceive payload.length,
        fun answer => .collect (Reader.answered payload.length (payload.length * (left + 1))
          pieces answer),
        .ok (.ofList payload.length payload), fun host => ?_, ?_, rfl, ?_⟩
      · simp only [Party.step, sane, isProgram, programOf, Program.turn, turn, Turn.map,
          Party.serve, pieces]
      · exact fun transport number holds => holds.consumeCall?_eq positive
      · have shorter : payload.length * (left + 1) - payload.length = payload.length * left := by
          rw [Nat.mul_succ, Nat.add_sub_cancel]
        simp only [Reader.answered, Chunk.ofList, List.take_length, shorter, programOf, pieces,
          List.replicate_succ]

/-- How far a side has come after the answers to some calls, with some more copies to go, and
after some calls took effect. -/
inductive Standing (payload : List UInt8) (number : Nat) (role : Role) (answered : Nat) :
    (left : Nat) → Option Call → (effected : Nat) → Prop
  | done : Standing payload number role answered 0 none answered
  | pending (left : Nat) (call : Option Call)
      (undecided : Call.Undecided number (request payload role) call) :
      Standing payload number role answered (left + 1) call answered
  | effected (left : Nat) (phase : RingPhase)
      (decided : phase.decided? = some (reply payload role)) :
      Standing payload number role answered (left + 1)
        (some (.ring (.region number) ⟨request payload role, phase⟩)) (answered + 1)

/-- A side of a round over the ring of a region. -/
structure Side (party : Party) (payload : List UInt8) (number : Nat) (role : Role)
    (answered left effected : Nat) : Prop where
  sane : party.crash = none
  opened : ∃ transport, party.transport = some transport ∧ transport.Holds number
  isProgram : party.program = programOf payload answered left role
  standing : Standing payload number role answered left party.call effected

/-- What a side with one more copy to go than those left can do. -/
inductive Side.Move (host : Host) (party : Party) (payload : List UInt8) (number : Nat)
    (role : Role) (answered left effected : Nat) : Host → Party → Prop
  | begin (idle : party.call = none) (fresh : effected = answered) :
      Move host party payload number role answered left effected host
        { party with call := some (.ring (.region number) (.start (request payload role))) }
  | advance (phase : RingPhase) (call : RingCall) (guarded guarded' : GuardedRing)
      (running : party.call = some (.ring (.region number) ⟨request payload role, phase⟩))
      (present : host.guarded? (.region number) = some guarded)
      (stepped : RingCall.step guarded ⟨request payload role, phase⟩ = some (guarded', call)) :
      Move host party payload number role answered left effected
        (host.setGuarded (.region number) guarded')
        { party with call := some (.ring (.region number) call) }
  | answer (running : party.call =
        some (.ring (.region number) ⟨request payload role, .finished (reply payload role)⟩))
      (counted : effected = answered + 1) :
      Move host party payload number role answered left effected host
        (party.goOn (programOf payload (answered + 1) left role))

namespace Side

variable {later : Host} {party' : Party} {number effected : Nat}

theorem onRing (side : Side party payload number role answered left effected) (call : Call)
    (running : party.call = some call) :
    ∃ phase, call = .ring (.region number) ⟨request payload role, phase⟩ := by
  obtain ⟨-, -, -, standing⟩ := side
  rw [running] at standing
  cases standing with
  | pending _ _ undecided =>
      obtain ⟨phase, isCall, -⟩ := undecided call rfl
      exact ⟨phase, isCall⟩
  | effected _ phase decided => exact ⟨phase, rfl⟩

/-- The list of what a side can do is complete. -/
theorem move_of_step {host : Host}
    (side : Side party payload number role answered left effected)
    (nonempty : left ≠ 0 → payload ≠ []) (stepped : party.step host = some (later, party')) :
    ∃ left', left = left' + 1 ∧
      Move host party payload number role answered left' effected later party' := by
  obtain ⟨sane, ⟨transport, opened, holds⟩, isProgram, standing⟩ := id side
  cases left with
  | zero => simp [Party.step, sane, isProgram, turn_programOf_zero] at stepped
  | succ left =>
      refine ⟨left, rfl, ?_⟩
      obtain ⟨Answer, begin?, idle, settle, resume, answer, pursues, begins, settled, resumes⟩ :=
        step_programOf (nonempty (Nat.succ_ne_zero left)) isProgram sane
      rw [pursues] at stepped
      have onRing : ∀ call, party.call = some call →
          ∃ ringCall, call = .ring (.region number) ringCall := fun call running => by
        obtain ⟨phase, isCall⟩ := side.onRing call running
        exact ⟨_, isCall⟩
      cases Party.pursuit_of_pursue opened (begins transport number holds) onRing stepped with
      | begin isIdle =>
          refine .begin isIdle ?_
          rw [isIdle] at standing
          cases standing
          rfl
      | advance call call' guarded guarded' running present ringStep =>
          obtain ⟨phase, isCall⟩ := side.onRing _ running
          cases isCall
          exact .advance phase call' guarded guarded' running present ringStep
      | answer request' outcome answer' running settled' =>
          rw [running] at standing
          cases standing with
          | pending _ _ undecided => exact (undecided.not_finished rfl).elim
          | effected _ phase decided =>
              cases decided
              rw [settled] at settled'
              cases settled'
              rw [resumes]
              exact .answer running rfl
      | crash request' outcome text running settled' =>
          rw [running] at standing
          cases standing with
          | pending _ _ undecided => exact (undecided.not_finished rfl).elim
          | effected _ phase decided =>
              cases decided
              rw [settled] at settled'
              cases settled'

/-- A side that has not ended can go on if its call, if it has one, can. -/
theorem exists_step (side : Side party payload number role answered (left + 1) effected)
    (host : Host) (nonempty : payload ≠ [])
    (moves : ∀ phase, party.call =
        some (.ring (.region number) ⟨request payload role, phase⟩) →
      (∀ outcome, phase ≠ .finished outcome) → ∃ guarded result,
        host.guarded? (.region number) = some guarded ∧
          RingCall.step guarded ⟨request payload role, phase⟩ = some result) :
    ∃ later party', party.step host = some (later, party') := by
  obtain ⟨sane, ⟨transport, opened, holds⟩, isProgram, standing⟩ := id side
  obtain ⟨Answer, begin?, idle, settle, resume, answer, pursues, -⟩ :=
    step_programOf nonempty isProgram sane
  have goesOn : (party.step host).isSome = true := by
    rw [pursues]
    refine Party.isSome_pursue opened fun call running unfinished => ?_
    obtain ⟨phase, rfl⟩ := side.onRing call running
    have open? : ∀ outcome, phase ≠ .finished outcome := by
      rintro outcome rfl
      cases unfinished
    obtain ⟨guarded, ⟨guarded', call'⟩, present, ringStep⟩ := moves phase running open?
    refine ⟨(host.setGuarded (.region number) guarded', .ring (.region number) call'), ?_⟩
    simp [Call.step, present, ringStep]
  obtain ⟨⟨later, party'⟩, stepped⟩ := Option.isSome_iff_exists.mp goesOn
  exact ⟨later, party', stepped⟩

end Side

end Workload

end BoundedStream
