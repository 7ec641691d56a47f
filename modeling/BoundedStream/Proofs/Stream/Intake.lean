import BoundedStream.Proofs.Host.Holding
import BoundedStream.Proofs.Party.Replies
import BoundedStream.Proofs.Program.Chunks
import BoundedStream.Proofs.Ring.Progress

/-!
# The intake of a stream

A consumer asks a ring for bytes that it has counted before.  It is the only one that takes
bytes out, so the bytes that it counted are still there when its request gets the mutex,
whatever any number of producers have done since: it never asks for what the ring could not
serve, and never sleeps.  While a producer sleeps for space there is something to count, so
the next count of the consumer ends with a request that makes space.
-/

namespace BoundedStream

/-- A consumer of a ring, and calls of others on the same ring. -/
structure Intake (Sender : Type) where
  host : Host
  consumer : Party
  calls : Sender → Option RingCall

namespace Intake

variable {Sender : Type}

def callers (intake : Intake Sender) : Option Sender → Option RingCall
  | none => Call.onRing? intake.consumer.call
  | some sender => intake.calls sender

/-- Everything that may happen around the ring of a region, from which nobody but the consumer
takes bytes. -/
inductive Step [DecidableEq Sender] (number : Nat) : Intake Sender → Intake Sender → Prop
  /-- The consumer takes a step; the endpoint that it opens is one of the ring. -/
  | consume {intake : Intake Sender} (host : Host) (consumer : Party)
      (stepped : intake.consumer.step intake.host = some (host, consumer))
      (joins : ∀ transport, consumer.transport = some transport → transport.Holds number) :
      Step number intake { intake with host, consumer }
  | begin {intake : Intake Sender} (sender : Sender) (request : RingRequest)
      (idle : ∀ call, intake.calls sender = some call →
        ∃ outcome, call.phase = .finished outcome)
      (sends : ∀ length wait, request ≠ .consume length wait) :
      Step number intake
        { intake with calls := Function.update intake.calls sender (some (.start request)) }
  | advance {intake : Intake Sender} (sender : Sender) (call call' : RingCall)
      (guarded guarded' : GuardedRing) (running : intake.calls sender = some call)
      (present : intake.host.guarded? (.region number) = some guarded)
      (stepped : call.step guarded = some (guarded', call')) :
      Step number intake
        { intake with
          host := intake.host.setGuarded (.region number) guarded'
          calls := Function.update intake.calls sender (some call') }
  /-- A sleeper wakes up although nobody woke him. -/
  | rouse {intake : Intake Sender} (sender : Sender) (request : RingRequest) (signals : Nat)
      (sleeps : intake.calls sender = some ⟨request, .asleep signals⟩) :
      Step number intake
        { intake with
          calls := Function.update intake.calls sender (some ⟨request, .relocking⟩) }
  /-- Handles are opened and given up, files change, and other rings are worked on. -/
  | change {intake : Intake Sender} (host : Host)
      (same : host.guarded? (.region number) = intake.host.guarded? (.region number)) :
      Step number intake { intake with host }

def Polls (intake : Intake Sender) : Prop :=
  ∃ want, intake.consumer.consumePhase? = some (.counting want)

def Receives (intake : Intake Sender) (length : Nat) : Prop :=
  intake.consumer.consumePhase? = some (.receiving length)

/-- How many steps at most the consumer is from the answer to its call. -/
def remaining (intake : Intake Sender) : Nat :=
  match intake.callers none with
  | none => 9
  | some call => call.phase.distance + 1

end Intake

namespace ConsumePhase

/-- What a consumer relies on about the bytes in its ring: what it has counted, and asks for,
is there.  It counts at least `floor` bytes. -/
inductive Draws (number capacity floor : Nat) (queue : List UInt8) :
    ConsumePhase → Option Call → Prop
  | away (phase : ConsumePhase) (counts : ∀ want, phase ≠ .counting want)
      (receives : ∀ length, phase ≠ .receiving length) :
      Draws number capacity floor queue phase none
  | counting (want : Nat) (call : Option Call) (enough : floor ≤ queue.length)
      (undecided : Call.Undecided number .measure call) :
      Draws number capacity floor queue (.counting want) call
  | counted (want pending : Nat) (phase : RingPhase) (enough : floor ≤ pending)
      (held : pending ≤ queue.length) (decided : phase.decided? = some (.measured pending)) :
      Draws number capacity floor queue (.counting want)
        (some (.ring (.region number) ⟨.measure, phase⟩))
  | receiving (length : Nat) (call : Option Call) (held : length ≤ queue.length)
      (fits : length ≤ capacity) (undecided : Call.Undecided number (.consume length true) call) :
      Draws number capacity floor queue (.receiving length) call
  | received (length : Nat) (bytes : List UInt8) (phase : RingPhase) (fits : length ≤ capacity)
      (decided : phase.decided? = some (.consumed bytes)) :
      Draws number capacity floor queue (.receiving length)
        (some (.ring (.region number) ⟨.consume length true, phase⟩))

variable {number capacity floor : Nat} {queue queue' : List UInt8} {phase : ConsumePhase}
  {call : Option Call}

theorem Draws.mono (draws : phase.Draws number capacity floor queue call)
    (grows : queue.length ≤ queue'.length) :
    phase.Draws number capacity floor queue' call := by
  cases draws with
  | away phase counts receives => exact .away phase counts receives
  | counting want call enough undecided =>
      exact .counting want call (Nat.le_trans enough grows) undecided
  | counted want pending phase enough held decided =>
      exact .counted want pending phase enough (Nat.le_trans held grows) decided
  | receiving length call held fits undecided =>
      exact .receiving length call (Nat.le_trans held grows) fits undecided
  | received length bytes phase fits decided =>
      exact .received length bytes phase fits decided

theorem Draws.idle (draws : phase.Draws number capacity floor queue call)
    (counts : ∀ want, phase ≠ .counting want) (receives : ∀ length, phase ≠ .receiving length) :
    call = none := by
  cases draws with
  | away phase counts receives => rfl
  | counting want call enough undecided => exact absurd rfl (counts want)
  | counted want pending phase enough held decided => exact absurd rfl (counts want)
  | receiving length call held fits undecided => exact absurd rfl (receives length)
  | received length bytes phase fits decided => exact absurd rfl (receives length)

theorem Draws.request {running : Call}
    (draws : phase.Draws number capacity floor queue (some running)) :
    ∃ request step, running = .ring (.region number) ⟨request, step⟩ ∧
      (request = .measure ∧ (∃ want, phase = .counting want) ∨
        ∃ length, request = .consume length true ∧ phase = .receiving length) := by
  cases draws with
  | counting want _ enough undecided =>
      obtain ⟨step, isCall, -⟩ := undecided running rfl
      exact ⟨_, step, isCall, .inl ⟨rfl, want, rfl⟩⟩
  | counted want pending step enough held decided => exact ⟨_, step, rfl, .inl ⟨rfl, want, rfl⟩⟩
  | receiving length _ held fits undecided =>
      obtain ⟨step, isCall, -⟩ := undecided running rfl
      exact ⟨_, step, isCall, .inr ⟨length, rfl, rfl⟩⟩
  | received length bytes step fits decided =>
      exact ⟨_, step, rfl, .inr ⟨length, rfl, rfl⟩⟩

theorem Draws.isCount {want : Nat}
    (draws : (ConsumePhase.counting want).Draws number capacity floor queue call) :
    Call.Counts number call := by
  rintro other rfl
  cases draws with
  | counting _ _ enough undecided =>
      obtain ⟨step, isCall, undecided⟩ := undecided other rfl
      refine ⟨step, isCall, fun outcome decided => ?_⟩
      rw [undecided] at decided
      cases decided
  | counted _ pending step enough held decided =>
      refine ⟨step, rfl, fun outcome decided' => ?_⟩
      rw [decided] at decided'
      cases decided'
      exact ⟨pending, rfl⟩

/-- A count that takes effect counts all of the queue. -/
theorem Draws.of_count {want : Nat} {before after : RingPhase}
    (draws : (ConsumePhase.counting want).Draws number capacity floor queue
      (some (.ring (.region number) ⟨.measure, before⟩)))
    (effect : after.decided? = before.decided? ∨
      before.decided? = none ∧ after.decided? = some (.measured queue.length)) :
    (ConsumePhase.counting want).Draws number capacity floor queue
      (some (.ring (.region number) ⟨.measure, after⟩)) := by
  cases draws with
  | counting _ _ enough undecided =>
      obtain ⟨step, isCall, open?⟩ := undecided _ rfl
      cases isCall
      rcases effect with same | ⟨-, decided⟩
      · exact .counting want _ enough (Call.undecided_of_same same open?)
      · exact .counted want queue.length after enough (Nat.le_refl _) decided
  | counted _ pending _ enough held decided =>
      rcases effect with same | ⟨undecided, -⟩
      · exact .counted want pending after enough held (same.trans decided)
      · rw [undecided] at decided
        cases decided

/-- The count that a consumer is told of is at least `floor`, and there. -/
theorem Draws.of_counted {want pending : Nat}
    (draws : (ConsumePhase.counting want).Draws number capacity floor queue
      (some (.ring (.region number) ⟨.measure, .finished (.measured pending)⟩))) :
    floor ≤ pending ∧ pending ≤ queue.length := by
  cases draws with
  | counting _ _ enough undecided => exact (undecided.not_finished rfl).elim
  | counted _ _ _ enough held decided =>
      cases decided
      exact ⟨enough, held⟩

theorem Draws.onRing (draws : phase.Draws number capacity floor queue call) (running : Call)
    (isCall : call = some running) :
    ∃ ringCall, running = .ring (.region number) ringCall := by
  subst isCall
  obtain ⟨request, step, isRing, -⟩ := draws.request
  exact ⟨_, isRing⟩

end ConsumePhase

/-- A consumer has an endpoint from the time when it was opened until it ends or crashes. -/
def Party.Opened (party : Party) : Prop :=
  party.crash = none → ∀ consumption, party.program = .consume consumption →
    consumption.phase = .connecting ∨ (∃ result, consumption.phase = .finished result) ∨
      ∃ transport, party.transport = some transport

/-- A quick reply leaves a consumer its endpoint, opens it, or ends the consumer. -/
theorem Party.Opened.of_reply {host host' : Host} {party party' : Party}
    {consumption : Consumption} {request : ProgramRequest}
    {resume : ProgramReply request → Consumption} (opened : party.Opened)
    (alive : party.crash = none) (isProgram : party.program = .consume consumption)
    (asks : consumption.turn = .ask request resume)
    (served : party.serve host request (fun reply => .consume (resume reply)) =
      some (host', party'))
    (replied : Replied host party (fun reply => .consume (resume reply)) host' party') :
    party'.Opened := by
  intro _
  obtain ⟨reply, isNext⟩ := replied.program
  by_cases connects : consumption.phase = .connecting
  · simp only [Consumption.turn, connects] at asks
    cases asks
    obtain ⟨-, ⟨error, rfl⟩ | ⟨transport, rfl⟩ | collapses⟩ := opened_of_connect served
    · rintro next ⟨⟩
      exact .inr (.inl ⟨_, rfl⟩)
    · exact fun _ _ => .inr (.inr ⟨transport, rfl⟩)
    · exact absurd (replied.crash_eq.trans alive) collapses.crash_ne
  by_cases leaves : ∃ result, consumption.phase = .leaving result
  · obtain ⟨result, leaves⟩ := leaves
    simp only [Consumption.turn, leaves] at asks
    cases asks
    intro next isProgram'
    rw [isNext] at isProgram'
    cases isProgram'
    exact .inr (.inl ⟨result, rfl⟩)
  push Not at leaves
  -- Otherwise the endpoint stays, and there was one.
  have stays : party'.transport = party.transport := by
    unfold Consumption.turn at asks
    split at asks <;> rename_i isPhase <;> cases asks <;> first
      | exact absurd isPhase connects
      | exact absurd isPhase (leaves _)
      | exact replied.transport_eq (by simp) (by simp)
  rcases opened alive consumption isProgram with isConnecting | ⟨result, isFinished⟩ | ⟨transport, has⟩
  · exact absurd isConnecting connects
  · simp [Consumption.turn, isFinished] at asks
  · exact fun _ _ => .inr (.inr ⟨transport, stays.trans has⟩)

namespace Intake

variable {Sender : Type}

/-- The ring is attended by all of its callers, of which only the consumer takes bytes. -/
structure Sound (intake : Intake Sender) (number capacity floor : Nat) (queue : List UInt8) :
    Prop where
  ring : ∃ guarded, intake.host.guarded? (.region number) = some guarded ∧
    guarded.ring.capacity = capacity ∧ guarded.Attended intake.callers queue
  senders : ∀ sender call, intake.calls sender = some call →
    ∀ length wait, call.request ≠ .consume length wait
  consumer : ∃ consumption, intake.consumer.program = .consume consumption ∧
    1 ≤ consumption.chunk ∧ consumption.Aims ∧
    consumption.phase.Draws number capacity floor queue intake.consumer.call
  awake : ∀ call, intake.callers none = some call → ∀ signals, call.phase ≠ .asleep signals
  sturdy : intake.consumer.Sturdy
  joined : ∀ transport, intake.consumer.transport = some transport → transport.Holds number
  opened : intake.consumer.Opened

variable {intake later : Intake Sender} {number capacity floor : Nat} {queue : List UInt8}

theorem callers_consume [DecidableEq Sender] (host : Host) (consumer : Party) :
    ({ intake with host, consumer } : Intake Sender).callers =
      Function.update intake.callers none (Call.onRing? consumer.call) := by
  funext caller
  cases caller <;> rfl

theorem callers_send [DecidableEq Sender] (host : Host) (sender : Sender)
    (call : Option RingCall) :
    ({ intake with host, calls := Function.update intake.calls sender call } :
        Intake Sender).callers =
      Function.update intake.callers (some sender) call := by
  funext caller
  cases caller with
  | none => rfl
  | some other =>
      by_cases same : other = sender
      · subst same
        simp [callers]
      · have distinct : some other ≠ some sender := fun isSame => same (Option.some.inj isSame)
        rw [Function.update_of_ne distinct]
        simp only [callers]
        exact Function.update_of_ne same _ _

theorem polls_of_program {consumption : Consumption}
    (isProgram : intake.consumer.program = .consume consumption) {phase : ConsumePhase} :
    intake.consumer.consumePhase? = some phase ↔ consumption.phase = phase := by
  simp [Party.consumePhase?, isProgram]

theorem remaining_lt_of_distance {request : RingRequest} {before after : RingPhase}
    (running : intake.consumer.call = some (.ring (.region number) ⟨request, before⟩))
    (closer : after.distance < before.distance) (host : Host) :
    ({ intake with
        host
        consumer :=
          { intake.consumer with call := some (.ring (.region number) ⟨request, after⟩) } } :
      Intake Sender).remaining < intake.remaining := by
  simpa [remaining, callers, running, Call.onRing?] using closer

/-! ## Steps of others -/

section

variable [DecidableEq Sender]

theorem length_le_of_took {request : RingRequest} {phase phase' : RingPhase}
    {queue' : List UInt8} (sends : ∀ length wait, request ≠ .consume length wait)
    (took : GuardedRing.Took capacity request phase phase' queue queue') :
    queue.length ≤ queue'.length := by
  cases took with
  | nothing same => exact Nat.le_refl _
  | effect outcome undecided decided answered =>
      have balance := RingRequest.answer?_balance answered
      have nothing : outcome.taken = [] := by
        cases request with
        | produce data wait => exact RingRequest.taken_of_produce answered
        | consume length wait => exact absurd rfl (sends length wait)
        | measure =>
            cases answered
            rfl
      rw [nothing, List.nil_append] at balance
      rw [balance, List.length_append]
      omega

private theorem Sound.senders_update (sound : intake.Sound number capacity floor queue)
    {sender : Sender} {next : RingCall} (sends : ∀ length wait, next.request ≠ .consume length wait)
    (other : Sender) (call : RingCall)
    (running : Function.update intake.calls sender (some next) other = some call) :
    ∀ length wait, call.request ≠ .consume length wait := by
  rcases RingCall.of_update running with ⟨-, ⟨⟩⟩ | ⟨-, running⟩
  · exact sends
  · exact sound.senders other call running

/-- Whatever others do, the bytes that the consumer has counted stay in the ring. -/
theorem Sound.send (sound : intake.Sound number capacity floor queue) {sender : Sender}
    {call call' : RingCall} {guarded guarded' : GuardedRing}
    (running : intake.calls sender = some call)
    (present : intake.host.guarded? (.region number) = some guarded)
    (stepped : call.step guarded = some (guarded', call')) :
    ∃ queue', ({ intake with
        host := intake.host.setGuarded (.region number) guarded'
        calls := Function.update intake.calls sender (some call') } : Intake Sender).Sound
          number capacity floor queue' := by
  obtain ⟨found, isRing, sameCapacity, attended⟩ := sound.ring
  rw [present] at isRing
  cases isRing
  obtain ⟨consumption, isProgram, positive, aims, draws⟩ := sound.consumer
  have called : intake.callers (some sender) = some call := running
  obtain ⟨sameRequest, queue', attended', took⟩ := attended.step called stepped
  have sends := sound.senders sender call running
  have capacity_eq := (RingCall.step_cases stepped).2.capacity_eq
  refine ⟨queue', ⟨guarded', Host.guarded?_setGuarded_self present guarded',
    capacity_eq.trans sameCapacity, ?_⟩, sound.senders_update (by rwa [sameRequest]),
    ⟨consumption, isProgram, positive, aims, draws.mono (length_le_of_took sends took)⟩,
    sound.awake, sound.sturdy, sound.joined,
    sound.opened⟩
  rw [callers_send]
  exact attended'

private theorem Sound.substitute (sound : intake.Sound number capacity floor queue)
    {sender : Sender} {next : RingCall}
    (sends : ∀ length wait, next.request ≠ .consume length wait)
    (attended : ∀ guarded : GuardedRing, guarded.Attended intake.callers queue →
      guarded.Attended (Function.update intake.callers (some sender) (some next)) queue) :
    ({ intake with calls := Function.update intake.calls sender (some next) } :
      Intake Sender).Sound number capacity floor queue := by
  obtain ⟨guarded, present, sameCapacity, stands⟩ := sound.ring
  refine ⟨⟨guarded, present, sameCapacity, ?_⟩, sound.senders_update sends, sound.consumer,
    sound.awake, sound.sturdy, sound.joined,
    sound.opened⟩
  rw [callers_send intake.host]
  exact attended guarded stands

/-! ## Steps of the consumer -/

private theorem Sound.begin (sound : intake.Sound number capacity floor queue)
    (idle : intake.consumer.call = none) {consumption : Consumption}
    (isProgram : intake.consumer.program = .consume consumption) {request : RingRequest}
    (draws : consumption.phase.Draws number capacity floor queue
      (some (.ring (.region number) (.start request)))) :
    ({ intake with
        consumer :=
          { intake.consumer with call := some (.ring (.region number) (.start request)) } } :
      Intake Sender).Sound number capacity floor queue := by
  obtain ⟨guarded, present, sameCapacity, attended⟩ := sound.ring
  obtain ⟨_, isConsumption, positive, aims, -⟩ := sound.consumer
  rw [isProgram] at isConsumption
  cases isConsumption
  refine ⟨⟨guarded, present, sameCapacity, ?_⟩, sound.senders,
    ⟨consumption, isProgram, positive, aims, draws⟩, ?_, sound.sturdy, sound.joined,
    sound.opened⟩
  · rw [callers_consume intake.host]
    refine attended.replace none (some (.start request)) ?_ ?_
    · intro call running
      simp [callers, idle, Call.onRing?] at running
    · rintro call ⟨⟩
      rfl
  · rintro call ⟨⟩ signals asleep
    cases asleep

/-- The consumer is done with its call, and goes on or has crashed. -/
private theorem Sound.settle (sound : intake.Sound number capacity floor queue) {host : Host}
    {consumer : Party}
    (outside : ∀ call, Call.onRing? intake.consumer.call = some call →
      call.phase.holds = false)
    (keeps : intake.host.KeepsRings host) (idle : consumer.call = none)
    (sturdy : consumer.Sturdy)
    (joins : ∀ transport, consumer.transport = some transport → transport.Holds number)
    (opened : consumer.Opened) {next : Consumption}
    (isNext : consumer.program = .consume next) (positive : 1 ≤ next.chunk)
    (aims : next.Aims) (draws : next.phase.Draws number capacity floor queue none) :
    ({ intake with host, consumer } : Intake Sender).Sound number capacity floor queue := by
  obtain ⟨guarded, present, sameCapacity, attended⟩ := sound.ring
  refine ⟨⟨guarded, keeps _ _ present, sameCapacity, ?_⟩, sound.senders,
    ⟨next, isNext, positive, aims, ?_⟩, ?_, sturdy, joins, opened⟩
  · rw [callers_consume, idle]
    exact attended.replace none none outside (by simp)
  · rw [idle]
    exact draws
  · intro call running
    simp [callers, idle, Call.onRing?] at running

private theorem Sound.goOn (sound : intake.Sound number capacity floor queue) {host : Host}
    {consumer : Party}
    (outside : ∀ call, Call.onRing? intake.consumer.call = some call →
      call.phase.holds = false)
    (keeps : intake.host.KeepsRings host) (idle : consumer.call = none)
    (alive : consumer.crash = none)
    (joins : ∀ transport, consumer.transport = some transport → transport.Holds number)
    (opened : consumer.Opened) {consumption next : Consumption}
    (isProgram : intake.consumer.program = .consume consumption)
    (isNext : consumer.program = .consume next)
    (goesOn : Turn.GoesOn Consumption.turn consumption next)
    (draws : next.phase.Draws number capacity floor queue none) :
    ({ intake with host, consumer } : Intake Sender).Sound number capacity floor queue := by
  obtain ⟨_, isConsumption, positive, aims, -⟩ := sound.consumer
  rw [isProgram] at isConsumption
  cases isConsumption
  have step := Consumption.next_of_goesOn goesOn
  exact sound.settle outside keeps idle (Party.sturdy_of_alive alive) joins opened isNext
    (step.chunk_eq.symm ▸ positive) (step.aims positive aims) draws

private theorem Sound.advance (sound : intake.Sound number capacity floor queue)
    {request : RingRequest} {phase : RingPhase} {call' : RingCall}
    {guarded guarded' : GuardedRing}
    (running : intake.consumer.call = some (.ring (.region number) ⟨request, phase⟩))
    (present : intake.host.guarded? (.region number) = some guarded)
    (stepped : RingCall.step guarded ⟨request, phase⟩ = some (guarded', call'))
    {consumption : Consumption} (isProgram : intake.consumer.program = .consume consumption)
    (served : phase.decided? = none → request.serve? capacity queue ≠ none) :
    ∃ phase' queue', call' = ⟨request, phase'⟩ ∧
      GuardedRing.Took capacity request phase phase' queue queue' ∧
      phase'.distance < phase.distance ∧
      (consumption.phase.Draws number capacity floor queue'
          (some (.ring (.region number) call')) →
        ({ intake with
            host := intake.host.setGuarded (.region number) guarded'
            consumer :=
              { intake.consumer with call := some (.ring (.region number) call') } } :
          Intake Sender).Sound number capacity floor queue') := by
  obtain ⟨found, isRing, sameCapacity, attended⟩ := sound.ring
  rw [present] at isRing
  cases isRing
  have called : intake.callers none = some ⟨request, phase⟩ := by
    simp [callers, running, Call.onRing?]
  obtain ⟨sameRequest, queue', attended', took⟩ := attended.step called stepped
  have step := (RingCall.step_cases stepped).2
  obtain ⟨_, phase'⟩ := call'
  cases sameRequest
  rw [← sameCapacity] at served
  have awake := attended.stays_awake step served
  rw [sameCapacity] at took
  refine ⟨phase', queue', rfl, took, step.distance_lt awake, fun draws => ?_⟩
  obtain ⟨_, isConsumption, positive, aims, -⟩ := sound.consumer
  rw [isProgram] at isConsumption
  cases isConsumption
  refine ⟨⟨guarded', Host.guarded?_setGuarded_self present guarded',
    step.capacity_eq.trans sameCapacity, ?_⟩, sound.senders,
    ⟨consumption, isProgram, positive, aims, draws⟩, ?_, sound.sturdy, sound.joined,
    sound.opened⟩
  · rw [callers_consume]
    exact attended'
  · rintro call ⟨⟩
    exact awake

/-- A count of at least `floor` bytes comes closer to its end with every step of the consumer,
and ends with a request if that is one byte or more. -/
theorem Sound.count (sound : intake.Sound number capacity floor queue) {host : Host}
    {consumer : Party} {consumption : Consumption} {want : Nat}
    (isProgram : intake.consumer.program = .consume consumption)
    (isPhase : consumption.phase = .counting want)
    (draws : (ConsumePhase.counting want).Draws number capacity floor queue
      intake.consumer.call)
    (stepped : intake.consumer.step intake.host = some (host, consumer))
    (joins : ∀ transport, consumer.transport = some transport → transport.Holds number) :
    ∃ queue', ({ intake with host, consumer } : Intake Sender).Sound number capacity floor
        queue' ∧
      (0 < floor → (({ intake with host, consumer } : Intake Sender).Polls ∧
          ({ intake with host, consumer } : Intake Sender).remaining < intake.remaining) ∨
        ∃ length, ({ intake with host, consumer } : Intake Sender).Receives length) := by
  have turn : consumption.turn = .ask .countPending (consumption.pendingCounted want) := by
    simp only [Consumption.turn, isPhase]
  have alive := Party.alive_of_step stepped
  rw [Party.step_consume isProgram alive turn] at stepped
  simp only [Party.serve] at stepped
  obtain ⟨transport, opened⟩ := Party.opened_of_pursue stepped
  have polls : ∀ {later : Intake Sender},
      later.consumer.program = intake.consumer.program → later.Polls := by
    intro later same
    exact ⟨want, (polls_of_program (same.trans isProgram)).mpr isPhase⟩
  cases Party.counting_of_pursue opened (sound.joined transport opened).pendingCall?_eq
    draws.isCount stepped with
  | begin idle =>
      have closer : ({ intake with
          consumer :=
            { intake.consumer with call := some (.ring (.region number) (.start .measure)) } } :
          Intake Sender).remaining < intake.remaining := by
        simp [remaining, callers, idle, Call.onRing?, RingCall.start, RingPhase.distance]
      refine ⟨queue, sound.begin idle isProgram ?_, fun _ => .inl ⟨polls rfl, closer⟩⟩
      rw [idle] at draws
      rw [isPhase]
      cases draws with
      | counting _ _ enough undecided =>
          exact .counting want _ enough (Call.undecided_start number _)
      | away _ counts receives => exact absurd rfl (counts want)
  | advance phase call' guarded guarded' running present ringStep =>
      rw [running] at draws
      obtain ⟨phase', queue', rfl, took, closer, goes⟩ :=
        sound.advance running present ringStep isProgram (by simp [RingRequest.serve?])
      obtain ⟨rfl, effect⟩ := took.of_measure
      refine ⟨queue', goes ?_,
        fun _ => .inl ⟨polls rfl, remaining_lt_of_distance running closer _⟩⟩
      rw [isPhase]
      exact draws.of_count effect
  | answer pending running =>
      rw [running] at draws
      obtain ⟨enough, held⟩ := draws.of_counted
      obtain ⟨guarded, present, sameCapacity, attended⟩ := sound.ring
      have fits := attended.represents.length_le
      refine ⟨queue, sound.goOn ?_ Host.keepsRings_refl rfl alive joins
        (fun _ _ _ => .inr (.inr ⟨transport, opened⟩)) isProgram rfl
        (.answer _ _ turn (.ok (some pending))) ?_, fun positive => .inr ?_⟩
      · simp [running, Call.onRing?, RingPhase.holds]
      · cases pending with
        | zero =>
            have isPhase' : (consumption.pendingCounted want (.ok (some 0))).phase =
                .observing want := rfl
            rw [isPhase']
            exact .away _ (by simp) (by simp)
        | succ pending =>
            exact .receiving (min (pending + 1) want) none (by omega) (by omega)
              (Call.undecided_none number _)
      · cases pending with
        | zero => omega
        | succ pending => exact ⟨min (pending + 1) want, rfl⟩

private theorem Sound.receive (sound : intake.Sound number capacity 0 queue) {host : Host}
    {consumer : Party} {consumption : Consumption} {length : Nat}
    (isProgram : intake.consumer.program = .consume consumption)
    (isPhase : consumption.phase = .receiving length) (positive : 1 ≤ length)
    (draws : (ConsumePhase.receiving length).Draws number capacity 0 queue
      intake.consumer.call)
    (stepped : intake.consumer.step intake.host = some (host, consumer))
    (joins : ∀ transport, consumer.transport = some transport → transport.Holds number) :
    ∃ queue', ({ intake with host, consumer } : Intake Sender).Sound number capacity 0
      queue' := by
  have turn : consumption.turn = .ask (.receive length) consumption.received := by
    simp only [Consumption.turn, isPhase]
  have alive := Party.alive_of_step stepped
  rw [Party.step_consume isProgram alive turn] at stepped
  simp only [Party.serve] at stepped
  obtain ⟨transport, opened⟩ := Party.opened_of_pursue stepped
  have pursuit := Party.pursuit_of_pursue opened
    ((sound.joined transport opened).consumeCall?_eq (Nat.ne_of_gt positive)) draws.onRing
    stepped
  cases pursuit with
  | begin idle =>
      refine ⟨queue, sound.begin idle isProgram ?_⟩
      rw [idle] at draws
      rw [isPhase]
      cases draws with
      | receiving _ _ held fits undecided =>
          exact .receiving length _ held fits (Call.undecided_start number _)
      | away _ counts receives => exact absurd rfl (receives length)
  | advance call call' guarded guarded' running present ringStep =>
      rw [running] at draws
      cases draws with
      | receiving _ _ held fits undecided =>
          obtain ⟨phase, isCall, open?⟩ := undecided _ rfl
          cases isCall
          obtain ⟨phase', queue', rfl, took, -, goes⟩ :=
            sound.advance running present ringStep isProgram
              (by simp [RingRequest.serve?, held])
          refine ⟨queue', goes ?_⟩
          rw [isPhase]
          have admitted : (RingRequest.consume length true).rejection? capacity = none :=
            RingRequest.rejection?_eq_none positive fits
          rcases took.of_consume admitted with ⟨rfl, same⟩ | ⟨-, decided, -, -⟩
          · exact .receiving length _ held fits (Call.undecided_of_same same open?)
          · exact .received length _ phase' fits decided
      | received _ bytes phase fits decided =>
          obtain ⟨phase', queue', rfl, took, -, goes⟩ :=
            sound.advance running present ringStep isProgram (by simp [decided])
          refine ⟨queue', goes ?_⟩
          obtain ⟨rfl, same⟩ := took.of_decided decided
          rw [isPhase]
          exact .received length bytes phase' fits (same.trans decided)
  | answer request outcome answer running settled =>
      rw [running] at draws
      cases draws with
      | receiving _ _ held fits undecided => exact (undecided.not_finished rfl).elim
      | received _ bytes phase fits decided =>
          cases decided
          cases settled
          refine ⟨queue, sound.goOn (by simp [running, Call.onRing?, RingPhase.holds])
            Host.keepsRings_refl rfl alive joins (fun _ _ _ => .inr (.inr ⟨transport, opened⟩))
            isProgram rfl
            (.answer _ _ turn (.ok (.ofList length bytes))) ?_⟩
          -- Bytes that were received are written, or there were none.
          rcases Chunk.ofList length bytes with ⟨_ | ⟨byte, rest⟩, short⟩
          · exact .away .flushing (by simp) (by simp)
          · exact .away (.writing (byte :: rest)) (by simp) (by simp)
  | crash request outcome text running settled =>
      rw [running] at draws
      cases draws with
      | receiving _ _ held fits undecided => exact (undecided.not_finished rfl).elim
      | received _ bytes phase fits decided =>
          cases decided
          cases settled

/-- Elsewhere the consumer is answered at once, and comes to count before it receives. -/
private theorem Sound.reply (sound : intake.Sound number capacity 0 queue) {host : Host}
    {consumer : Party} {consumption : Consumption}
    (isProgram : intake.consumer.program = .consume consumption)
    (idle : intake.consumer.call = none)
    (counts : ∀ want, consumption.phase ≠ .counting want)
    (receives : ∀ length, consumption.phase ≠ .receiving length)
    (stepped : intake.consumer.step intake.host = some (host, consumer))
    (joins : ∀ transport, consumer.transport = some transport → transport.Holds number) :
    ({ intake with host, consumer } : Intake Sender).Sound number capacity 0 queue := by
  have alive := Party.alive_of_step stepped
  have outside : ∀ call, Call.onRing? intake.consumer.call = some call →
      call.phase.holds = false := by simp [idle, Call.onRing?]
  cases asks : consumption.turn with
  | finished result =>
      simp [Party.step, alive, isProgram, Program.turn, asks, Turn.map] at stepped
  | ask request resume =>
      rw [Party.step_consume isProgram alive asks] at stepped
      have quick := Consumption.quick_of_asks asks counts receives
      rcases Party.replied_of_serve quick stepped with replied | collapses
      swap
      · obtain ⟨_, isConsumption, positive, aims, -⟩ := sound.consumer
        rw [isProgram] at isConsumption
        cases isConsumption
        have turn : intake.consumer.program.turn =
            .ask request fun reply => .consume (resume reply) := by
          simp only [isProgram, Program.turn, asks, Turn.map]
        exact sound.settle outside collapses.keeps collapses.call_eq (collapses.sturdy turn) joins
          (fun alive' => absurd alive' collapses.crash_ne)
          (collapses.program_eq.trans isProgram) positive aims (.away _ counts receives)
      obtain ⟨reply, isNext⟩ := replied.program
      have goesOn : Turn.GoesOn Consumption.turn consumption (resume reply) :=
        .answer request resume asks reply
      refine sound.goOn outside replied.keeps replied.idle (replied.crash_eq.trans alive) joins
        (sound.opened.of_reply alive isProgram asks stepped replied) isProgram isNext goesOn ?_
      cases isPhase : (resume reply).phase with
      | counting want =>
          exact .counting want none (Nat.zero_le _) (Call.undecided_none number _)
      | receiving length =>
          obtain ⟨want, counted⟩ :=
            (Consumption.next_of_goesOn goesOn).counting_of_receiving isPhase
          exact absurd counted (counts want)
      | _ => exact .away _ (by simp) (by simp)

theorem Sound.consume (sound : intake.Sound number capacity 0 queue) {host : Host}
    {consumer : Party} (stepped : intake.consumer.step intake.host = some (host, consumer))
    (joins : ∀ transport, consumer.transport = some transport → transport.Holds number) :
    ∃ queue', ({ intake with host, consumer } : Intake Sender).Sound number capacity 0
      queue' := by
  obtain ⟨consumption, isProgram, positive, aims, draws⟩ := sound.consumer
  cases isPhase : consumption.phase with
  | counting want =>
      rw [isPhase] at draws
      obtain ⟨queue', sound', -⟩ := sound.count isProgram isPhase draws stepped joins
      exact ⟨queue', sound'⟩
  | receiving length =>
      rw [isPhase] at draws
      obtain ⟨want, -, some, -⟩ : ∃ want, consumption.want? = some want ∧ 1 ≤ length ∧
          length ≤ want := by simpa only [Consumption.Aims, isPhase] using aims
      exact sound.receive isProgram isPhase some draws stepped joins
  | _ =>
      have counts : ∀ want, consumption.phase ≠ .counting want := by simp [isPhase]
      have receives : ∀ length, consumption.phase ≠ .receiving length := by simp [isPhase]
      exact ⟨queue, sound.reply isProgram (draws.idle counts receives) counts receives stepped
        joins⟩

/-! ## Runs -/

/-- Whatever is not a step of the consumer leaves it as it is. -/
theorem Sound.step_cases (sound : intake.Sound number capacity floor queue)
    (step : Step number intake later) :
    (∃ queue', later.Sound number capacity floor queue' ∧
        later.consumer = intake.consumer ∧ later.callers none = intake.callers none) ∨
      ∃ host consumer, intake.consumer.step intake.host = some (host, consumer) ∧
        (∀ transport, consumer.transport = some transport → transport.Holds number) ∧
        later = { intake with host, consumer } := by
  cases step with
  | consume host consumer stepped joins => exact .inr ⟨host, consumer, stepped, joins, rfl⟩
  | begin sender request idle sends =>
      refine .inl ⟨queue, sound.substitute sends fun guarded attended => ?_, rfl, rfl⟩
      refine attended.replace (some sender) (some (.start request)) ?_ ?_
      · intro call running
        obtain ⟨outcome, finished⟩ := idle call running
        rw [finished]
        rfl
      · rintro call ⟨⟩
        rfl
  | advance sender call call' guarded guarded' running present stepped =>
      obtain ⟨queue', sound'⟩ := sound.send running present stepped
      exact .inl ⟨queue', sound', rfl, rfl⟩
  | rouse sender request signals sleeps =>
      have sends := sound.senders sender ⟨request, .asleep signals⟩ sleeps
      have asleep : intake.callers (.some sender) = .some ⟨request, .asleep signals⟩ := sleeps
      exact .inl ⟨queue, sound.substitute sends fun guarded attended => attended.rouse asleep,
        rfl, rfl⟩
  | change host same =>
      obtain ⟨guarded, present, sameCapacity, attended⟩ := sound.ring
      exact .inl ⟨queue, ⟨⟨guarded, same.trans present, sameCapacity, attended⟩, sound.senders,
        sound.consumer, sound.awake, sound.sturdy, sound.joined, sound.opened⟩, rfl, rfl⟩

theorem Sound.step (sound : intake.Sound number capacity 0 queue)
    (step : Step number intake later) : ∃ queue', later.Sound number capacity 0 queue' := by
  rcases sound.step_cases step with ⟨queue', sound', -⟩ | ⟨host, consumer, stepped, joins, rfl⟩
  · exact ⟨queue', sound'⟩
  · exact sound.consume stepped joins

theorem Sound.steps (sound : intake.Sound number capacity 0 queue)
    (goesOn : Relation.ReflTransGen (Step number) intake later) :
    ∃ queue', later.Sound number capacity 0 queue' := by
  induction goesOn with
  | refl => exact ⟨queue, sound⟩
  | tail _ step hypothesis =>
      obtain ⟨queue', sound'⟩ := hypothesis
      exact sound'.step step

end

/-- A consumer that has not begun, on a ring that nobody uses yet. -/
theorem sound_consume {host : Host} {guarded : GuardedRing}
    (present : host.guarded? (.region number) = some guarded)
    (represents : guarded.ring.Represents queue) (free : guarded.monitor.lock = .free)
    (config : Config) (output : Option String) (limit : Option Nat) {chunk : Nat}
    (some : 1 ≤ chunk) :
    (⟨host, .consume config output limit chunk, fun _ => none⟩ : Intake Sender).Sound number
      guarded.ring.capacity 0 queue := by
  have nonzero : chunk ≠ 0 := Nat.ne_of_gt some
  have begun : Consumption.start config output limit chunk =
      ⟨config, output, limit, chunk, .empty, .connecting⟩ := by
    simp [Consumption.start, nonzero]
  have program : (Party.consume config output limit chunk).program =
      .consume ⟨config, output, limit, chunk, .empty, .connecting⟩ :=
    congrArg Program.consume begun
  refine ⟨⟨guarded, present, rfl, .of_idle represents free ?_⟩, ?_,
    ⟨_, program, some, trivial, .away _ (by simp) (by simp)⟩, ?_, Party.sturdy_of_alive rfl,
    ?_, ?_⟩
  · rintro (_ | sender) call running <;> cases running
  · rintro sender call ⟨⟩
  · rintro call ⟨⟩
  · rintro transport ⟨⟩
  · intro _ consumption isProgram
    rw [program] at isProgram
    cases isProgram
    exact .inl rfl

end Intake

end BoundedStream
