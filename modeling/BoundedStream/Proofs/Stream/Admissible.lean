import BoundedStream.Proofs.Stream.Intake
import BoundedStream.Proofs.Stream.Outlet

/-!
# Admissible transfers

Neither end of a stream asks its ring for a transfer that the ring could never serve, and the
consumer asks only for what is there.  So the consumer never sleeps: a producer that sleeps
for space waits for it, but it waits for nobody who sleeps.
-/

namespace BoundedStream

namespace Intake

variable {Sender : Type}

/-- The call of the consumer, if any, has not taken effect. -/
def Undecided (intake : Intake Sender) : Prop :=
  ∀ call, intake.callers none = some call → call.phase.decided? = none

/-- A producer sleeps until there is space, and nobody has woken it. -/
def SleepsForSpace (intake : Intake Sender) (number : Nat) (sender : Sender) : Prop :=
  ∃ guarded data wait, intake.host.guarded? (.region number) = some guarded ∧
    intake.calls sender =
      some ⟨.produce data wait, .asleep (guarded.monitor.signals .spaceAvailable)⟩

/-- A sender works on the ring, and nothing keeps it from going on. -/
def Works (intake : Intake Sender) (number : Nat) (sender : Sender) : Prop :=
  ∃ call guarded later, intake.calls sender = some call ∧ call.phase.holds = true ∧
    intake.host.guarded? (.region number) = some guarded ∧ call.step guarded = some later

/-- A step that is taken while the consumer counts the bytes in the ring. -/
def PollStep [DecidableEq Sender] (number : Nat) (intake later : Intake Sender) : Prop :=
  intake.Polls ∧ Step number intake later

/-- The consumer never asks for what its ring cannot serve at once, and never crashes over it. -/
structure Admissible [DecidableEq Sender] (intake : Intake Sender) (number capacity : Nat) :
    Prop where
  sturdy : intake.consumer.Sturdy
  alive : (intake.Polls ∨ ∃ length, intake.Receives length) → intake.consumer.crash = none
  reads : ∀ length, intake.Receives length → ∃ consumption want,
    intake.consumer.program = .consume consumption ∧ consumption.want? = some want ∧
      1 ≤ length ∧ length ≤ min want capacity
  held : ∀ length, intake.Receives length → intake.Undecided → ∃ guarded,
    intake.host.guarded? (.region number) = some guarded ∧ length ≤ guarded.ring.size
  asks : ∀ call, intake.callers none = some call →
    (call.request = .measure ∧ intake.Polls ∨
        ∃ length, call.request = .consume length true ∧ intake.Receives length) ∧
      call.request.rejection? capacity = none ∧ ∀ signals, call.phase ≠ .asleep signals
  goes : (intake.Polls ∨ ∃ length, intake.Receives length) →
    (∃ later, intake.consumer.step intake.host = some later) ∨
      ∃ sender, intake.Works number sender
  polls : ∀ sender, intake.SleepsForSpace number sender → intake.Polls → intake.Undecided →
    ∀ later, Relation.ReflTransGen (PollStep number) intake later →
      (later.Polls ∨ ∃ length, 1 ≤ length ∧ later.Receives length) ∧
        ∃ last length, Relation.ReflTransGen (PollStep number) later last ∧ 1 ≤ length ∧
          last.Receives length

variable {intake later : Intake Sender} {number capacity floor length : Nat}
  {queue : List UInt8}

namespace Sound

/-! ## What the consumer asks for -/

theorem exists_want (sound : intake.Sound number capacity floor queue)
    (receives : intake.Receives length) : ∃ consumption want,
    intake.consumer.program = .consume consumption ∧ consumption.want? = some want ∧
      1 ≤ length ∧ length ≤ min want capacity := by
  obtain ⟨consumption, isProgram, -, aims, draws⟩ := sound.consumer
  have isPhase := (polls_of_program isProgram).mp receives
  obtain ⟨want, wanted, positive, few⟩ : ∃ want, consumption.want? = some want ∧
      1 ≤ length ∧ length ≤ want := by simpa only [Consumption.Aims, isPhase] using aims
  have fits : length ≤ capacity := by
    rw [isPhase] at draws
    generalize intake.consumer.call = call at draws
    cases draws with
    | away _ counts receives => exact absurd rfl (receives length)
    | receiving length call held fits undecided => exact fits
    | received length bytes phase fits decided => exact fits
  exact ⟨consumption, want, isProgram, wanted, positive, Nat.le_min.mpr ⟨few, fits⟩⟩

theorem length_le_size (sound : intake.Sound number capacity floor queue)
    (receives : intake.Receives length) (undecided : intake.Undecided) : ∃ guarded,
    intake.host.guarded? (.region number) = some guarded ∧ length ≤ guarded.ring.size := by
  obtain ⟨consumption, isProgram, -, -, draws⟩ := sound.consumer
  have isPhase := (polls_of_program isProgram).mp receives
  have held : length ≤ queue.length := by
    rw [isPhase] at draws
    cases running : intake.consumer.call with
    | none =>
        rw [running] at draws
        cases draws with
        | away _ counts receives => exact absurd rfl (receives length)
        | receiving length call held fits undecided => exact held
    | some call =>
        rw [running] at draws
        cases draws with
        | receiving length call held fits undecided => exact held
        | received length bytes phase fits decided =>
            have open? := undecided ⟨.consume length true, phase⟩
              (by simp [callers, running, Call.onRing?])
            rw [decided] at open?
            cases open?
  obtain ⟨guarded, present, -, attended⟩ := sound.ring
  exact ⟨guarded, present, by rwa [attended.represents.size_eq]⟩

theorem request_of_call (sound : intake.Sound number capacity floor queue) {call : RingCall}
    (running : intake.callers none = some call) :
    call.request = .measure ∧ intake.Polls ∨
      ∃ length, call.request = .consume length true ∧ intake.Receives length := by
  obtain ⟨consumption, isProgram, -, -, draws⟩ := sound.consumer
  cases onRing : intake.consumer.call with
  | none => simp [callers, onRing, Call.onRing?] at running
  | some present =>
      rw [onRing] at draws
      obtain ⟨request, step, rfl, asks⟩ := draws.request
      simp only [callers, onRing, Call.onRing?, Option.some.injEq] at running
      subst running
      rcases asks with ⟨measures, want, isPhase⟩ | ⟨length, consumes, isPhase⟩
      · exact .inl ⟨measures, want, (polls_of_program isProgram).mpr isPhase⟩
      · exact .inr ⟨length, consumes, (polls_of_program isProgram).mpr isPhase⟩

theorem admitted (sound : intake.Sound number capacity floor queue) {call : RingCall}
    (running : intake.callers none = some call) : call.request.rejection? capacity = none := by
  rcases sound.request_of_call running with ⟨measures, -⟩ | ⟨length, isRequest, receives⟩
  · rw [measures]
    rfl
  · obtain ⟨-, want, -, -, positive, few⟩ := sound.exists_want receives
    rw [isRequest]
    exact RingRequest.rejection?_eq_none positive (Nat.le_trans few (Nat.min_le_right _ _))

theorem served (sound : intake.Sound number capacity floor queue) {call : RingCall}
    (running : intake.callers none = some call) (undecided : call.phase.decided? = none) :
    call.request.serve? capacity queue ≠ none := by
  rcases sound.request_of_call running with ⟨measures, -⟩ | ⟨length, isRequest, receives⟩
  · simp [measures, RingRequest.serve?]
  · have open? : intake.Undecided := by
      intro other same
      rw [running] at same
      cases same
      exact undecided
    obtain ⟨guarded, present, enough⟩ := sound.length_le_size receives open?
    obtain ⟨found, isRing, -, attended⟩ := sound.ring
    rw [present] at isRing
    cases isRing
    rw [attended.represents.size_eq] at enough
    simp [isRequest, RingRequest.serve?, enough]

/-! ## The consumer goes on -/

/-- No sender is in the way of the consumer. -/
def Unhindered (intake : Intake Sender) : Prop :=
  ∀ sender call, intake.calls sender = some call → call.phase.holds = false

/-- The consumer asks for its transfers, so that it has not crashed. -/
theorem alive (sound : intake.Sound number capacity floor queue)
    (transfers : intake.Polls ∨ ∃ length, intake.Receives length) :
    intake.consumer.crash = none := by
  obtain ⟨consumption, isProgram, -, -, -⟩ := sound.consumer
  rcases transfers with ⟨want, polls⟩ | ⟨length, receives⟩
  · have asks : intake.consumer.program.turn.request? = some .countPending := by
      simp only [isProgram, Program.turn, Consumption.turn, (polls_of_program isProgram).mp polls]
      rfl
    exact sound.sturdy.alive asks (by rintro text ⟨⟩)
  · have asks : intake.consumer.program.turn.request? = some (.receive length) := by
      simp only [isProgram, Program.turn, Consumption.turn,
        (polls_of_program isProgram).mp receives]
      rfl
    exact sound.sturdy.alive asks (by rintro text ⟨⟩)

theorem exists_transport (sound : intake.Sound number capacity floor queue)
    (transfers : intake.Polls ∨ ∃ length, intake.Receives length) :
    ∃ transport, intake.consumer.transport = some transport := by
  obtain ⟨consumption, isProgram, -, -, -⟩ := sound.consumer
  have isPhase : (∃ want, consumption.phase = .counting want) ∨
      ∃ length, consumption.phase = .receiving length := by
    rcases transfers with ⟨want, polls⟩ | ⟨length, receives⟩
    · exact .inl ⟨want, (polls_of_program isProgram).mp polls⟩
    · exact .inr ⟨length, (polls_of_program isProgram).mp receives⟩
  rcases sound.opened (sound.alive transfers) consumption isProgram with connects | ⟨result, finished⟩ | opened
  · simp [connects] at isPhase
  · simp [finished] at isPhase
  · exact opened

theorem call_moves (sound : intake.Sound number capacity floor queue)
    (unhindered : Unhindered intake) (call : Call) (running : intake.consumer.call = some call)
    (unfinished : call.outcome? = none) : ∃ later, call.step intake.host = some later := by
  obtain ⟨consumption, -, -, -, draws⟩ := sound.consumer
  obtain ⟨guarded, present, sameCapacity, attended⟩ := sound.ring
  rw [running] at draws
  obtain ⟨request, phase, rfl, -⟩ := draws.request
  have called : intake.callers none = some ⟨request, phase⟩ := by
    simp [callers, running, Call.onRing?]
  have alone : ∀ other call, other ≠ none → intake.callers other = some call →
      call.phase.holds = false := by
    rintro (_ | sender) call differs running
    · exact absurd rfl differs
    · exact unhindered sender call running
  have incomplete : ∀ outcome, phase ≠ .finished outcome := by
    rintro outcome rfl
    cases unfinished
  obtain ⟨⟨guarded', call'⟩, stepped⟩ := attended.exists_step called alone incomplete
    (by rw [sameCapacity]; exact sound.served called)
  exact ⟨(intake.host.setGuarded (.region number) guarded', .ring (.region number) call'),
    by simp [Call.step, present, stepped]⟩

theorem exists_step (sound : intake.Sound number capacity floor queue)
    (unhindered : Unhindered intake)
    (transfers : intake.Polls ∨ ∃ length, intake.Receives length) :
    ∃ host consumer, intake.consumer.step intake.host = some (host, consumer) ∧
      consumer.transport = intake.consumer.transport := by
  obtain ⟨transport, opened⟩ := sound.exists_transport transfers
  have alive := sound.alive transfers
  obtain ⟨consumption, isProgram, -, -, -⟩ := sound.consumer
  rcases transfers with ⟨want, polls⟩ | ⟨length, receives⟩
  · have turn : consumption.turn = .ask .countPending (consumption.pendingCounted want) := by
      simp only [Consumption.turn, (polls_of_program isProgram).mp polls]
    rw [Party.step_consume isProgram alive turn]
    simp only [Party.serve]
    obtain ⟨⟨host, consumer⟩, pursued⟩ := Option.isSome_iff_exists.mp
      (Party.isSome_pursue opened (sound.call_moves unhindered))
    exact ⟨host, consumer, pursued, Party.transport_of_pursue pursued⟩
  · have turn : consumption.turn = .ask (.receive length) consumption.received := by
      simp only [Consumption.turn, (polls_of_program isProgram).mp receives]
    rw [Party.step_consume isProgram alive turn]
    simp only [Party.serve]
    obtain ⟨⟨host, consumer⟩, pursued⟩ := Option.isSome_iff_exists.mp
      (Party.isSome_pursue opened (sound.call_moves unhindered))
    exact ⟨host, consumer, pursued, Party.transport_of_pursue pursued⟩

theorem works_of_hindered (sound : intake.Sound number capacity floor queue) {sender : Sender}
    {call : RingCall} (running : intake.calls sender = some call)
    (inside : call.phase.holds = true) : intake.Works number sender := by
  obtain ⟨guarded, present, -, -⟩ := sound.ring
  obtain ⟨request, phase⟩ := call
  obtain ⟨later, stepped⟩ := RingCall.exists_step_of_holds guarded request inside
  exact ⟨_, guarded, later, running, inside, present, stepped⟩

/-! ## Polls beside a producer that sleeps -/

/-- Nobody but a consumer that receives is about to make space, so the ring holds something
while a producer sleeps for space. -/
theorem nonempty_of_sleeper (sound : intake.Sound number capacity floor queue) {sender : Sender}
    (sleeps : intake.SleepsForSpace number sender) (polls : intake.Polls) :
    1 ≤ queue.length := by
  obtain ⟨guarded, data, wait, present, running⟩ := sleeps
  obtain ⟨found, isRing, -, attended⟩ := sound.ring
  rw [present] at isRing
  cases isRing
  have called : intake.callers (some sender) = some ⟨.produce data wait, .asleep _⟩ := running
  obtain ⟨-, untold⟩ := attended.told _ _ _ called
  have admitted : (RingRequest.produce data wait).rejection? guarded.ring.capacity = none :=
    attended.sound _ _ called
  rcases untold rfl with lacks | ⟨other, call, outcome, isCall, -, wakes⟩
  · have full := (RingRequest.serve?_eq_none_iff.mp lacks).2
    have fits := RingRequest.length_le_of_rejection?_eq_none admitted
    simp only [RingRequest.length] at fits
    omega
  · exfalso
    cases other with
    | none =>
        rcases sound.request_of_call isCall with ⟨measures, -⟩ | ⟨length, -, receives⟩
        · simp [measures, RingRequest.effect, RingRequest.condition] at wakes
        · obtain ⟨want, polls⟩ := polls
          simp [Receives, polls] at receives
    | some sender =>
        have sends := sound.senders sender call isCall
        obtain ⟨request, phase⟩ := call
        cases request with
        | produce data wait => cases wakes
        | consume length wait => exact sends length wait rfl
        | measure => cases wakes

/-- A consumer that has not counted yet counts at least what is in the ring now. -/
theorem count_all (sound : intake.Sound number capacity 0 queue) (undecided : intake.Undecided)
    (polls : intake.Polls) (enough : floor ≤ queue.length) :
    intake.Sound number capacity floor queue := by
  obtain ⟨ring, senders, ⟨consumption, isProgram, positive, aims, draws⟩, awake, sturdy,
    joined, opened⟩ := sound
  refine ⟨ring, senders, ⟨consumption, isProgram, positive, aims, ?_⟩, awake, sturdy,
    joined, opened⟩
  obtain ⟨want, isCounting⟩ := polls
  rw [(polls_of_program isProgram).mp isCounting] at draws ⊢
  cases running : intake.consumer.call with
  | none => exact .counting want none enough (Call.undecided_none number _)
  | some call =>
      rw [running] at draws
      cases draws with
      | counting want _ _ open? => exact .counting want _ enough open?
      | counted want pending phase _ held decided =>
          have open? := undecided ⟨.measure, phase⟩ (by simp [callers, running, Call.onRing?])
          rw [decided] at open?
          cases open?

section

variable [DecidableEq Sender]

/-- A poll goes on, whatever happens, until it ends with a request. -/
theorem poll (sound : intake.Sound number capacity floor queue) (positive : 0 < floor)
    (step : PollStep number intake later) : ∃ queue',
    later.Sound number capacity floor queue' ∧
      (later.Polls ∨ ∃ length, later.Receives length) := by
  obtain ⟨polls, step⟩ := step
  rcases sound.step_cases step with
    ⟨queue', sound', same, -⟩ | ⟨host, consumer, stepped, joins, rfl⟩
  · refine ⟨queue', sound', .inl ?_⟩
    obtain ⟨want, polls⟩ := polls
    exact ⟨want, by rw [same, polls]⟩
  · obtain ⟨want, polls⟩ := polls
    obtain ⟨consumption, isProgram, -, -, draws⟩ := sound.consumer
    have isPhase := (polls_of_program isProgram).mp polls
    rw [isPhase] at draws
    obtain ⟨queue', sound', ends⟩ := sound.count isProgram isPhase draws stepped joins
    exact ⟨queue', sound', (ends positive).imp And.left id⟩

theorem polls (sound : intake.Sound number capacity floor queue) (positive : 0 < floor)
    (polls : intake.Polls)
    (goesOn : Relation.ReflTransGen (PollStep number) intake later) : ∃ queue',
    later.Sound number capacity floor queue' ∧
      (later.Polls ∨ ∃ length, later.Receives length) := by
  induction goesOn with
  | refl => exact ⟨queue, sound, .inl polls⟩
  | tail _ step hypothesis =>
      obtain ⟨queue', sound', -⟩ := hypothesis
      exact sound'.poll positive step

theorem exists_unhindered (sound : intake.Sound number capacity floor queue)
    (polls : intake.Polls) : ∃ later queue',
    Relation.ReflTransGen (PollStep number) intake later ∧
      later.Sound number capacity floor queue' ∧ later.Polls ∧
      later.remaining = intake.remaining ∧ Unhindered later := by
  obtain ⟨bound, gripped⟩ : ∃ bound, ∀ sender call, intake.calls sender = some call →
      call.phase.grip ≤ bound :=
    ⟨7, fun _ call _ => RingPhase.grip_le call.phase⟩
  -- The induction is on the steps that are left of the critical section.
  induction bound generalizing intake queue with
  | zero =>
      refine ⟨intake, queue, .refl, sound, polls, rfl, fun sender call running => ?_⟩
      by_contra inside
      have positive := RingPhase.grip_pos (by simpa using inside)
      have none := gripped sender call running
      omega
  | succ bound hypothesis =>
      by_cases unhindered : Unhindered intake
      · exact ⟨intake, queue, .refl, sound, polls, rfl, unhindered⟩
      simp only [Unhindered, not_forall, Bool.not_eq_false] at unhindered
      obtain ⟨sender, ⟨request, phase⟩, running, inside⟩ := unhindered
      obtain ⟨guarded, present, -, attended⟩ := sound.ring
      obtain ⟨⟨guarded', request', phase'⟩, stepped⟩ :=
        RingCall.exists_step_of_holds guarded request inside
      obtain ⟨queue', sound'⟩ := sound.send running present stepped
      have step : PollStep number intake _ :=
        ⟨polls, .advance sender _ _ guarded guarded' running present stepped⟩
      have looser : ∀ other call,
          Function.update intake.calls sender (some ⟨request', phase'⟩) other = some call →
            call.phase.grip ≤ bound := by
        intro other call running'
        rcases RingCall.of_update running' with ⟨-, ⟨⟩⟩ | ⟨differs, running'⟩
        · have fewer := (RingCall.step_cases stepped).2.grip_lt inside
          exact Nat.le_of_lt_succ (Nat.lt_of_lt_of_le fewer (gripped sender _ running))
        · have outside : call.phase.holds = false := by
            by_contra holds
            have same := attended.exclusive (some other) (some sender) call _ running' running
              (by simpa using holds) inside
            exact differs (Option.some.inj same)
          rw [RingPhase.grip_eq_zero outside]
          exact Nat.zero_le bound
      obtain ⟨last, queue'', reaches, soundLast, pollsLast, same, unhindered⟩ :=
        hypothesis sound' polls looser
      exact ⟨last, queue'', .head step reaches, soundLast, pollsLast, same, unhindered⟩

/-- A poll of a ring that holds something comes to its end. -/
theorem exists_receives (sound : intake.Sound number capacity floor queue)
    (positive : 0 < floor) (polls : intake.Polls) : ∃ last length,
    Relation.ReflTransGen (PollStep number) intake last ∧ last.Receives length := by
  -- Senders that hold the mutex leave first; then the consumer comes one step closer.
  induction left : intake.remaining using Nat.strongRecOn generalizing intake queue with
  | _ left hypothesis =>
      subst left
      obtain ⟨free, queue', reaches, soundFree, pollsFree, same, unhindered⟩ :=
        sound.exists_unhindered polls
      obtain ⟨host, consumer, stepped, kept⟩ :=
        soundFree.exists_step unhindered (.inl pollsFree)
      have joins : ∀ transport, consumer.transport = some transport →
          transport.Holds number := by
        rw [kept]
        exact soundFree.joined
      have step : PollStep number free { free with host, consumer } :=
        ⟨pollsFree, .consume host consumer stepped joins⟩
      obtain ⟨want, isCounting⟩ := pollsFree
      obtain ⟨consumption, isProgram, -, -, draws⟩ := soundFree.consumer
      have isPhase := (polls_of_program isProgram).mp isCounting
      rw [isPhase] at draws
      obtain ⟨queue'', soundNext, ends⟩ := soundFree.count isProgram isPhase draws stepped joins
      rcases ends positive with ⟨pollsNext, fewer⟩ | ⟨length, receives⟩
      · rw [same] at fewer
        obtain ⟨last, length, goesOn, receives⟩ :=
          hypothesis _ fewer soundNext pollsNext rfl
        exact ⟨last, length, (reaches.tail step).trans goesOn, receives⟩
      · exact ⟨_, length, reaches.tail step, receives⟩

theorem admissible (sound : intake.Sound number capacity 0 queue) :
    intake.Admissible number capacity where
  sturdy := sound.sturdy
  alive := sound.alive
  reads _ receives := sound.exists_want receives
  held _ receives undecided := sound.length_le_size receives undecided
  asks call running :=
    ⟨sound.request_of_call running, sound.admitted running, sound.awake call running⟩
  goes transfers := by
    by_cases unhindered : Unhindered intake
    · obtain ⟨host, consumer, stepped, -⟩ := sound.exists_step unhindered transfers
      exact .inl ⟨_, stepped⟩
    · simp only [Unhindered, not_forall, Bool.not_eq_false] at unhindered
      obtain ⟨sender, call, running, inside⟩ := unhindered
      exact .inr ⟨sender, sound.works_of_hindered running inside⟩
  polls sender sleeps polls undecided later goesOn := by
    have enough := sound.nonempty_of_sleeper sleeps polls
    have counting := sound.count_all undecided polls enough
    obtain ⟨queue', soundLater, underway⟩ := counting.polls Nat.zero_lt_one polls goesOn
    have some : ∀ {last : Intake Sender} {queue : List UInt8} {length : Nat},
        last.Sound number capacity 1 queue → last.Receives length → 1 ≤ length :=
      fun soundLast receives => (soundLast.exists_want receives).choose_spec.choose_spec.2.2.1
    rcases underway with polls | ⟨length, receives⟩
    · refine ⟨.inl polls, ?_⟩
      obtain ⟨last, length, reaches, receives⟩ :=
        soundLater.exists_receives Nat.zero_lt_one polls
      obtain ⟨queue'', soundLast, -⟩ := soundLater.polls Nat.zero_lt_one polls reaches
      exact ⟨last, length, reaches, some soundLast receives, receives⟩
    · have positive := some soundLater receives
      exact ⟨.inr ⟨length, positive, receives⟩, later, length, .refl, positive, receives⟩

end

end Sound

end Intake

/-! ## Producers -/

/-- The producer never asks for what its ring could never serve, and never crashes over it. -/
structure Outlet.Admissible (outlet : Outlet) (number capacity : Nat) : Prop where
  sturdy : outlet.producer.Sturdy
  alive : capacity ≤ GuardedRing.greatestSize → outlet.producer.crash = none
  asks : ∀ call, outlet.producer.call = some call → ∃ ringCall,
    call = .ring (.region number) ringCall ∧
      ringCall.request.rejection? capacity = none ∧
      (∀ text, ringCall.phase ≠ .finished (.rejected text)) ∧
      (ringCall.request = .measure ∨ ∃ data wait, ringCall.request = .produce data wait ∧
        1 ≤ data.length ∧ data.length ≤ capacity)

theorem Outlet.Sound.admissible {outlet : Outlet} {number capacity : Nat}
    (sound : outlet.Sound number capacity) (positive : 1 ≤ capacity) :
    outlet.Admissible number capacity where
  sturdy := sound.sturdy
  alive := sound.alive
  asks call running := by
    obtain ⟨⟨request, phase⟩, rfl, ⟨admitted, unrejected⟩, supplies⟩ :=
      sound.undertakes call running
    refine ⟨_, rfl, admitted, ?_, ?_⟩
    · rintro text rfl
      exact unrejected text rfl
    · cases request with
      | produce data wait =>
          obtain ⟨some, few⟩ := supplies
          exact .inr ⟨data, wait, rfl, some, by omega⟩
      | consume length wait => exact supplies.elim
      | measure => exact .inl rfl

/-- Whatever the chunks and the limit, and whatever happens in between, the transfers at both
ends of a ring can be served: at once for the only consumer, and as soon as there is space for
a producer. -/
theorem Intake.requests_admissible {Sender : Type} [DecidableEq Sender] {number : Nat}
    {host : Host} {guarded : GuardedRing} {source : List UInt8} {config : Config}
    {output : Option String} {limit : Option Nat} {chunk : Nat} {intake : Intake Sender}
    (present : host.guarded? (.region number) = some guarded)
    (represents : guarded.ring.Represents source) (free : guarded.monitor.lock = .free)
    (some : 1 ≤ chunk)
    (reaches : Relation.ReflTransGen (Step number)
      ⟨host, .consume config output limit chunk, fun _ => none⟩ intake) :
    intake.Admissible number guarded.ring.capacity ∧
      ∀ (start : Host) (config : Config) (input : Option String) (chunk : Nat)
        (standardInput : List UInt8) (outlet : Outlet), 1 ≤ chunk →
        Outlet.Fits start number guarded.ring.capacity →
        Relation.ReflTransGen (Outlet.Step number guarded.ring.capacity)
          ⟨start, .produce config input chunk standardInput⟩ outlet →
        outlet.Admissible number guarded.ring.capacity := by
  constructor
  · obtain ⟨queue, sound⟩ :=
      (sound_consume present represents free config output limit some).steps reaches
    exact sound.admissible
  · intro start config input chunk standardInput outlet some fits goesOn
    have positive : 1 ≤ guarded.ring.capacity := represents.capacity_pos
    have begun := Outlet.sound_produce fits config input some standardInput
    exact (begun.steps positive goesOn).admissible positive

/-! ## A producer that sleeps -/

namespace Intake

def dock : Host := Host.fresh.place "a" (.file [])

def harbour : Host := { dock with memory := ⟨dock.files, ⟨[Region.new 2 3 0o600]⟩⟩ }

def moored : Host := { dock with memory := ⟨dock.files, ⟨[(Region.new 2 3 0o600).joined]⟩⟩ }

theorem connect_harbour : Transport.connect harbour (.sharedMemory "a" 3) .consumer =
    (.ok ⟨.sharedMemory "a" 3, .consumer, .segment ⟨"a", 0, false, true⟩⟩, moored) := by
  rfl

theorem connect_dock : Transport.connect dock (.sharedMemory "a" 3) .producer =
    (.ok ⟨.sharedMemory "a" 3, .producer, .segment ⟨"a", 0, true, true⟩⟩, harbour) := by
  rfl

/-- The ring is full and a producer of one byte sleeps, while a consumer is about to count. -/
theorem exists_sleeper : ∃ intake : Intake Unit,
    Relation.ReflTransGen (Step 0)
      ⟨harbour, .consume (.sharedMemory "a" 3) none none 5, fun _ => none⟩ intake ∧
      intake.SleepsForSpace 0 () ∧ intake.Polls ∧ intake.consumer.call = none := by
  have connects : (Party.consume (.sharedMemory "a" 3) none none 5).step harbour =
      some (moored, { Party.consume (.sharedMemory "a" 3) none none 5 with
        program := .consume ⟨.sharedMemory "a" 3, none, none, 5, .empty, .creatingOutput⟩
        transport := some
          ⟨.sharedMemory "a" 3, .consumer, .segment ⟨"a", 0, false, true⟩⟩ }) := by
    let begun := Consumption.start (.sharedMemory "a" 3) none none 5
    have turn : begun.turn =
        .ask (.connect (.sharedMemory "a" 3) .consumer) begun.connected := rfl
    rw [Party.step_consume rfl rfl turn]
    simp only [Party.serve, Party.connect, connect_harbour]
    rfl
  have joins : ∀ transport : Transport,
      some ⟨.sharedMemory "a" 3, .consumer, .segment ⟨"a", 0, false, true⟩⟩ = some transport →
        transport.Holds 0 := by
    rintro transport ⟨⟩
    exact ⟨_, rfl, rfl, rfl⟩
  have connected : Relation.ReflTransGen (Step 0)
      (⟨harbour, .consume (.sharedMemory "a" 3) none none 5, fun _ => none⟩ : Intake Unit) _ :=
    .single (.consume moored _ connects joins)
  have created := connected.tail (.consume _ _ rfl joins)
  have counting := created.tail (.consume _ _ rfl joins)
  have sending := counting.tail
    (.begin () (.produce [1, 2, 3] true) (by rintro call ⟨⟩) (by simp))
  have sent := sending.trans (.head (.advance () _ _ _ _ rfl rfl rfl)
    (.head (.advance () _ _ _ _ rfl rfl rfl) (.head (.advance () _ _ _ _ rfl rfl rfl)
      (.head (.advance () _ _ _ _ rfl rfl rfl) (.head (.advance () _ _ _ _ rfl rfl rfl)
        (.head (.advance () _ _ _ _ rfl rfl rfl)
          (.single (.advance () _ _ _ _ rfl rfl rfl))))))))
  have again := sent.tail
    (.begin () (.produce [4] true) (by rintro call ⟨⟩; exact ⟨_, rfl⟩) (by simp))
  have asleep := again.trans (.head (.advance () _ _ _ _ rfl rfl rfl)
    (.head (.advance () _ _ _ _ rfl rfl rfl) (.single (.advance () _ _ _ _ rfl rfl rfl))))
  exact ⟨_, asleep, ⟨_, _, _, rfl, rfl⟩, ⟨_, rfl⟩, rfl⟩

theorem fits_dock : Outlet.Fits dock 0 3 := by
  have nowhere : dock.guarded? (.region 0) = none := rfl
  intro guarded present
  rw [nowhere] at present
  cases present

theorem exists_supplier : ∃ outlet : Outlet,
    Relation.ReflTransGen (Outlet.Step 0 3)
      ⟨dock, .produce (.sharedMemory "a" 3) none 5 [1, 2, 3]⟩ outlet ∧
      outlet.producer.call = some (.ring (.region 0) (.start (.produce [1] true))) := by
  have fits : Outlet.Fits harbour 0 3 := by
    rintro guarded ⟨⟩
    rfl
  have joins : ∀ transport : Transport,
      some ⟨.sharedMemory "a" 3, .producer, .segment ⟨"a", 0, true, true⟩⟩ = some transport →
        transport.Holds 0 ∧ (harbour.guarded? (.region 0)).isSome = true := by
    rintro transport ⟨⟩
    exact ⟨⟨_, rfl, rfl, rfl⟩, rfl⟩
  have connects : ({ Party.produce (.sharedMemory "a" 3) none 5 [1, 2, 3] with
        program := .produce ⟨.sharedMemory "a" 3, none, 5, .empty, .connecting⟩ } :
        Party).step dock = some (harbour,
      { Party.produce (.sharedMemory "a" 3) none 5 [1, 2, 3] with
        program := .produce ⟨.sharedMemory "a" 3, none, 5, .empty, .allocating 1⟩
        transport := some
          ⟨.sharedMemory "a" 3, .producer, .segment ⟨"a", 0, true, true⟩⟩ }) := by
    rw [Party.step_produce rfl rfl rfl]
    simp only [Party.serve, Party.connect, connect_dock]
    rfl
  have opened : Relation.ReflTransGen (Outlet.Step 0 3)
      ⟨dock, .produce (.sharedMemory "a" 3) none 5 [1, 2, 3]⟩ _ :=
    .single (.produce dock _ rfl fits_dock (by rintro transport ⟨⟩))
  have connected := opened.tail (.produce harbour _ connects fits joins)
  have allocated := connected.tail (.produce _ _ rfl fits joins)
  have read := allocated.tail (.produce _ _ rfl fits joins)
  exact ⟨_, read.tail (.produce _ _ rfl fits joins), rfl⟩

theorem requests_admissible_of_three_bytes : ∃ (intake : Intake Unit) (outlet : Outlet),
    (intake.SleepsForSpace 0 () ∧ intake.Admissible 0 3 ∧
        ∃ last length, Relation.ReflTransGen (PollStep 0) intake last ∧ 1 ≤ length ∧
          last.Receives length) ∧
      outlet.producer.call = some (.ring (.region 0) (.start (.produce [1] true))) ∧
      outlet.Admissible 0 3 := by
  obtain ⟨intake, reaches, sleeps, polls, idle⟩ := exists_sleeper
  obtain ⟨outlet, goesOn, sends⟩ := exists_supplier
  have empty : (GuardedRing.new 3 true).ring.Represents [] := Ring.represents_empty (by decide)
  obtain ⟨admissible, supplies⟩ := requests_admissible rfl empty rfl (by decide) reaches
  have undecided : intake.Undecided := by
    intro call running
    simp [callers, idle, Call.onRing?] at running
  obtain ⟨-, ends⟩ := admissible.polls () sleeps polls undecided intake .refl
  exact ⟨intake, outlet, ⟨sleeps, admissible, ends⟩, sends,
    supplies dock _ none 5 [1, 2, 3] outlet (by decide) fits_dock goesOn⟩

end Intake

end BoundedStream
