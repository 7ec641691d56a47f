import BoundedStream.Proofs.Host.Holding
import BoundedStream.Proofs.Party.Pursuit
import BoundedStream.Proofs.Ring.Solo
import Mathlib.Logic.Relation

/-!
# Looking for the end of a stream

A consumer that finds its ring empty looks for the end of the stream in two steps: it
counts the bytes that are held, and then it counts the handles.  Beside it a producer may
send what it likes and give its endpoint up at any time.  What the producer sends between
the two steps is not seen by either of them: it is exactly what is lost at the end.
-/

namespace BoundedStream

/-- Whether a consumer looks for more bytes or the end of the stream. -/
def ConsumePhase.isLooking : ConsumePhase → Bool
  | counting _ | observing _ | resting _ => true
  | _ => false

/-- A consumer that looks for the end of its stream, beside a producer. -/
structure Lookout where
  host : Host
  consumer : Party
  /-- The endpoint of the producer, until it is given up. -/
  producer : Option Transport
  /-- The transfer that the producer makes. -/
  transfer : Option Call
  /-- The bytes that were put in the ring since the consumer last counted them. -/
  since : List UInt8

namespace Lookout

/-- The calls on the ring. -/
def calls (scene : Lookout) : Role → Option RingCall
  | .producer => Call.onRing? scene.transfer
  | .consumer => Call.onRing? scene.consumer.call

/-- The bytes since the last count after a step of the consumer. -/
def sinceCount (scene : Lookout) (consumer : Party) : List UInt8 :=
  match Call.effect? scene.consumer.call consumer.call with
  | some (_, .measured _) => []
  | _ => scene.since

/-- Everything that may happen while the consumer looks for the end. -/
inductive Step : Lookout → Lookout → Prop
  | look {scene : Lookout} (phase : ConsumePhase) (host : Host) (consumer : Party)
      (isPhase : scene.consumer.consumePhase? = some phase) (looking : phase.isLooking = true)
      (stepped : scene.consumer.step scene.host = some (host, consumer)) :
      Step scene { scene with host, consumer, since := scene.sinceCount consumer }
  | offer {scene : Lookout} (transport : Transport) (data : List UInt8) (call : Call)
      (opened : scene.producer = some transport) (idle : scene.transfer = none)
      (begins : transport.produceCall? data = some call) :
      Step scene { scene with transfer := some call }
  | advance {scene : Lookout} (host : Host) (call call' : Call)
      (running : scene.transfer = some call)
      (stepped : call.step scene.host = some (host, call')) :
      Step scene
        { scene with
          host
          transfer := some call'
          since := scene.since ++ Call.put (some call) (some call') }
  | conclude {scene : Lookout} (call : Call) (outcome : Outcome)
      (running : scene.transfer = some call) (finished : call.outcome? = some outcome) :
      Step scene { scene with transfer := none }
  | release {scene : Lookout} (transport : Transport)
      (opened : scene.producer = some transport) (idle : scene.transfer = none) :
      Step scene { scene with host := transport.close scene.host, producer := none }

/-- The consumer ends its stream for want of bytes. -/
def Ends (scene later : Lookout) : Prop :=
  Step scene later ∧ (∃ want, scene.consumer.consumePhase? = some (.observing want)) ∧
    later.consumer.consumePhase? = some .flushing

/-! ## What is known meanwhile -/

/-- What a consumer has learned of the queue in its phase. -/
inductive Learned (number : Nat) (since queue : List UInt8) :
    ConsumePhase → Option Call → Prop
  | counting (want : Nat) (call : Option Call)
      (undecided : ∀ other, call = some other → ∃ phase : RingPhase,
        other = .ring (.region number) ⟨.measure, phase⟩ ∧ phase.decided? = none) :
      Learned number since queue (.counting want) call
  | counted (want : Nat) (phase : RingPhase) (old : List UInt8)
      (decided : phase.decided? = some (.measured old.length)) (more : queue = old ++ since) :
      Learned number since queue (.counting want)
        (some (.ring (.region number) ⟨.measure, phase⟩))
  | observing (want : Nat) (more : queue = since) :
      Learned number since queue (.observing want) none
  | resting (want : Nat) : Learned number since queue (.resting want) none
  | past (phase : ConsumePhase) (done : phase.isLooking = false) :
      Learned number since queue phase none

/-- A consumer that is counting has no other call than that of the count. -/
theorem Learned.counts {number want : Nat} {since queue : List UInt8} {call : Call}
    (learned : Learned number since queue (.counting want) (some call)) :
    ∃ phase, call = .ring (.region number) ⟨.measure, phase⟩ ∧
      (phase.decided? = none ∨
        ∃ old, phase.decided? = some (.measured old.length) ∧ queue = old ++ since) := by
  cases learned with
  | counting _ _ undecided =>
      obtain ⟨phase, isCall, undecided⟩ := undecided call rfl
      exact ⟨phase, isCall, .inl undecided⟩
  | counted _ phase old decided more => exact ⟨phase, rfl, .inr ⟨old, decided, more⟩⟩

theorem Learned.isCount {number want : Nat} {since queue : List UInt8} {call : Option Call}
    (learned : Learned number since queue (.counting want) call) :
    Call.Counts number call := by
  rintro other rfl
  obtain ⟨phase, isCall, undecided | ⟨old, decided, -⟩⟩ := learned.counts
  · refine ⟨phase, isCall, fun outcome decided => ?_⟩
    rw [undecided] at decided
    cases decided
  · refine ⟨phase, isCall, fun outcome decided' => ?_⟩
    rw [decided] at decided'
    cases decided'
    exact ⟨old.length, rfl⟩

/-- A count that takes effect counts all of the queue. -/
private theorem learned_of_count {number want : Nat} {since queue : List UInt8}
    {phase phase' : RingPhase}
    (known : phase.decided? = none ∨
      ∃ old, phase.decided? = some (.measured old.length) ∧ queue = old ++ since)
    (effect : phase'.decided? = phase.decided? ∨
      phase.decided? = none ∧ phase'.decided? = some (.measured queue.length)) :
    Learned number
      (match Call.effect? (some (.ring (.region number) ⟨.measure, phase⟩))
        (some (.ring (.region number) ⟨.measure, phase'⟩)) with
      | some (_, .measured _) => []
      | _ => since)
      queue (.counting want) (some (.ring (.region number) ⟨.measure, phase'⟩)) := by
  rcases effect with same | ⟨undecided, decided⟩
  · rw [Call.effect?_of_same same]
    rcases known with undecided | ⟨old, decided, more⟩
    · refine .counting want _ ?_
      rintro other ⟨⟩
      exact ⟨phase', rfl, same.trans undecided⟩
    · exact .counted want phase' old (same.trans decided) more
  · rw [Call.effect?_of_decided undecided decided]
    exact .counted want phase' queue decided (List.append_nil queue).symm

theorem Learned.observes {number want : Nat} {since queue : List UInt8} {call : Option Call}
    (learned : Learned number since queue (.observing want) call) :
    call = none ∧ queue = since := by
  cases learned with
  | observing _ more => exact ⟨rfl, more⟩
  | past _ done => cases done

theorem Learned.rests {number want : Nat} {since queue : List UInt8} {call : Option Call}
    (learned : Learned number since queue (.resting want) call) : call = none := by
  cases learned <;> rfl

/-- The ring is attended by both sides, and each does only its part. -/
structure Sound (scene : Lookout) (number : Nat) (queue : List UInt8) : Prop where
  region : ∃ region, scene.host.region? number = some region ∧
    region.guarded.Attended scene.calls queue ∧
    region.references = if scene.producer.isSome then 2 else 1
  consumer : ∃ consumption transport, scene.consumer.program = .consume consumption ∧
    scene.consumer.crash = none ∧ scene.consumer.transport = some transport ∧
    transport.Holds number ∧
    Learned number scene.since queue consumption.phase scene.consumer.call
  producer : ∀ transport, scene.producer = some transport → transport.Holds number
  transfer : ∀ call, scene.transfer = some call → scene.producer.isSome = true ∧
    ∃ data phase, call = .ring (.region number) ⟨.produce data true, phase⟩

variable {scene later : Lookout} {number : Nat} {queue : List UInt8}

private theorem calls_look (host : Host) (consumer : Party) (since : List UInt8) :
    ({ scene with host, consumer, since } : Lookout).calls =
      Function.update scene.calls .consumer (Call.onRing? consumer.call) := by
  funext role
  cases role <;> rfl

private theorem calls_transfer (host : Host) (transfer : Option Call) (since : List UInt8) :
    ({ scene with host, transfer, since } : Lookout).calls =
      Function.update scene.calls .producer (Call.onRing? transfer) := by
  funext role
  cases role <;> rfl

private theorem Sound.goOn (sound : scene.Sound number queue) (next : Consumption)
    (outside : ∀ call, Call.onRing? scene.consumer.call = some call →
      call.phase.holds = false)
    (learned : Learned number scene.since queue next.phase none) :
    ({ scene with
      consumer := scene.consumer.goOn (.consume next)
      since := scene.sinceCount (scene.consumer.goOn (.consume next)) } : Lookout).Sound
        number queue := by
  obtain ⟨region, found, attended, references⟩ := sound.region
  obtain ⟨consumption, transport, isProgram, alive, opened, holds, -⟩ := sound.consumer
  have unchanged : scene.sinceCount (scene.consumer.goOn (.consume next)) = scene.since := by
    simp only [sinceCount, Party.goOn, Call.effect?, Option.bind_none]
    cases scene.consumer.call.bind Call.decided? <;> rfl
  rw [unchanged]
  refine ⟨⟨region, found, ?_, references⟩, ?_, sound.producer, sound.transfer⟩
  · have replaced := attended.replace .consumer none outside (by simp)
    rw [calls_look scene.host]
    exact replaced
  · exact ⟨next, transport, rfl, alive, opened, holds, learned⟩

/-- The consumer begins to count, or goes on with it. -/
private theorem Sound.count (sound : scene.Sound number queue) {host : Host}
    {consumer : Party} {want : Nat} {consumption : Consumption} {transport : Transport}
    (isProgram : scene.consumer.program = .consume consumption)
    (alive : scene.consumer.crash = none)
    (opened : scene.consumer.transport = some transport) (holds : transport.Holds number)
    (isPhase : consumption.phase = .counting want)
    (learned : Learned number scene.since queue (.counting want) scene.consumer.call)
    (stepped : scene.consumer.step scene.host = some (host, consumer)) :
    ({ scene with host, consumer, since := scene.sinceCount consumer } : Lookout).Sound
      number queue := by
  obtain ⟨region, found, attended, references⟩ := sound.region
  have turn : consumption.turn = .ask .countPending (consumption.pendingCounted want) := by
    simp only [Consumption.turn, isPhase]
  rw [Party.step_consume isProgram alive turn] at stepped
  simp only [Party.serve] at stepped
  cases Party.counting_of_pursue opened holds.pendingCall?_eq learned.isCount stepped with
  | begin idle =>
      have replaced := attended.replace .consumer (some (.start .measure))
        (by simp [calls, idle, Call.onRing?]) (by simp [RingCall.start])
      refine ⟨⟨region, found, ?_, references⟩, ?_, sound.producer, sound.transfer⟩
      · rw [calls_look scene.host]
        exact replaced
      · refine ⟨consumption, transport, isProgram, alive, opened, holds, ?_⟩
        rw [isPhase]
        refine .counting want _ ?_
        rintro other ⟨⟩
        exact ⟨.arriving, rfl, rfl⟩
  | advance phase call' guarded guarded' running present ringStep =>
      rw [Host.guarded?_region found] at present
      cases present
      rw [running] at learned
      obtain ⟨_, isCall, known⟩ := learned.counts
      cases isCall
      have isCalled : scene.calls .consumer = some ⟨.measure, phase⟩ := by
        simp [calls, running, Call.onRing?]
      obtain ⟨sameRequest, queue', attended', took⟩ := attended.step isCalled ringStep
      obtain ⟨rfl, effect⟩ := took.of_measure
      obtain ⟨request', phase'⟩ := call'
      cases sameRequest
      refine ⟨⟨_, Host.region?_setGuarded_self found guarded', ?_, references⟩, ?_,
        sound.producer, sound.transfer⟩
      · rw [calls_look]
        exact attended'
      · refine ⟨consumption, transport, isProgram, alive, opened, holds, ?_⟩
        rw [isPhase]
        simp only [sinceCount, running]
        exact learned_of_count known effect
  | answer pending running =>
      rw [running] at learned
      obtain ⟨phase, isCall, known⟩ := learned.counts
      cases isCall
      rcases known with undecided | ⟨old, decided, more⟩
      · cases undecided
      · cases decided
        refine sound.goOn _ (by simp [running, Call.onRing?, RingPhase.holds]) ?_
        cases old with
        | nil => exact .observing want more
        | cons byte rest => exact .past _ rfl

/-- Looking does not touch the queue, and what it learns stays true. -/
theorem Sound.look (sound : scene.Sound number queue) {phase : ConsumePhase} {host : Host}
    {consumer : Party} (isPhase : scene.consumer.consumePhase? = some phase)
    (looking : phase.isLooking = true)
    (stepped : scene.consumer.step scene.host = some (host, consumer)) :
    ({ scene with host, consumer, since := scene.sinceCount consumer } : Lookout).Sound
      number queue := by
  obtain ⟨consumption, transport, isProgram, alive, opened, holds, learned⟩ := sound.consumer
  have samePhase : consumption.phase = phase := by
    simpa [Party.consumePhase?, isProgram] using isPhase
  rw [samePhase] at learned
  cases phase with
  | counting want =>
      exact sound.count isProgram alive opened holds samePhase learned stepped
  | observing want =>
      have turn : consumption.turn =
          .ask .countReferences (consumption.referencesCounted want) := by
        simp only [Consumption.turn, samePhase]
      rw [Party.step_consume isProgram alive turn] at stepped
      cases stepped
      obtain ⟨idle, -⟩ := learned.observes
      refine sound.goOn _ (by simp [idle, Call.onRing?]) ?_
      unfold Consumption.referencesCounted
      split
      · exact .past _ rfl
      · exact .resting want
  | resting want =>
      have turn : consumption.turn =
          .ask .pause fun _ => consumption.goTo (.counting want) := by
        simp only [Consumption.turn, samePhase]
      rw [Party.step_consume isProgram alive turn] at stepped
      cases stepped
      have idle := learned.rests
      refine sound.goOn _ (by simp [idle, Call.onRing?]) (.counting want none ?_)
      rintro other ⟨⟩
  | _ => cases looking

theorem Learned.append {phase : ConsumePhase} {since : List UInt8} {call : Option Call}
    (learned : Learned number since queue phase call) (data : List UInt8) :
    Learned number (since ++ data) (queue ++ data) phase call := by
  cases learned with
  | counting want call undecided => exact .counting want call undecided
  | counted want phase old decided more =>
      exact .counted want phase old decided (by rw [more, List.append_assoc])
  | observing want more => exact .observing want (by rw [more])
  | resting want => exact .resting want
  | past phase done => exact .past phase done

/-- Whatever the producer does, the ring is attended, and what it sends joins the bytes
that the consumer has not counted. -/
theorem Sound.step (sound : scene.Sound number queue) (step : Step scene later) :
    ∃ queue', later.Sound number queue' := by
  cases step with
  | look phase host consumer isPhase looking stepped =>
      exact ⟨queue, sound.look isPhase looking stepped⟩
  | offer transport data call opened idle begins =>
      obtain ⟨region, found, attended, references⟩ := sound.region
      have nonempty : data ≠ [] := by
        rintro rfl
        simp [Transport.produceCall?] at begins
      rw [(sound.producer transport opened).produceCall?_eq nonempty] at begins
      cases begins
      have replaced := attended.replace .producer (some (.start (.produce data true)))
        (by simp [calls, idle, Call.onRing?]) (by simp [RingCall.start])
      refine ⟨queue, ⟨region, found, ?_, references⟩, sound.consumer, sound.producer, ?_⟩
      · rw [calls_transfer scene.host _ scene.since]
        exact replaced
      · rintro other ⟨⟩
        exact ⟨by rw [opened]; rfl, data, .arriving, rfl⟩
  | advance host call call' running stepped =>
      obtain ⟨region, found, attended, references⟩ := sound.region
      obtain ⟨open?, data, phase, rfl⟩ := sound.transfer call running
      obtain ⟨guarded, guarded', ringCall, present, ringStep, rfl, rfl⟩ :=
        Call.step_ring_eq_some stepped
      rw [Host.guarded?_region found] at present
      cases present
      have isCalled : scene.calls .producer = some ⟨.produce data true, phase⟩ := by
        simp [calls, running, Call.onRing?]
      obtain ⟨sameRequest, queue', attended', took⟩ := attended.step isCalled ringStep
      obtain ⟨request', phase'⟩ := ringCall
      cases sameRequest
      have added := Call.eq_append_put (.region number) took
      refine ⟨queue', ⟨_, Host.region?_setGuarded_self found guarded', ?_, references⟩, ?_,
        sound.producer, ?_⟩
      · rw [calls_transfer]
        exact attended'
      · obtain ⟨consumption, transport, isProgram, alive, opened, holds, learned⟩ :=
          sound.consumer
        refine ⟨consumption, transport, isProgram, alive, opened, holds, ?_⟩
        rw [added]
        exact learned.append _
      · rintro other ⟨⟩
        exact ⟨open?, data, phase', rfl⟩
  | conclude call outcome running finished =>
      obtain ⟨region, found, attended, references⟩ := sound.region
      obtain ⟨-, data, phase, rfl⟩ := sound.transfer call running
      have outside : ∀ ringCall, scene.calls .producer = some ringCall →
          ringCall.phase.holds = false := by
        intro ringCall isCalled
        simp only [calls, running, Call.onRing?, Option.some.injEq] at isCalled
        subst isCalled
        rw [Call.outcome?_ring] at finished
        cases phase <;> first | rfl | cases finished
      refine ⟨queue, ⟨region, found, ?_, references⟩, sound.consumer, sound.producer, ?_⟩
      · rw [calls_transfer scene.host none scene.since]
        exact attended.replace .producer none outside (by simp)
      · rintro other ⟨⟩
  | release transport opened idle =>
      obtain ⟨region, found, attended, references⟩ := sound.region
      rw [opened] at references
      have counted : region.references - 1 = 1 := by
        rw [references, Option.isSome_some, if_pos rfl]
        rfl
      rw [(sound.producer transport opened).close_eq found]
      refine ⟨queue, ⟨_, Host.region?_updateRegion_self found _, ?_, ?_⟩, sound.consumer, ?_,
        ?_⟩
      · rw [Region.guarded_leave]
        exact attended
      · rw [Region.leave_eq, counted]
        exact counted
      · rintro other ⟨⟩
      · intro call running
        rw [idle] at running
        cases running

theorem Sound.steps (sound : scene.Sound number queue)
    (reaches : Relation.ReflTransGen Step scene later) :
    ∃ queue', later.Sound number queue' := by
  induction reaches with
  | refl => exact ⟨queue, sound⟩
  | tail _ step hypothesis =>
      obtain ⟨queue', sound'⟩ := hypothesis
      exact sound'.step step

/-! ## The end of the stream -/

/-- A consumer ends its stream exactly over the bytes that it has not counted. -/
theorem Sound.ends (sound : scene.Sound number queue) (ends : scene.Ends later) :
    scene.producer = none ∧ ∃ guarded, later.host.guarded? (.region number) = some guarded ∧
      guarded.ring.contents = scene.since := by
  obtain ⟨step, ⟨want, observes⟩, flushes⟩ := ends
  cases step with
  | look phase host consumer isPhase looking stepped =>
      obtain ⟨consumption, transport, isProgram, alive, opened, holds, learned⟩ :=
        sound.consumer
      obtain ⟨region, found, attended, references⟩ := sound.region
      have isObserving : consumption.phase = .observing want := by
        simpa [Party.consumePhase?, isProgram] using observes
      have turn : consumption.turn =
          .ask .countReferences (consumption.referencesCounted want) := by
        simp only [Consumption.turn, isObserving]
      rw [Party.step_consume isProgram alive turn] at stepped
      cases stepped
      rw [isObserving] at learned
      obtain ⟨-, rfl⟩ := learned.observes
      have counted : scene.consumer.references? scene.host = some region.references := by
        simp [Party.references?, opened, holds.references?_eq found]
      refine ⟨?_, region.guarded, Host.guarded?_region found, attended.represents.contents_eq⟩
      by_contra isOpen
      have shown : Consumption.showsEnd (some region.references) = false := by
        rw [references, if_pos (Option.isSome_iff_ne_none.mpr isOpen)]
        rfl
      simp [Party.consumePhase?, Party.goOn, Consumption.referencesCounted, counted, shown,
        Consumption.goTo] at flushes
  | _ =>
      have same := observes.symm.trans flushes
      cases same

/-- The call of the producer may go on until it rests, while the consumer waits. -/
private theorem steps_of_rests (scene : Lookout) {count : Nat} {guarded guarded' : GuardedRing}
    {call call' : RingCall} (rests : call.Rests count guarded guarded' call')
    {region : Region} (found : scene.host.region? number = some region)
    (isRing : region.guarded = guarded)
    (running : scene.transfer = some (.ring (.region number) call)) :
    ∃ host since, Relation.ReflTransGen Step scene
        { scene with host, transfer := some (.ring (.region number) call'), since } ∧
      host.region? number = some { region with guarded := guarded' } := by
  induction rests generalizing scene region with
  | here stuck =>
      refine ⟨scene.host, scene.since, ?_, ?_⟩
      · rw [← running]
      · rw [found, ← isRing]
  | @after _ guarded guarded' _ call call' _ stepped rests hypothesis =>
      subst isRing
      have stepped' : (Call.ring (.region number) call).step scene.host =
          some (scene.host.setGuarded (.region number) guarded',
            .ring (.region number) call') := by
        simp [Call.step, Host.guarded?_region found, stepped]
      have first : Step scene _ := .advance _ _ _ running stepped'
      obtain ⟨host, since, later, foundLater⟩ := @hypothesis
        { scene with
          host := scene.host.setGuarded (.region number) guarded'
          transfer := some (.ring (.region number) call')
          since := scene.since ++ _ } _
        (Host.region?_setGuarded_self found guarded') rfl rfl
      exact ⟨host, since, .head first later, foundLater⟩

/-- A producer that sends once more and leaves while the consumer is between its two looks
makes it end the stream over those bytes. -/
theorem Sound.exists_losing_run (sound : scene.Sound number queue) {want : Nat}
    (observes : scene.consumer.consumePhase? = some (.observing want))
    {transport : Transport} (opened : scene.producer = some transport)
    (idle : scene.transfer = none) {data : List UInt8} (nonempty : data ≠ [])
    {guarded : GuardedRing} (present : scene.host.guarded? (.region number) = some guarded)
    (fits : scene.since.length + data.length ≤ guarded.ring.capacity) :
    ∃ last later, Relation.ReflTransGen Step scene last ∧ last.Ends later ∧
      last.since = scene.since ++ data := by
  obtain ⟨region, found, attended, references⟩ := sound.region
  obtain ⟨consumption, endpoint, isProgram, alive, endpointOpened, holds, learned⟩ :=
    sound.consumer
  have isObserving : consumption.phase = .observing want := by
    simpa [Party.consumePhase?, isProgram] using observes
  rw [isObserving] at learned
  obtain ⟨consumerIdle, rfl⟩ := learned.observes
  rw [Host.guarded?_region found] at present
  cases present
  -- Nobody has the mutex, so the transfer runs through.
  have free : region.guarded.monitor.lock = .free := by
    refine attended.lock_free fun role call isCalled => ?_
    cases role <;> simp [calls, idle, consumerIdle, Call.onRing?] at isCalled
  have admitted : (RingRequest.produce data true).rejection? region.guarded.ring.capacity =
      none := by
    have small : data.length ≤ region.guarded.ring.capacity := by omega
    exact RingRequest.rejection?_eq_none (List.length_pos_iff.mpr nonempty) small
  have settles := RingCall.settles_start attended.represents free admitted
  simp only [RingCall.Settles, RingCall.start, RingRequest.serve?, if_pos fits] at settles
  obtain ⟨count, -, guarded', rests, follows⟩ := settles
  have begins := (sound.producer transport opened).produceCall?_eq nonempty
  obtain ⟨host, since, transfers, foundLater⟩ := steps_of_rests
    { scene with transfer := some (.ring (.region number) (.start (.produce data true))) }
    rests found rfl rfl
  have closed := (sound.producer transport opened).close_eq foundLater
  have reaches : Relation.ReflTransGen Step scene
      { scene with
        host := transport.close host, transfer := none, since, producer := none } := by
    refine .head (.offer transport data _ opened idle begins) (.trans transfers ?_)
    exact .head (.conclude _ _ rfl rfl) (.single (.release transport opened rfl))
  obtain ⟨queue', soundLast⟩ := sound.steps reaches
  obtain ⟨regionLast, foundLast, attendedLast, referencesLast⟩ := soundLast.region
  have turn : consumption.turn =
      .ask .countReferences (consumption.referencesCounted want) := by
    simp only [Consumption.turn, isObserving]
  have counted : scene.consumer.references? (transport.close host) = some 1 := by
    simp only [Party.references?, endpointOpened, Option.bind_some]
    rw [holds.references?_eq foundLast, referencesLast]
    rfl
  have stepped : scene.consumer.step (transport.close host) = some (transport.close host,
      scene.consumer.goOn (.consume (consumption.goTo .flushing))) := by
    rw [Party.step_consume isProgram alive turn]
    simp only [Party.serve, counted]
    rfl
  refine ⟨_, _, reaches, ⟨.look _ _ _ observes rfl stepped, ⟨want, observes⟩, rfl⟩, ?_⟩
  -- The ring was seen to hold the bytes when they had been sent.
  obtain ⟨consumptionLast, -, isProgramLast, -, -, -, learnedLast⟩ := soundLast.consumer
  cases isProgram.symm.trans isProgramLast
  rw [isObserving] at learnedLast
  obtain ⟨-, rfl⟩ := learnedLast.observes
  rw [closed, Host.region?_updateRegion_self foundLater] at foundLast
  cases foundLast
  rw [Region.guarded_leave] at attendedLast
  exact attendedLast.represents.contents_eq.symm.trans follows.represents.contents_eq

/-! ## What is lost -/

/-- A consumer ends its stream over the bytes that were put in since it last counted, no
more and no fewer: over none exactly if there are none.  As long as the producer has not
left, any bytes that fit can be lost in this way. -/
theorem ends_over_since {start scene : Lookout} (sound : start.Sound number queue)
    (reaches : Relation.ReflTransGen Step start scene) :
    (∀ later, scene.Ends later → scene.producer = none ∧
        ∃ guarded, later.host.guarded? (.region number) = some guarded ∧
          guarded.ring.contents = scene.since) ∧
      ∀ want transport guarded data,
        scene.consumer.consumePhase? = some (.observing want) →
        scene.producer = some transport → scene.transfer = none →
        scene.host.guarded? (.region number) = some guarded →
        data ≠ [] → scene.since.length + data.length ≤ guarded.ring.capacity →
          ∃ last later, Relation.ReflTransGen Step scene last ∧ last.Ends later ∧
            ∃ guarded', later.host.guarded? (.region number) = some guarded' ∧
              guarded'.ring.contents = scene.since ++ data := by
  obtain ⟨queue', soundScene⟩ := sound.steps reaches
  refine ⟨fun later ends => soundScene.ends ends, ?_⟩
  intro want transport guarded data observes opened idle present nonempty fits
  obtain ⟨last, later, losing, ends, since⟩ :=
    soundScene.exists_losing_run observes opened idle nonempty present fits
  obtain ⟨queueLast, soundLast⟩ := soundScene.steps losing
  obtain ⟨-, guarded', presentLater, contents⟩ := soundLast.ends ends
  exact ⟨last, later, losing, ends, guarded', presentLater, contents.trans since⟩

/-- An empty ring of four bytes, a producer that has sent nothing yet, and a consumer that
is about to count. -/
def beforeCount : Lookout where
  host := { Host.fresh with memory := ⟨.fresh, ⟨[(Region.new 2 4 0o600).joined]⟩⟩ }
  consumer :=
    { Party.consume ⟨.sharedMemory, "k", 0o600, 4, 0⟩ none none 4 with
      program := .consume
        ⟨⟨.sharedMemory, "k", 0o600, 4, 0⟩, none, none, 4, .empty, .counting 4⟩
      transport := some ⟨⟨.sharedMemory, "k", 0o600, 4, 0⟩, .consumer,
        .segment ⟨"k", 0, false, true⟩⟩ }
  producer := some ⟨⟨.sharedMemory, "k", 0o600, 4, 0⟩, .producer,
    .segment ⟨"k", 0, true, true⟩⟩
  transfer := none
  since := []

theorem sound_beforeCount : beforeCount.Sound 0 [] where
  region := by
    refine ⟨_, rfl, .of_idle (Ring.represents_empty (by decide)) rfl ?_, rfl⟩
    rintro (_ | _) call ⟨⟩
  consumer := ⟨_, _, rfl, rfl, rfl, ⟨_, rfl, rfl, rfl⟩, .counting 4 none (by simp)⟩
  producer := by
    rintro transport ⟨⟩
    exact ⟨_, rfl, rfl, rfl⟩
  transfer := by
    rintro call ⟨⟩

/-- The consumer counts no bytes and is about to count the handles. -/
theorem exists_observing : ∃ scene, Relation.ReflTransGen Step beforeCount scene ∧
    scene.consumer.consumePhase? = some (.observing 4) ∧
    scene.producer = beforeCount.producer ∧ scene.transfer = none ∧ scene.since = [] ∧
    ∃ guarded, scene.host.guarded? (.region 0) = some guarded ∧
      guarded.ring.capacity = 4 := by
  refine ⟨_, .head (.look _ _ _ rfl rfl rfl) (.head (.look _ _ _ rfl rfl rfl)
    (.head (.look _ _ _ rfl rfl rfl) (.head (.look _ _ _ rfl rfl rfl)
      (.head (.look _ _ _ rfl rfl rfl) (.single (.look _ _ _ rfl rfl rfl)))))),
    rfl, rfl, rfl, rfl, _, rfl, rfl⟩

/-- The producer sends three bytes between the two looks of the consumer and leaves. -/
theorem ends_over_since_of_three_bytes :
    beforeCount.Sound 0 [] ∧ ∃ last later, Relation.ReflTransGen Step beforeCount last ∧
      last.Ends later ∧ ∃ guarded, later.host.guarded? (.region 0) = some guarded ∧
        guarded.ring.contents = [97, 98, 99] := by
  obtain ⟨scene, reaches, observes, opened, idle, since, guarded, present, capacity⟩ :=
    exists_observing
  have unseen := (ends_over_since sound_beforeCount reaches).2
  obtain ⟨last, later, losing, ends, guarded', presentLater, contents⟩ :=
    unseen 4 _ guarded [97, 98, 99] observes opened idle present (by decide)
      (by rw [since, capacity]; decide)
  rw [since] at contents
  exact ⟨sound_beforeCount, last, later, reaches.trans losing, ends, guarded', presentLater,
    contents⟩

/-- It is not true that a consumer never ends its stream over bytes in the ring. -/
theorem not_always_empty_at_end :
    ¬ ∀ start scene later number queue, Sound start number queue →
      Relation.ReflTransGen Step start scene → scene.Ends later →
        ∀ guarded, later.host.guarded? (.region number) = some guarded →
          guarded.ring.contents = [] := by
  intro always
  obtain ⟨scene, reaches, observes, opened, idle, since, guarded, present, capacity⟩ :=
    exists_observing
  obtain ⟨queue, sound⟩ := sound_beforeCount.steps reaches
  obtain ⟨last, later, losing, ends, lost⟩ :=
    sound.exists_losing_run observes opened idle (by decide : ([97, 98, 99] : List UInt8) ≠ []) present
      (by rw [since, capacity]; decide)
  obtain ⟨queueLast, soundLast⟩ := sound.steps losing
  obtain ⟨-, guarded', presentLater, contents⟩ := soundLast.ends ends
  have empty := always beforeCount last later 0 [] sound_beforeCount (reaches.trans losing)
    ends guarded' presentLater
  rw [contents, lost, since] at empty
  cases empty

end Lookout

end BoundedStream
