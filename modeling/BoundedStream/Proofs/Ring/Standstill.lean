import BoundedStream.Proofs.Program.Chunks
import BoundedStream.Proofs.Ring.Crowd
import BoundedStream.Proofs.Ring.Solo

/-!
# Standstills

A transfer is all or nothing, so a producer can sleep for space on a ring that is not full
while a consumer sleeps for data on the same ring, which is not empty.  They can do so only
if together they ask for two bytes more than the capacity; then the ring can hold too many
bytes for the one and too few for the other, and neither of them ever goes on.
-/

namespace BoundedStream

namespace RingRequest

/-- A request that waits asks for at most so many bytes. -/
def Within (sending receiving : Nat) : RingRequest → Prop
  | produce data true => data.length ≤ sending
  | consume length true => length ≤ receiving
  | _ => True

/-- A request that waits is a slice that a producer sends, or takes no more than a chunk. -/
def Chunked (capacity : Nat) : RingRequest → Prop
  | produce data true => Production.Slice capacity data
  | consume length true => length ≤ max 1 (capacity / 2)
  | _ => True

theorem within_of_chunked {capacity : Nat} {request : RingRequest}
    (chunked : request.Chunked capacity) :
    request.Within (max 1 (capacity / 2)) (max 1 (capacity / 2)) := by
  rcases request with ⟨data, _ | _⟩ | ⟨length, _ | _⟩ | _
  · trivial
  · exact (Production.slice_iff.mp chunked).2
  · trivial
  · exact chunked
  · trivial

end RingRequest

/-- Where a call is that goes to and fro between sleeping and testing. -/
def RingPhase.Waits : RingPhase → Prop
  | asleep _ | relocking | testing => True
  | _ => False

/-- A call that the queue cannot serve goes back to sleep, and leaves the ring as it is. -/
theorem RingCall.Step.waits_of_unserved {guarded guarded' : GuardedRing}
    {request : RingRequest} {phase phase' : RingPhase} {queue : List UInt8}
    (step : RingCall.Step guarded request phase guarded' phase')
    (waits : phase.Waits) (healthy : guarded.monitor.Healthy)
    (represents : guarded.ring.Represents queue)
    (unserved : request.serve? guarded.ring.capacity queue = none) :
    phase'.Waits ∧ guarded'.ring = guarded.ring := by
  cases step with
  | acquire phase wanting free => exact ⟨trivial, rfl⟩
  | lose phase wanting monitor error lost => exact (healthy.not_lost lost).elim
  | sleep moves lacks patient => exact ⟨trivial, rfl⟩
  | wake signals changed => exact ⟨trivial, rfl⟩
  | measure measures =>
      subst measures
      cases unserved
  | fit moves fits =>
      have lacks := RingRequest.serve?_eq_none_iff.mp unserved
      have room := (RingRequest.length_le_available_iff represents).mp fits
      cases request with
      | measure => exact absurd rfl moves
      | produce data wait => exact absurd room (by simpa using lacks.2)
      | consume length wait => exact absurd room (by simpa using lacks.2)
  | refuse moves lacks hastens =>
      have patient := RingRequest.serve?_eq_none_iff.mp unserved
      cases request with
      | measure => exact absurd rfl moves
      | produce data wait => simp [RingRequest.waits, patient.1] at hastens
      | consume length wait => simp [RingRequest.waits, patient.1] at hastens
  | _ => cases waits

namespace Crowd

section

variable {Caller : Type}

def Asks (crowd : Crowd Caller) (kind : RingRequest → Prop) : Prop :=
  ∀ caller call, crowd.calls caller = some call → kind call.request

/-- Somebody is sending and somebody is receiving, and all who have not finished sleep. -/
structure Standstill (crowd : Crowd Caller) : Prop where
  sends : ∃ caller data wait phase,
    crowd.calls caller = some ⟨.produce data wait, phase⟩ ∧
      ∀ outcome, phase ≠ .finished outcome
  receives : ∃ caller length wait phase,
    crowd.calls caller = some ⟨.consume length wait, phase⟩ ∧
      ∀ outcome, phase ≠ .finished outcome
  sleeps : ∀ caller request phase, crowd.calls caller = some ⟨request, phase⟩ →
    (∀ outcome, phase ≠ .finished outcome) →
      crowd.SleepsOn caller request.condition request

variable {crowd later : Crowd Caller} {origin : Ring} {source settled queue : List UInt8}

/-! ## Why everybody sleeps -/

theorem Standstill.unlocked (standstill : crowd.Standstill)
    (sound : crowd.Sound origin source settled queue) :
    crowd.guarded.monitor.lock = .free := by
  refine sound.attended.lock_free fun caller call running => ?_
  obtain ⟨request, phase⟩ := call
  by_cases unfinished : ∀ outcome, phase ≠ .finished outcome
  · obtain ⟨-, signals, asleep, -⟩ := standstill.sleeps caller request phase running unfinished
    rw [running] at asleep
    cases asleep
    rfl
  · push Not at unfinished
    obtain ⟨outcome, rfl⟩ := unfinished
    rfl

/-- A producer and a consumer that sleep at the same time ask for two bytes more than the
capacity: the one finds too many bytes in the ring, and the other finds too few. -/
theorem Sound.capacity_add_two_le (sound : crowd.Sound origin source settled queue)
    (unlocked : crowd.guarded.monitor.lock = .free) {sender receiver : Caller}
    {data : List UInt8} {length : Nat} {patient eager : Bool}
    (sending : crowd.SleepsOn sender .spaceAvailable (.produce data patient))
    (receiving : crowd.SleepsOn receiver .dataAvailable (.consume length eager)) :
    patient = true ∧ eager = true ∧ origin.capacity + 2 ≤ data.length + length := by
  have full := RingRequest.serve?_eq_none_iff.mp (sound.serve?_of_sleepsOn unlocked sending)
  have short := RingRequest.serve?_eq_none_iff.mp
    (sound.serve?_of_sleepsOn unlocked receiving)
  obtain ⟨isPatient, tooMany⟩ := full
  obtain ⟨isEager, tooFew⟩ := short
  rw [sound.capacity_ring] at tooMany
  exact ⟨isPatient, isEager, by omega⟩

theorem Sound.not_standstill (sound : crowd.Sound origin source settled queue)
    {sending receiving : Nat} (few : sending + receiving ≤ origin.capacity + 1)
    (asks : crowd.Asks (RingRequest.Within sending receiving)) : ¬ crowd.Standstill := by
  intro standstill
  obtain ⟨sender, data, patient, phase, sends, unfinished⟩ := standstill.sends
  obtain ⟨receiver, length, eager, other, receives, unanswered⟩ := standstill.receives
  have sleepsSender := standstill.sleeps sender _ phase sends unfinished
  have sleepsReceiver := standstill.sleeps receiver _ other receives unanswered
  obtain ⟨rfl, rfl, together⟩ := sound.capacity_add_two_le (standstill.unlocked sound)
    sleepsSender sleepsReceiver
  have short : data.length ≤ sending := asks sender _ sends
  have modest : length ≤ receiving := asks receiver _ receives
  omega

/-! ## Calls that wait for ever -/

/-- Every caller waits for what the queue does not have. -/
def Gridlock (crowd : Crowd Caller) (queue : List UInt8) : Prop :=
  ∀ caller, ∃ request phase, crowd.calls caller = some ⟨request, phase⟩ ∧ phase.Waits ∧
    request.serve? crowd.guarded.ring.capacity queue = none

/-- All calls go on for the same requests, and none of them has taken effect on the ring. -/
structure Stuck (crowd later : Crowd Caller) : Prop where
  ring_eq : later.guarded.ring = crowd.guarded.ring
  passages_eq : later.passages = crowd.passages
  waits : ∀ caller, ∃ request phase phase', crowd.calls caller = some ⟨request, phase⟩ ∧
    later.calls caller = some ⟨request, phase'⟩ ∧ phase'.Waits

theorem Gridlock.stuck_self (gridlock : crowd.Gridlock queue) : crowd.Stuck crowd where
  ring_eq := rfl
  passages_eq := rfl
  waits caller := by
    obtain ⟨request, phase, running, waits, -⟩ := gridlock caller
    exact ⟨request, phase, phase, running, running, waits⟩

theorem Gridlock.of_stuck (gridlock : crowd.Gridlock queue) (stuck : crowd.Stuck later) :
    later.Gridlock queue := by
  intro caller
  obtain ⟨request, phase, running, -, unserved⟩ := gridlock caller
  obtain ⟨request', before, after, running', stays, waits⟩ := stuck.waits caller
  rw [running] at running'
  cases running'
  exact ⟨request, after, stays, waits, by rw [stuck.ring_eq]; exact unserved⟩

variable [DecidableEq Caller]

private theorem Stuck.update (stuck : crowd.Stuck later) {guarded : GuardedRing}
    {caller : Caller} {request : RingRequest} {phase phase' : RingPhase}
    (sameRing : guarded.ring = later.guarded.ring)
    (running : later.calls caller = some ⟨request, phase⟩) (waits : phase'.Waits) :
    crowd.Stuck
      ⟨guarded, Function.update later.calls caller (some ⟨request, phase'⟩),
        later.passages⟩ where
  ring_eq := sameRing.trans stuck.ring_eq
  passages_eq := stuck.passages_eq
  waits other := by
    obtain ⟨request', before, after, began, stays, waitsOther⟩ := stuck.waits other
    by_cases same : other = caller
    · subst same
      rw [running] at stays
      cases stays
      exact ⟨request, before, phase', began, Function.update_self .., waits⟩
    · exact ⟨request', before, after, began,
        (Function.update_of_ne same _ _).trans stays, waitsOther⟩

theorem Stuck.step (stuck : crowd.Stuck later) (gridlock : crowd.Gridlock queue)
    (sound : later.Sound origin source settled queue) {next : Crowd Caller}
    (step : Step later next) : crowd.Stuck next := by
  have still := gridlock.of_stuck stuck
  cases step with
  | begin caller request idle =>
      -- Nobody is free to begin a call.
      obtain ⟨_, phase, running, waits, -⟩ := still caller
      obtain ⟨outcome, isFinished⟩ := idle _ running
      cases isFinished
      exact waits.elim
  | advance caller call call' guarded running stepped =>
      obtain ⟨sameRequest, step⟩ := RingCall.step_cases stepped
      obtain ⟨request, phase, isCall, waits, unserved⟩ := still caller
      rw [running] at isCall
      cases isCall
      obtain ⟨_, phase'⟩ := call'
      cases sameRequest
      obtain ⟨waits', sameRing⟩ := step.waits_of_unserved waits sound.attended.healthy
        sound.attended.represents unserved
      have silent : passageOf caller ⟨request, phase⟩ = [] := by
        cases phase <;> first | rfl | cases waits
      rw [silent, List.append_nil]
      exact stuck.update sameRing running waits'
  | rouse caller request signals sleeps => exact stuck.update rfl sleeps trivial

/-- Whoever waits for what a queue does not have, with nobody left to change it, waits for
ever. -/
theorem Gridlock.stuck (gridlock : crowd.Gridlock queue)
    (sound : crowd.Sound origin source settled queue)
    (reaches : Relation.ReflTransGen Step crowd later) : crowd.Stuck later := by
  suffices both : crowd.Stuck later ∧ ∃ settled, later.Sound origin source settled queue from
    both.1
  induction reaches with
  | refl => exact ⟨gridlock.stuck_self, settled, sound⟩
  | tail _ step hypothesis =>
      obtain ⟨stuck, settled', sound'⟩ := hypothesis
      -- The queue is carried along with the invariant, since the ring stays the same.
      have stuck' := stuck.step gridlock sound' step
      obtain ⟨settled'', queue', sound''⟩ := sound'.step step
      have same : queue' = queue := by
        rw [← sound''.attended.represents.contents_eq, stuck'.ring_eq, ← stuck.ring_eq,
          sound'.attended.represents.contents_eq]
      subst same
      exact ⟨stuck', settled'', sound''⟩

/-! ## How a crowd comes to a standstill -/

theorem steps_of_rests {count : Nat} {guarded guarded' : GuardedRing} {call call' : RingCall}
    (rests : call.Rests count guarded guarded' call') {caller : Caller}
    {calls : Caller → Option RingCall} (passages : List (Passage Caller))
    (running : calls caller = some call) :
    ∃ passages', Relation.ReflTransGen Step (⟨guarded, calls, passages⟩ : Crowd Caller)
      ⟨guarded', Function.update calls caller (some call'), passages'⟩ := by
  induction rests generalizing calls passages with
  | here stuck =>
      refine ⟨passages, ?_⟩
      rw [← running, Function.update_eq_self]
  | @after _ _ middle _ _ next _ stepped rests hypothesis =>
      have first : Step (⟨_, calls, passages⟩ : Crowd Caller) _ :=
        .advance caller _ next middle running stepped
      obtain ⟨passages', others⟩ := hypothesis
        (passages ++ passageOf caller _) (Function.update_self caller (some next) calls)
      rw [Function.update_idem] at others
      exact ⟨passages', others.head first⟩

theorem exists_served (caller : Caller) (request : RingRequest) {outcome : RingOutcome}
    {queue' : List UInt8} (represents : crowd.guarded.ring.Represents queue)
    (free : crowd.guarded.monitor.lock = .free) (idle : crowd.Idle caller)
    (admitted : request.rejection? crowd.guarded.ring.capacity = none)
    (served : request.serve? crowd.guarded.ring.capacity queue = some (outcome, queue')) :
    ∃ later, Relation.ReflTransGen Step crowd later ∧
      crowd.guarded.Follows later.guarded queue queue' ∧
      later.calls = Function.update crowd.calls caller (some ⟨request, .finished outcome⟩) := by
  have settles := RingCall.settles_start represents free admitted
  simp only [RingCall.Settles, RingCall.start, served] at settles
  obtain ⟨count, -, guarded', rests, follows⟩ := settles
  obtain ⟨passages', steps⟩ := steps_of_rests rests crowd.passages
    (Function.update_self caller (some (RingCall.start request)) crowd.calls)
  rw [Function.update_idem] at steps
  exact ⟨_, steps.head (.begin caller request idle), follows, rfl⟩

theorem exists_slept (caller : Caller) (request : RingRequest)
    (represents : crowd.guarded.ring.Represents queue)
    (free : crowd.guarded.monitor.lock = .free) (idle : crowd.Idle caller)
    (admitted : request.rejection? crowd.guarded.ring.capacity = none)
    (unserved : request.serve? crowd.guarded.ring.capacity queue = none) :
    ∃ later, Relation.ReflTransGen Step crowd later ∧ later.guarded = crowd.guarded ∧
      later.calls = Function.update crowd.calls caller
        (some ⟨request, .asleep (crowd.guarded.monitor.signals request.condition)⟩) := by
  have settles := RingCall.settles_start represents free admitted
  simp only [RingCall.Settles, RingCall.start, unserved] at settles
  obtain ⟨count, -, rests⟩ := settles
  obtain ⟨passages', steps⟩ := steps_of_rests rests crowd.passages
    (Function.update_self caller (some (RingCall.start request)) crowd.calls)
  rw [Function.update_idem] at steps
  exact ⟨_, steps.head (.begin caller request idle), rfl, rfl⟩

end

theorem exists_filled {capacity count : Nat} (shared : Bool) (some : 1 ≤ count)
    (few : count ≤ capacity) : ∃ crowd : Crowd Role,
    Relation.ReflTransGen Step (start (.new capacity shared)) crowd ∧
      crowd.guarded.ring.Represents (List.replicate count 0) ∧
      crowd.guarded.ring.capacity = capacity ∧ crowd.guarded.monitor.lock = .free ∧
      ∀ role, crowd.Idle role := by
  let filling : List UInt8 := List.replicate count 0
  have isLength : filling.length = count := List.length_replicate ..
  have represents : (GuardedRing.new capacity shared).ring.Represents [] :=
    Ring.represents_empty (by omega)
  have fits : ([] : List UInt8).length + filling.length ≤ capacity := by
    rw [List.length_nil, isLength]
    omega
  have idle : (start (.new capacity shared) : Crowd Role).Idle .producer := by
    rintro call ⟨⟩
  have admitted : (RingRequest.produce filling true).rejection? capacity = none :=
    RingRequest.rejection?_eq_none (by rwa [RingRequest.length, isLength])
      (by rwa [RingRequest.length, isLength])
  obtain ⟨crowd, reaches, follows, calls⟩ := exists_served Role.producer
    (.produce filling true) represents rfl idle admitted (if_pos fits)
  rw [List.nil_append] at follows
  refine ⟨crowd, reaches, follows.represents, follows.capacity_eq, follows.free, ?_⟩
  rintro (_ | _) call running
  · rw [calls, Function.update_self] at running
    cases running
    exact ⟨_, rfl⟩
  · rw [calls] at running
    cases running

/-- A ring that holds one byte less than the consumer wants has no room for the producer. -/
theorem exists_gridlock {capacity receiving : Nat} {data : List UInt8} (shared : Bool)
    (sends : 1 ≤ data.length ∧ data.length ≤ capacity)
    (receives : 1 ≤ receiving ∧ receiving ≤ capacity)
    (together : capacity + 2 ≤ data.length + receiving) :
    ∃ (crowd : Crowd Role) (settled queue : List UInt8),
      Relation.ReflTransGen Step (start (.new capacity shared)) crowd ∧
      crowd.Sound (.empty capacity) [] settled queue ∧ crowd.Gridlock queue ∧
      crowd.SleepsOn .producer .spaceAvailable (.produce data true) ∧
      crowd.SleepsOn .consumer .dataAvailable (.consume receiving true) := by
  have more : 1 ≤ receiving - 1 := by omega
  have few : receiving - 1 ≤ capacity := by omega
  have empty : (GuardedRing.new capacity shared).ring.Represents [] :=
    Ring.represents_empty (by omega)
  obtain ⟨filled, first, represents, capacity_eq, free, idle⟩ := exists_filled shared more few
  have isLength : (List.replicate (receiving - 1) (0 : UInt8)).length = receiving - 1 :=
    List.length_replicate ..
  have lacksSpace : (RingRequest.produce data true).serve? filled.guarded.ring.capacity
      (List.replicate (receiving - 1) 0) = none := by
    rw [RingRequest.serve?_eq_none_iff]
    exact ⟨rfl, by omega⟩
  have lacksData : (RingRequest.consume receiving true).serve? filled.guarded.ring.capacity
      (List.replicate (receiving - 1) 0) = none := by
    rw [RingRequest.serve?_eq_none_iff]
    exact ⟨rfl, by omega⟩
  obtain ⟨halfway, second, sameGuarded, callsHalfway⟩ := exists_slept Role.producer
    (.produce data true) represents free (idle .producer)
    (by rw [capacity_eq]; exact RingRequest.rejection?_eq_none sends.1 sends.2) lacksSpace
  rw [← sameGuarded] at represents free lacksSpace lacksData capacity_eq
  have idleHalfway : halfway.Idle .consumer := by
    intro call running
    rw [callsHalfway] at running
    exact idle .consumer call running
  obtain ⟨crowd, third, sameAgain, calls⟩ := exists_slept Role.consumer
    (.consume receiving true) represents free idleHalfway
    (by rw [capacity_eq]; exact RingRequest.rejection?_eq_none receives.1 receives.2) lacksData
  rw [← sameAgain] at represents lacksSpace lacksData
  have reaches := (first.trans second).trans third
  obtain ⟨settled, queue, sound⟩ := (sound_start empty rfl).steps reaches
  have isQueue : queue = List.replicate (receiving - 1) 0 := by
    rw [← sound.attended.represents.contents_eq, represents.contents_eq]
  subst isQueue
  have sendsNow : crowd.calls .producer = some ⟨.produce data true,
      .asleep (crowd.guarded.monitor.signals .spaceAvailable)⟩ := by
    rw [calls, callsHalfway, sameAgain, sameGuarded]
    rfl
  have receivesNow : crowd.calls .consumer = some ⟨.consume receiving true,
      .asleep (crowd.guarded.monitor.signals .dataAvailable)⟩ := by
    rw [calls, sameAgain]
    rfl
  refine ⟨crowd, settled, _, reaches, sound, ?_, ⟨rfl, _, sendsNow, rfl⟩,
    ⟨rfl, _, receivesNow, rfl⟩⟩
  rintro (_ | _)
  · exact ⟨_, _, sendsNow, trivial, lacksSpace⟩
  · exact ⟨_, _, receivesNow, trivial, lacksData⟩

theorem standstill_of_sleepers {crowd : Crowd Role} {data : List UInt8} {length : Nat}
    (sending : crowd.SleepsOn .producer .spaceAvailable (.produce data true))
    (receiving : crowd.SleepsOn .consumer .dataAvailable (.consume length true)) :
    crowd.Standstill := by
  have ⟨_, signals, sends, _⟩ := sending
  have ⟨_, count, receives, _⟩ := receiving
  refine ⟨⟨.producer, data, true, _, sends, by simp⟩,
    ⟨.consumer, length, true, _, receives, by simp⟩, ?_⟩
  rintro (_ | _) request phase running unfinished
  · rw [sends] at running
    cases running
    exact sending
  · rw [receives] at running
    cases running
    exact receiving

/-! ## The bound -/

/-- Waiting transfers of at most `sending` and at most `receiving` bytes never bring a ring to
a standstill if the two bounds exceed its capacity by at most one.  Two that exceed it by more
can block each other for ever.  Slices of a producer stay below the bound, against consumers
that ask for no more than a chunk. -/
theorem standstill_bound {capacity sending receiving : Nat}
    (sends : 1 ≤ sending ∧ sending ≤ capacity)
    (receives : 1 ≤ receiving ∧ receiving ≤ capacity) :
    (sending + receiving ≤ capacity + 1 →
      ∀ (Caller : Type) [DecidableEq Caller] (guarded : GuardedRing) (source : List UInt8)
        (crowd : Crowd Caller), guarded.ring.Represents source →
        guarded.ring.capacity = capacity → guarded.monitor.lock = .free →
        Relation.ReflTransGen Step (start guarded) crowd →
        crowd.Asks (RingRequest.Within sending receiving) → ¬ crowd.Standstill) ∧
      (capacity + 2 ≤ sending + receiving →
        ∀ (shared : Bool) (data : List UInt8), data.length = sending →
          ∃ crowd : Crowd Role,
            Relation.ReflTransGen Step (start (.new capacity shared)) crowd ∧
            crowd.SleepsOn .producer .spaceAvailable (.produce data true) ∧
            crowd.SleepsOn .consumer .dataAvailable (.consume receiving true) ∧
            crowd.Standstill ∧
            ∀ later, Relation.ReflTransGen Step crowd later → crowd.Stuck later) ∧
      ∀ (Caller : Type) [DecidableEq Caller] (guarded : GuardedRing) (source : List UInt8)
        (crowd : Crowd Caller), guarded.ring.Represents source →
        guarded.ring.capacity = capacity → guarded.monitor.lock = .free →
        Relation.ReflTransGen Step (start guarded) crowd →
        crowd.Asks (RingRequest.Chunked capacity) → ¬ crowd.Standstill := by
  refine ⟨?_, ?_, ?_⟩
  · intro few Caller _ guarded source crowd represents capacity_eq free reaches asks
    obtain ⟨settled, queue, sound⟩ := (sound_start represents free).steps reaches
    exact sound.not_standstill (by omega) asks
  · rintro many shared data rfl
    obtain ⟨crowd, settled, queue, reaches, sound, gridlock, sender, receiver⟩ :=
      exists_gridlock shared sends receives many
    exact ⟨crowd, reaches, sender, receiver, standstill_of_sleepers sender receiver,
      fun later goesOn => gridlock.stuck sound goesOn⟩
  · intro Caller _ guarded source crowd represents capacity_eq free reaches asks
    obtain ⟨settled, queue, sound⟩ := (sound_start represents free).steps reaches
    have few : max 1 (capacity / 2) + max 1 (capacity / 2) ≤ capacity + 1 := by omega
    exact sound.not_standstill (by omega) fun caller call running =>
      RingRequest.within_of_chunked (asks caller call running)

theorem exists_receiver_asleep : ∃ crowd : Crowd Role,
    Relation.ReflTransGen Step (start (.new 4 true)) crowd ∧
      crowd.calls .consumer = some ⟨.consume 2 true, .asleep 0⟩ ∧
      crowd.calls .producer = some ⟨.produce [1, 2] true, .locking⟩ := by
  have begun : Relation.ReflTransGen Step (start (.new 4 true) : Crowd Role) _ :=
    .single (.begin .consumer (.consume 2 true) (by rintro call ⟨⟩))
  have asleep := begun.trans (steps_goOnAll _ [.consumer, .consumer, .consumer])
  have joined := asleep.tail (.begin .producer (.produce [1, 2] true) (by rintro call ⟨⟩))
  exact ⟨_, joined.trans (steps_goOnAll _ [.producer]), rfl, rfl⟩

/-- On a ring of four bytes, transfers of two and three bytes never block each other, and two
and four may. -/
theorem standstill_bound_of_four_bytes :
    (∃ crowd : Crowd Role, Relation.ReflTransGen Step (start (.new 4 true)) crowd ∧
        crowd.calls .consumer = some ⟨.consume 2 true, .asleep 0⟩ ∧
        crowd.calls .producer = some ⟨.produce [1, 2] true, .locking⟩ ∧
        crowd.Asks (RingRequest.Within 2 3) ∧ ¬ crowd.Standstill) ∧
      ∃ crowd : Crowd Role, Relation.ReflTransGen Step (start (.new 4 true)) crowd ∧
        crowd.Standstill ∧
        ∀ later, Relation.ReflTransGen Step crowd later → crowd.Stuck later := by
  have represents : (GuardedRing.new 4 true).ring.Represents [] :=
    Ring.represents_empty (by decide)
  obtain ⟨never, -, -⟩ :=
    standstill_bound (by decide : 1 ≤ 2 ∧ 2 ≤ 4) (by decide : 1 ≤ 3 ∧ 3 ≤ 4)
  obtain ⟨-, may, -⟩ :=
    standstill_bound (by decide : 1 ≤ 2 ∧ 2 ≤ 4) (by decide : 1 ≤ 4 ∧ 4 ≤ 4)
  constructor
  · obtain ⟨crowd, reaches, receives, sends⟩ := exists_receiver_asleep
    have within : crowd.Asks (RingRequest.Within 2 3) := by
      rintro (_ | _) call running
      · rw [sends] at running
        cases running
        exact Nat.le_refl 2
      · rw [receives] at running
        cases running
        exact Nat.le_succ 2
    have awake := never (by decide) Role _ [] crowd represents rfl rfl reaches within
    exact ⟨crowd, reaches, receives, sends, within, awake⟩
  · obtain ⟨crowd, reaches, -, -, standstill, stuck⟩ := may (by decide) true [1, 2] rfl
    exact ⟨crowd, reaches, standstill, stuck⟩

end Crowd

end BoundedStream
