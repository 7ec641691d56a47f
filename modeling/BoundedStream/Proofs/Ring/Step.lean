import BoundedStream.Proofs.Ring.Queue

/-!
# Steps of ring calls

Everything that one step of a call can do is listed once, with the condition under which
it happens.  What a step does to the queue, to the mutex and to the call itself follows
from that list: a call takes effect on the queue in exactly one step, in which its outcome
is decided, and that outcome is the answer of the queue.
-/

namespace BoundedStream

namespace RingPhase

/-- Whether a call in the phase holds the mutex. -/
def holds : RingPhase → Bool
  | testing | copying | updating _ | notifying _ | unlocking _ => true
  | arriving | locking | asleep _ | relocking | finished _ => false

/-- The outcome of a call from the step on in which it takes effect. -/
def decided? : RingPhase → Option RingOutcome
  | notifying outcome | unlocking outcome | finished outcome => some outcome
  | arriving | locking | testing | asleep _ | relocking | copying | updating _ => none

/-- The mutex as a call leaves it that goes from one phase to another. -/
def lockAfter (phase phase' : RingPhase) (lock : LockState) : LockState :=
  if phase'.holds then .held else if phase.holds then .free else lock

end RingPhase

/-- Nobody died with the mutex. -/
def Monitor.Healthy (monitor : Monitor) : Prop :=
  monitor.lock = .free ∨ monitor.lock = .held

/-- Taking a mutex with which nobody died never fails. -/
theorem Monitor.Healthy.not_lost {monitor after : Monitor} {error : LockError}
    (healthy : monitor.Healthy) (lost : monitor.acquire? = some (after, .error error)) :
    False := by
  rcases healthy with free | held
  · simp [acquire?, free] at lost
  · simp [acquire?, held] at lost

namespace RingRequest

/-- What a queue answers to a call, which may be one that it could never serve. -/
def answer? (capacity : Nat) (queue : List UInt8) (request : RingRequest) :
    Option (RingOutcome × List UInt8) :=
  match request.rejection? capacity with
  | some text => some (.rejected text, queue)
  | none => request.serve? capacity queue

theorem answer?_balance {capacity : Nat} {queue queue' : List UInt8} {request : RingRequest}
    {outcome : RingOutcome}
    (answered : request.answer? capacity queue = some (outcome, queue')) :
    outcome.taken ++ queue' = queue ++ request.acknowledged outcome := by
  unfold answer? at answered
  split at answered
  · cases answered
    cases request <;> simp [RingOutcome.taken, acknowledged]
  · exact serve?_balance answered

theorem taken_of_produce {capacity : Nat} {queue queue' data : List UInt8} {wait : Bool}
    {outcome : RingOutcome}
    (answered : (produce data wait).answer? capacity queue = some (outcome, queue')) :
    outcome.taken = [] := by
  unfold answer? at answered
  split at answered
  · cases answered
    rfl
  · simp only [serve?] at answered
    split at answered
    · cases answered
      rfl
    · cases wait with
      | true => cases answered
      | false =>
          cases answered
          rfl

/-- What a call for a request relies on in its phase. -/
def Sound (request : RingRequest) (ring : Ring) : RingPhase → Prop
  | .arriving | .notifying _ | .unlocking _ | .finished _ => True
  | .locking | .testing | .asleep _ | .relocking =>
    request.rejection? ring.capacity = none
  | .copying =>
    request.rejection? ring.capacity = none ∧ request ≠ .measure ∧
      request.length ≤ request.available ring
  | .updating outcome =>
    request.rejection? ring.capacity = none ∧
      request.length ≤ request.available ring ∧
        match request with
        | produce data _ => outcome = .produced data.length ∧ ring.Stored data
        | consume length _ => outcome = .consumed (ring.front length)
        | measure => False

end RingRequest

namespace RingCall

/-- One step of a call: from a phase to a ring and a phase afterwards. -/
inductive Step (guarded : GuardedRing) (request : RingRequest) :
    RingPhase → GuardedRing → RingPhase → Prop
  | reject (text : String)
      (rejected : request.rejection? guarded.ring.capacity = some text) :
      Step guarded request .arriving guarded (.finished (.rejected text))
  | glance (measures : request = .measure) (unshared : guarded.shared = false) :
      Step guarded request .arriving guarded (.finished (.measured guarded.ring.size))
  | approach (admitted : request.rejection? guarded.ring.capacity = none)
      (reached : request = .measure → guarded.shared = true) :
      Step guarded request .arriving guarded .locking
  | acquire (phase : RingPhase) (wanting : phase = .locking ∨ phase = .relocking)
      (free : guarded.monitor.lock = .free) :
      Step guarded request phase
        { guarded with monitor := { guarded.monitor with lock := .held } } .testing
  | lose (phase : RingPhase) (wanting : phase = .locking ∨ phase = .relocking)
      (monitor : Monitor) (error : LockError)
      (lost : guarded.monitor.acquire? = some (monitor, .error error)) :
      Step guarded request phase { guarded with monitor }
        (.finished (.failed (.lock error)))
  | measure (measures : request = .measure) :
      Step guarded request .testing guarded (.unlocking (.measured guarded.ring.size))
  | fit (moves : request ≠ .measure)
      (fits : request.length ≤ request.available guarded.ring) :
      Step guarded request .testing guarded .copying
  | sleep (moves : request ≠ .measure)
      (lacks : ¬ request.length ≤ request.available guarded.ring)
      (waits : request.waits = true) :
      Step guarded request .testing
        { guarded with monitor := guarded.monitor.release }
        (.asleep (guarded.monitor.signals request.condition))
  | refuse (moves : request ≠ .measure)
      (lacks : ¬ request.length ≤ request.available guarded.ring)
      (hastens : request.waits = false) :
      Step guarded request .testing guarded
        (.unlocking (.failed (request.shortage guarded.ring)))
  | wake (signals : Nat)
      (changed : guarded.monitor.signals request.condition ≠ signals) :
      Step guarded request (.asleep signals) guarded .relocking
  | copy :
      Step guarded request .copying { guarded with ring := (request.copy guarded.ring).1 }
        (.updating (request.copy guarded.ring).2)
  | update (outcome : RingOutcome) :
      Step guarded request (.updating outcome)
        { guarded with ring := request.update guarded.ring } (.notifying outcome)
  | notify (outcome : RingOutcome) :
      Step guarded request (.notifying outcome)
        { guarded with monitor := guarded.monitor.broadcast request.effect }
        (.unlocking outcome)
  | unlock (outcome : RingOutcome) :
      Step guarded request (.unlocking outcome)
        { guarded with monitor := guarded.monitor.release } (.finished outcome)

variable {guarded guarded' : GuardedRing} {call call' : RingCall}

private theorem step_of_acquire
    (wanting : call.phase = .locking ∨ call.phase = .relocking)
    (acquired : call.acquire? guarded = some (guarded', call')) :
    call'.request = call.request ∧
      Step guarded call.request call.phase guarded' call'.phase := by
  simp only [acquire?, Option.map_eq_some_iff, Prod.exists] at acquired
  obtain ⟨monitor, result, taken, done⟩ := acquired
  cases result with
  | ok done' =>
      cases done
      have free : guarded.monitor.lock = .free := by
        unfold Monitor.acquire? at taken
        split at taken <;> simp_all
      have held : monitor = { guarded.monitor with lock := .held } := by
        simp only [Monitor.acquire?, free, Option.some.injEq, Prod.mk.injEq] at taken
        exact taken.1.symm
      subst held
      exact ⟨rfl, .acquire _ wanting free⟩
  | error error =>
      cases done
      exact ⟨rfl, .lose _ wanting monitor error taken⟩

/-- The list of steps is complete, and no step changes the request. -/
theorem step_cases (stepped : call.step guarded = some (guarded', call')) :
    call'.request = call.request ∧
      Step guarded call.request call.phase guarded' call'.phase := by
  obtain ⟨request, phase⟩ := call
  cases phase with
  | arriving =>
      simp only [step, arrive, Option.some.injEq, Prod.mk.injEq] at stepped
      obtain ⟨rfl, rfl⟩ := stepped
      split
      · rename_i text rejected
        exact ⟨rfl, .reject text rejected⟩
      · rename_i admitted
        split
        · rename_i glances
          exact ⟨rfl, .glance glances.1 glances.2⟩
        · rename_i goesOn
          exact ⟨rfl, .approach admitted (by simpa using goesOn)⟩
  | locking => exact step_of_acquire (.inl rfl) stepped
  | testing =>
      simp only [step, test, Option.some.injEq] at stepped
      split at stepped
      · rename_i measures
        cases stepped
        exact ⟨rfl, .measure measures⟩
      · rename_i moves
        split at stepped
        · rename_i fits
          cases stepped
          exact ⟨rfl, .fit moves fits⟩
        · rename_i lacks
          split at stepped
          · rename_i waits
            cases stepped
            exact ⟨rfl, .sleep moves lacks waits⟩
          · rename_i hastens
            cases stepped
            exact ⟨rfl, .refuse moves lacks (by simpa using hastens)⟩
  | asleep signals =>
      simp only [step] at stepped
      split at stepped
      · cases stepped
      · rename_i changed
        cases stepped
        exact ⟨rfl, .wake signals changed⟩
  | relocking => exact step_of_acquire (.inr rfl) stepped
  | copying => cases stepped; exact ⟨rfl, .copy⟩
  | updating outcome => cases stepped; exact ⟨rfl, .update outcome⟩
  | notifying outcome => cases stepped; exact ⟨rfl, .notify outcome⟩
  | unlocking outcome => cases stepped; exact ⟨rfl, .unlock outcome⟩
  | finished outcome => cases stepped

namespace Step

variable {request : RingRequest} {phase phase' : RingPhase} {queue : List UInt8}

theorem capacity_eq (step : Step guarded request phase guarded' phase') :
    guarded'.ring.capacity = guarded.ring.capacity := by
  cases step with
  | copy => cases request <;> rfl
  | update => cases request <;> rfl
  | _ => rfl

/-- Only the holder of the mutex touches the ring. -/
theorem ring_eq (step : Step guarded request phase guarded' phase')
    (outside : phase.holds = false) : guarded'.ring = guarded.ring := by
  cases step <;> first | rfl | simp [RingPhase.holds] at outside

theorem lock_eq (step : Step guarded request phase guarded' phase')
    (healthy : guarded.monitor.Healthy)
    (holder : phase.holds = true → guarded.monitor.lock = .held) :
    guarded'.monitor.lock = phase.lockAfter phase' guarded.monitor.lock := by
  cases step with
  | lose phase wanting monitor error lost => exact (healthy.not_lost lost).elim
  | acquire phase wanting free => rfl
  | wake signals changed => rfl
  | notify outcome =>
      have held : guarded.monitor.lock = .held := holder rfl
      cases request <;> exact held
  | _ => first | rfl | exact holder rfl

/-- A call that comes to hold the mutex found it free. -/
theorem free_of_holds (step : Step guarded request phase guarded' phase')
    (outside : phase.holds = false) (inside : phase'.holds = true) :
    guarded.monitor.lock = .free := by
  cases step with
  | acquire phase wanting free => exact free
  | _ =>
      first
      | (simp [RingPhase.holds] at inside; done)
      | simp [RingPhase.holds] at outside

theorem sound (step : Step guarded request phase guarded' phase')
    (represents : guarded.ring.Represents queue)
    (before : request.Sound guarded.ring phase) :
    request.Sound guarded'.ring phase' := by
  cases step with
  | approach admitted reached => exact admitted
  | acquire phase wanting free => rcases wanting with rfl | rfl <;> exact before
  | fit moves fits => exact ⟨before, moves, fits⟩
  | sleep moves lacks waits => exact before
  | wake signals changed => exact before
  | copy =>
      obtain ⟨admitted, moves, fits⟩ := before
      cases request with
      | produce data wait =>
          have room := (RingRequest.length_le_available_iff represents).mp fits
          exact ⟨admitted, fits, rfl, represents.stored_store room⟩
      | consume length wait => exact ⟨admitted, fits, rfl⟩
      | measure => exact absurd rfl moves
  | _ => trivial

/-- A step either leaves the queue and the outcome of the call alone, or decides the
outcome as the queue answers. -/
theorem effect (step : Step guarded request phase guarded' phase')
    (healthy : guarded.monitor.Healthy) (represents : guarded.ring.Represents queue)
    (before : request.Sound guarded.ring phase) :
    (phase'.decided? = phase.decided? ∧ guarded'.ring.Represents queue) ∨
      phase.decided? = none ∧ ∃ outcome queue', phase'.decided? = some outcome ∧
        request.answer? guarded.ring.capacity queue = some (outcome, queue') ∧
          guarded'.ring.Represents queue' := by
  cases step with
  | reject text rejected =>
      right
      exact ⟨rfl, _, queue, rfl, by rw [RingRequest.answer?, rejected], represents⟩
  | glance measures unshared =>
      right
      subst measures
      refine ⟨rfl, _, queue, rfl, ?_, represents⟩
      rw [represents.size_eq]
      rfl
  | acquire phase wanting free =>
      left
      rcases wanting with rfl | rfl <;> exact ⟨rfl, represents⟩
  | lose phase wanting monitor error lost => exact (healthy.not_lost lost).elim
  | measure measures =>
      right
      subst measures
      refine ⟨rfl, _, queue, rfl, ?_, represents⟩
      rw [represents.size_eq]
      rfl
  | refuse moves lacks hastens =>
      right
      refine ⟨rfl, _, queue, rfl, ?_, represents⟩
      have admitted : request.rejection? guarded.ring.capacity = none := before
      rw [RingRequest.length_le_available_iff represents] at lacks
      rw [RingRequest.answer?, admitted]
      cases request with
      | produce data wait =>
          simp only [RingRequest.waits] at hastens
          simp [RingRequest.serve?, lacks, hastens, RingRequest.shortage,
            RingRequest.length, RingRequest.available, represents.space_eq]
      | consume length wait =>
          simp only [RingRequest.waits] at hastens
          simp [RingRequest.serve?, lacks, hastens, RingRequest.shortage,
            RingRequest.length, RingRequest.available, represents.size_eq]
      | measure => exact absurd rfl moves
  | copy =>
      left
      refine ⟨rfl, ?_⟩
      obtain ⟨admitted, moves, fits⟩ := before
      rw [RingRequest.length_le_available_iff represents] at fits
      cases request with
      | produce data wait => exact represents.store fits
      | consume length wait => exact represents
      | measure => exact represents
  | update outcome =>
      right
      obtain ⟨admitted, fits, copied⟩ := before
      rw [RingRequest.length_le_available_iff represents] at fits
      refine ⟨rfl, outcome, ?_⟩
      rw [RingRequest.answer?, admitted]
      cases request with
      | produce data wait =>
          obtain ⟨rfl, stored⟩ := copied
          refine ⟨queue ++ data, rfl, ?_, represents.commit fits stored⟩
          simp only [RingRequest.serve?]
          rw [if_pos fits]
      | consume length wait =>
          subst copied
          refine ⟨queue.drop length, rfl, ?_, represents.discard fits⟩
          simp only [RingRequest.serve?]
          rw [if_pos fits, represents.front_eq fits]
      | measure => exact copied.elim
  | _ => exact .inl ⟨rfl, represents⟩

end Step

end RingCall

end BoundedStream
