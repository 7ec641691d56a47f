import BoundedStream.Proofs.Ring.Attended

/-!
# Progress of ring calls

Whoever holds the mutex can go on, and comes closer to leaving it.  While nobody else holds
it, a call that the queue can answer can go on, and comes closer to its end: it does not
fall asleep, and if it slept it was told.
-/

namespace BoundedStream

/-- How many steps at most are left of a call that does not fall asleep. -/
def RingPhase.distance : RingPhase → Nat
  | arriving | asleep _ => 7
  | locking | relocking => 6
  | testing => 5
  | copying => 4
  | updating _ => 3
  | notifying _ => 2
  | unlocking _ => 1
  | finished _ => 0

/-- How many steps at most a call still holds the mutex. -/
def RingPhase.grip (phase : RingPhase) : Nat := if phase.holds then phase.distance else 0

theorem RingPhase.grip_le (phase : RingPhase) : phase.grip ≤ 7 := by
  cases phase <;> simp [grip, holds, distance]

theorem RingPhase.grip_pos {phase : RingPhase} (inside : phase.holds = true) :
    0 < phase.grip := by
  rw [grip, if_pos inside]
  cases phase <;> first | cases inside; done | simp [distance]

theorem RingPhase.grip_eq_zero {phase : RingPhase} (outside : phase.holds = false) :
    phase.grip = 0 := by
  simp [grip, outside]

namespace RingCall

variable {guarded guarded' : GuardedRing} {request : RingRequest} {phase phase' : RingPhase}

/-- A call comes closer to its end with every step but the one in which it falls asleep. -/
theorem Step.distance_lt (step : Step guarded request phase guarded' phase')
    (awake : ∀ signals, phase' ≠ .asleep signals) : phase'.distance < phase.distance := by
  cases step with
  | acquire phase wanting free =>
      rcases wanting with rfl | rfl <;> simp [RingPhase.distance]
  | lose phase wanting monitor error lost =>
      rcases wanting with rfl | rfl <;> simp [RingPhase.distance]
  | sleep moves lacks waits => exact absurd rfl (awake _)
  | _ => simp [RingPhase.distance]

/-- A call that holds the mutex comes closer to leaving it with every step. -/
theorem Step.grip_lt (step : Step guarded request phase guarded' phase')
    (inside : phase.holds = true) : phase'.grip < phase.grip := by
  have below : ∀ later : RingPhase, later.distance < phase.distance → 0 < phase.distance →
      later.grip < phase.grip := by
    intro later closer positive
    rw [RingPhase.grip, RingPhase.grip, if_pos inside]
    split <;> omega
  cases step with
  | sleep moves lacks waits => simp [RingPhase.grip, RingPhase.holds, RingPhase.distance]
  | acquire phase wanting free => rcases wanting with rfl | rfl <;> cases inside
  | lose phase wanting monitor error lost => rcases wanting with rfl | rfl <;> cases inside
  | reject text rejected => cases inside
  | glance measures unshared => cases inside
  | approach admitted reached => cases inside
  | wake signals changed => cases inside
  | _ => exact below _ (by simp [RingPhase.distance]) (by simp [RingPhase.distance])

/-- A call that holds the mutex never has to wait. -/
theorem exists_step_of_holds (guarded : GuardedRing) (request : RingRequest)
    (inside : phase.holds = true) : ∃ later, step guarded ⟨request, phase⟩ = some later := by
  cases phase with
  | testing | copying | updating _ | notifying _ | unlocking _ => exact ⟨_, rfl⟩
  | _ => cases inside

end RingCall

namespace GuardedRing.Attended

variable {Caller : Type} {guarded : GuardedRing} {calls : Caller → Option RingCall}
  {queue : List UInt8} {caller : Caller} {request : RingRequest} {phase : RingPhase}

/-- A call that the queue can answer never has to wait while nobody else holds the mutex. -/
theorem exists_step (attended : guarded.Attended calls queue)
    (running : calls caller = some ⟨request, phase⟩)
    (alone : ∀ other call, other ≠ caller → calls other = some call →
      call.phase.holds = false)
    (unfinished : ∀ outcome, phase ≠ .finished outcome)
    (served : phase.decided? = none → request.serve? guarded.ring.capacity queue ≠ none) :
    ∃ later, RingCall.step guarded ⟨request, phase⟩ = some later := by
  by_cases inside : phase.holds = true
  · exact RingCall.exists_step_of_holds guarded request inside
  have free : guarded.monitor.lock = .free := by
    refine attended.lock_free fun other call present => ?_
    by_cases same : other = caller
    · subst same
      rw [running] at present
      cases present
      simpa using inside
    · exact alone other call same present
  cases phase with
  | arriving => exact ⟨_, rfl⟩
  | locking => simp [RingCall.step, RingCall.acquire?, Monitor.acquire?, free]
  | relocking => simp [RingCall.step, RingCall.acquire?, Monitor.acquire?, free]
  | finished outcome => exact absurd rfl (unfinished outcome)
  | asleep signals =>
      obtain ⟨-, untold⟩ := attended.told caller request signals running
      by_cases reached : guarded.monitor.signals request.condition = signals
      · rcases untold reached with lacks | ⟨other, call, outcome, present, notifies, -⟩
        · exact absurd lacks (served rfl)
        · have differs : other ≠ caller := by
            rintro rfl
            rw [running] at present
            cases present
            cases notifies
          have outside := alone other call differs present
          rw [notifies] at outside
          cases outside
      · exact ⟨_, if_neg reached⟩
  | _ => exact absurd rfl inside

/-- A call that the queue can answer does not fall asleep. -/
theorem stays_awake (attended : guarded.Attended calls queue) {guarded' : GuardedRing}
    {phase' : RingPhase} (step : RingCall.Step guarded request phase guarded' phase')
    (served : phase.decided? = none → request.serve? guarded.ring.capacity queue ≠ none)
    (signals : Nat) : phase' ≠ .asleep signals := by
  rintro rfl
  cases step with
  | sleep moves lacks waits =>
      exact served rfl
        ((RingRequest.serve?_eq_none_iff_lacks attended.represents moves waits).mpr lacks)

end GuardedRing.Attended

end BoundedStream
