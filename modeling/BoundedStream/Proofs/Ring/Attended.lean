import BoundedStream.Proofs.Ring.Step
import Mathlib.Logic.Function.Basic

/-!
# Attended rings

Any number of callers work on one ring, each with at most one call in progress.  At most
one of the calls holds the mutex, and what a call relies on in the middle of its work is
safe from all others.  A step of any call either leaves the queue alone or answers one
call as the queue answers it.
-/

namespace BoundedStream

/-- What a call relies on outside of the mutex is the capacity alone. -/
theorem RingRequest.Sound.outside {request : RingRequest} {ring ring' : Ring}
    {phase : RingPhase} (sound : request.Sound ring phase)
    (outside : phase.holds = false) (capacity : ring'.capacity = ring.capacity) :
    request.Sound ring' phase := by
  cases phase with
  | locking | asleep _ | relocking =>
      simp only [RingRequest.Sound] at sound ⊢
      rw [capacity, sound]
  | arriving | finished _ => trivial
  | _ => simp [RingPhase.holds] at outside

/-- After one caller has changed its call, every call is that one or the call of another
caller as it was. -/
theorem RingCall.of_update {Caller : Type} [DecidableEq Caller]
    {calls : Caller → Option RingCall} {caller other : Caller} {next : Option RingCall}
    {call : RingCall} (present : Function.update calls caller next other = some call) :
    other = caller ∧ next = some call ∨ other ≠ caller ∧ calls other = some call := by
  by_cases same : other = caller
  · subst same
    rw [Function.update_self] at present
    exact .inl ⟨rfl, present⟩
  · rw [Function.update_of_ne same] at present
    exact .inr ⟨same, present⟩

namespace GuardedRing

variable {Caller : Type}

/-- Whoever sleeps has nothing to gain by going on, or is told soon that he has: a caller who
changed the queue is about to wake him. -/
def Told (guarded : GuardedRing) (calls : Caller → Option RingCall)
    (queue : List UInt8) : Prop :=
  ∀ caller request signals, calls caller = some ⟨request, .asleep signals⟩ →
    signals ≤ guarded.monitor.signals request.condition ∧
      (guarded.monitor.signals request.condition = signals →
        request.serve? guarded.ring.capacity queue = none ∨
          ∃ other otherCall outcome, calls other = some otherCall ∧
            otherCall.phase = .notifying outcome ∧
              otherCall.request.effect = request.condition)

/-- A ring that stands for a queue, with the calls of its callers. -/
structure Attended (guarded : GuardedRing) (calls : Caller → Option RingCall)
    (queue : List UInt8) : Prop where
  represents : guarded.ring.Represents queue
  sound : ∀ caller call, calls caller = some call →
    call.request.Sound guarded.ring call.phase
  lock_held : ∀ caller call, calls caller = some call → call.phase.holds = true →
    guarded.monitor.lock = .held
  lock_free : (∀ caller call, calls caller = some call → call.phase.holds = false) →
    guarded.monitor.lock = .free
  exclusive : ∀ caller other call otherCall, calls caller = some call →
    calls other = some otherCall → call.phase.holds = true →
      otherCall.phase.holds = true → caller = other
  told : guarded.Told calls queue

/-- What the step of a call did to the queue: nothing, or what the queue answers. -/
inductive Took (capacity : Nat) (request : RingRequest) (before after : RingPhase) :
    List UInt8 → List UInt8 → Prop
  | nothing {queue : List UInt8} (same : after.decided? = before.decided?) :
      Took capacity request before after queue queue
  | effect {queue queue' : List UInt8} (outcome : RingOutcome)
      (open? : before.decided? = none) (decided : after.decided? = some outcome)
      (answered : request.answer? capacity queue = some (outcome, queue')) :
      Took capacity request before after queue queue'

/-- A call takes effect once. -/
theorem Took.of_decided {capacity : Nat} {request : RingRequest} {before after : RingPhase}
    {queue queue' : List UInt8} {outcome : RingOutcome}
    (decided : before.decided? = some outcome)
    (took : Took capacity request before after queue queue') :
    queue' = queue ∧ after.decided? = before.decided? := by
  cases took with
  | nothing same => exact ⟨rfl, same⟩
  | effect other undecided =>
      rw [decided] at undecided
      cases undecided

theorem Took.of_measure {capacity : Nat} {before after : RingPhase} {queue queue' : List UInt8}
    (took : Took capacity .measure before after queue queue') :
    queue' = queue ∧ (after.decided? = before.decided? ∨
      before.decided? = none ∧ after.decided? = some (.measured queue.length)) := by
  cases took with
  | nothing same => exact ⟨rfl, .inl same⟩
  | effect outcome undecided decided answered =>
      cases answered
      exact ⟨rfl, .inr ⟨undecided, decided⟩⟩

/-- A producer that waits sends all of its data at once. -/
theorem eq_of_produce {capacity : Nat} {queue queue' data : List UInt8} {outcome : RingOutcome}
    (admitted : (RingRequest.produce data true).rejection? capacity = none)
    (answered : (RingRequest.produce data true).answer? capacity queue =
      some (outcome, queue')) :
    outcome = .produced data.length ∧ queue' = queue ++ data := by
  simp only [RingRequest.answer?, admitted, RingRequest.serve?] at answered
  split at answered <;> cases answered
  exact ⟨rfl, rfl⟩

/-- A consumer that waits receives all that it asked for at once. -/
theorem eq_of_consume {capacity length : Nat} {queue queue' : List UInt8}
    {outcome : RingOutcome}
    (admitted : (RingRequest.consume length true).rejection? capacity = none)
    (answered : (RingRequest.consume length true).answer? capacity queue =
      some (outcome, queue')) :
    outcome = .consumed (queue.take length) ∧ length ≤ queue.length ∧
      queue' = queue.drop length := by
  simp only [RingRequest.answer?, admitted, RingRequest.serve?] at answered
  split at answered <;> cases answered
  rename_i enough
  exact ⟨rfl, enough, rfl⟩

theorem Took.of_produce {capacity : Nat} {before after : RingPhase}
    {queue queue' data : List UInt8}
    (admitted : (RingRequest.produce data true).rejection? capacity = none)
    (took : Took capacity (.produce data true) before after queue queue') :
    (queue' = queue ∧ after.decided? = before.decided?) ∨
      before.decided? = none ∧ after.decided? = some (.produced data.length) ∧
        queue' = queue ++ data := by
  cases took with
  | nothing same => exact .inl ⟨rfl, same⟩
  | effect outcome undecided decided answered =>
      obtain ⟨rfl, isQueue⟩ := eq_of_produce admitted answered
      exact .inr ⟨undecided, decided, isQueue⟩

theorem Took.of_consume {capacity : Nat} {before after : RingPhase}
    {queue queue' : List UInt8} {length : Nat}
    (admitted : (RingRequest.consume length true).rejection? capacity = none)
    (took : Took capacity (.consume length true) before after queue queue') :
    (queue' = queue ∧ after.decided? = before.decided?) ∨
      before.decided? = none ∧ after.decided? = some (.consumed (queue.take length)) ∧
        length ≤ queue.length ∧ queue' = queue.drop length := by
  cases took with
  | nothing same => exact .inl ⟨rfl, same⟩
  | effect outcome undecided decided answered =>
      obtain ⟨rfl, enough, isQueue⟩ := eq_of_consume admitted answered
      exact .inr ⟨undecided, decided, enough, isQueue⟩

/-- A step keeps everybody told if it broadcasts to a sleeper, or gives him nothing to gain,
or leaves its caller about to broadcast to him. -/
theorem Told.step [DecidableEq Caller] {guarded guarded' : GuardedRing}
    {calls : Caller → Option RingCall} {queue queue' : List UInt8} {caller : Caller}
    {request : RingRequest} {phase phase' : RingPhase} (told : guarded.Told calls queue)
    (running : calls caller = some ⟨request, phase⟩)
    (capacity_eq : guarded'.ring.capacity = guarded.ring.capacity)
    (own : ∀ signals, phase' = .asleep signals →
      guarded'.monitor.signals request.condition = signals ∧
        request.serve? guarded.ring.capacity queue' = none)
    (theirs : ∀ condition,
      guarded.monitor.signals condition < guarded'.monitor.signals condition ∨
        guarded'.monitor.signals condition = guarded.monitor.signals condition ∧
          ∀ outcome, phase = .notifying outcome → request.effect ≠ condition)
    (changes : ∀ sleeper : RingRequest,
      sleeper.serve? guarded.ring.capacity queue = none →
        sleeper.serve? guarded.ring.capacity queue' = none ∨
          ∃ outcome, phase' = .notifying outcome ∧ request.effect = sleeper.condition) :
    guarded'.Told (Function.update calls caller (some ⟨request, phase'⟩)) queue' := by
  intro other sleeper signals sleeps
  rw [capacity_eq]
  by_cases isCaller : other = caller
  · subst isCaller
    rw [Function.update_self] at sleeps
    cases sleeps
    obtain ⟨same, lacks⟩ := own signals rfl
    exact ⟨Nat.le_of_eq same.symm, fun _ => .inl lacks⟩
  · rw [Function.update_of_ne isCaller] at sleeps
    obtain ⟨past, untold⟩ := told other sleeper signals sleeps
    rcases theirs sleeper.condition with grows | ⟨same, quiet⟩
    · exact ⟨by omega, fun reached => absurd reached (by omega)⟩
    · rw [same]
      refine ⟨past, fun reached => ?_⟩
      rcases untold reached with lacks | ⟨waker, wakerCall, outcome, present, notifies, wakes⟩
      · refine (changes sleeper lacks).imp_right ?_
        rintro ⟨outcome, notifies, wakes⟩
        exact ⟨caller, _, outcome, Function.update_self .., notifies, wakes⟩
      · refine .inr ⟨waker, wakerCall, outcome, ?_, notifies, wakes⟩
        rw [Function.update_of_ne, present]
        rintro rfl
        rw [running] at present
        cases present
        exact quiet outcome notifies wakes

namespace Attended

variable {guarded guarded' : GuardedRing} {calls : Caller → Option RingCall}
  {queue : List UInt8} {caller : Caller} {call call' : RingCall}

theorem of_idle (represents : guarded.ring.Represents queue)
    (free : guarded.monitor.lock = .free) (idle : ∀ caller call, calls caller ≠ some call) :
    guarded.Attended calls queue where
  represents := represents
  sound caller call running := (idle caller call running).elim
  lock_held caller call running := (idle caller call running).elim
  lock_free _ := free
  exclusive caller _ call _ running := (idle caller call running).elim
  told caller _ _ running := (idle caller _ running).elim

theorem healthy (attended : guarded.Attended calls queue) : guarded.monitor.Healthy := by
  by_cases held : ∃ caller call, calls caller = some call ∧ call.phase.holds = true
  · obtain ⟨caller, call, present, holds⟩ := held
    exact .inr (attended.lock_held caller call present holds)
  · refine .inl (attended.lock_free fun caller call present => ?_)
    by_contra holds
    exact held ⟨caller, call, present, by simpa using holds⟩

/-- Only the step in which a call takes effect, or in which it broadcasts, or in which it
falls asleep, concerns the sleepers. -/
theorem told_step [DecidableEq Caller] (attended : guarded.Attended calls queue)
    {request : RingRequest} {phase phase' : RingPhase} {queue' : List UInt8}
    (running : calls caller = some ⟨request, phase⟩)
    (step : RingCall.Step guarded request phase guarded' phase')
    (represents : guarded'.ring.Represents queue')
    (took : Took guarded.ring.capacity request phase phase' queue queue') :
    guarded'.Told (Function.update calls caller (some ⟨request, phase'⟩)) queue' := by
  have sameCapacity := step.capacity_eq
  have silent : guarded'.ring = guarded.ring →
      (∀ condition, guarded'.monitor.signals condition =
        guarded.monitor.signals condition) →
      (∀ outcome, phase ≠ .notifying outcome) → (∀ signals, phase' ≠ .asleep signals) →
        guarded'.Told (Function.update calls caller (some ⟨request, phase'⟩)) queue' := by
    intro sameRing sameSignals quiet awake
    have sameQueue : queue' = queue := by
      rw [← represents.contents_eq, sameRing, attended.represents.contents_eq]
    subst sameQueue
    refine attended.told.step running sameCapacity ?_ ?_ fun _ lacks => .inl lacks
    · exact fun signals sleeps => absurd sleeps (awake signals)
    · exact fun condition =>
        .inr ⟨sameSignals condition, fun outcome notifies => absurd notifies (quiet outcome)⟩
  cases step with
  | reject text rejected => exact silent rfl (fun _ => rfl) (by simp) (by simp)
  | glance measures unshared => exact silent rfl (fun _ => rfl) (by simp) (by simp)
  | approach admitted reached => exact silent rfl (fun _ => rfl) (by simp) (by simp)
  | acquire phase wanting free =>
      refine silent rfl ?_ ?_ (by simp)
      · rintro (_ | _) <;> rfl
      · rcases wanting with rfl | rfl <;> simp
  | lose phase wanting monitor error lost => exact (attended.healthy.not_lost lost).elim
  | measure measures => exact silent rfl (fun _ => rfl) (by simp) (by simp)
  | fit moves fits => exact silent rfl (fun _ => rfl) (by simp) (by simp)
  | refuse moves lacks hastens => exact silent rfl (fun _ => rfl) (by simp) (by simp)
  | wake signals changed => exact silent rfl (fun _ => rfl) (by simp) (by simp)
  | unlock outcome =>
      refine silent rfl ?_ (by simp) (by simp)
      rintro (_ | _) <;> rfl
  | copy =>
      cases took with
      | effect outcome open? decided answered => cases decided
      | nothing same =>
          exact attended.told.step running sameCapacity (by simp)
            (fun _ => .inr ⟨rfl, by simp⟩) fun _ lacks => .inl lacks
  | sleep moves lacks waits =>
      have sameQueue : queue' = queue := by
        rw [← represents.contents_eq, attended.represents.contents_eq]
      subst sameQueue
      refine attended.told.step running rfl ?_ (fun condition => .inr ⟨?_, by simp⟩)
        fun _ unanswered => .inl unanswered
      · rintro signals ⟨⟩
        refine ⟨?_, (RingRequest.serve?_eq_none_iff_lacks attended.represents moves
          waits).mpr lacks⟩
        cases request.condition <;> rfl
      · cases condition <;> rfl
  | update outcome =>
      cases took with
      | nothing same => cases same
      | effect decision open? decided answered =>
          obtain ⟨admitted, -⟩ := attended.sound caller _ running
          rw [RingRequest.answer?, admitted] at answered
          refine attended.told.step running sameCapacity (by simp)
            (fun _ => .inr ⟨rfl, by simp⟩) fun sleeper lacks => ?_
          by_cases wakes : request.effect = sleeper.condition
          · exact .inr ⟨outcome, rfl, wakes⟩
          · exact .inl (RingRequest.serve?_eq_none_of_served answered wakes lacks)
  | notify outcome =>
      have sameQueue : queue' = queue := by
        rw [← represents.contents_eq, attended.represents.contents_eq]
      subst sameQueue
      refine attended.told.step running rfl (by simp) ?_ fun _ lacks => .inl lacks
      intro condition
      by_cases wakes : request.effect = condition
      · left
        rw [wakes]
        cases condition <;> exact Nat.lt_succ_self _
      · right
        refine ⟨?_, fun _ _ => wakes⟩
        cases isEffect : request.effect <;> cases condition <;>
          first | rfl | exact absurd isEffect wakes

section

variable {request : RingRequest} {phase phase' : RingPhase}
  (attended : guarded.Attended calls queue) (running : calls caller = some ⟨request, phase⟩)
  (step : RingCall.Step guarded request phase guarded' phase')

include attended running step

/-- While another call holds the mutex, a call neither holds nor takes it. -/
private theorem outside_of_holds {other : Caller} {otherCall : RingCall}
    (distinct : other ≠ caller) (present : calls other = some otherCall)
    (holds : otherCall.phase.holds = true) : phase.holds = false ∧ phase'.holds = false := by
  have outside : phase.holds = false := by
    by_contra inside
    exact distinct (attended.exclusive other caller otherCall ⟨request, phase⟩ present running
      holds (by simpa using inside))
  refine ⟨outside, ?_⟩
  by_contra inside
  have free := step.free_of_holds outside (by simpa using inside)
  rw [attended.lock_held other otherCall present holds] at free
  cases free

private theorem lockAfter_step : guarded'.monitor.lock =
    phase.lockAfter phase' guarded.monitor.lock :=
  step.lock_eq attended.healthy (attended.lock_held caller ⟨request, phase⟩ running)

variable [DecidableEq Caller]

private theorem sound_step {other : Caller} {otherCall : RingCall}
    (present : Function.update calls caller (some ⟨request, phase'⟩) other = some otherCall) :
    otherCall.request.Sound guarded'.ring otherCall.phase := by
  rcases RingCall.of_update present with ⟨rfl, ⟨⟩⟩ | ⟨same, present⟩
  · exact step.sound attended.represents (attended.sound other ⟨request, phase⟩ running)
  · have soundOther := attended.sound other otherCall present
    cases holds : otherCall.phase.holds with
    | false => exact soundOther.outside holds step.capacity_eq
    | true =>
        rw [step.ring_eq (attended.outside_of_holds running step same present holds).1]
        exact soundOther

private theorem lock_held_step {other : Caller} {otherCall : RingCall}
    (present : Function.update calls caller (some ⟨request, phase'⟩) other = some otherCall)
    (holds : otherCall.phase.holds = true) : guarded'.monitor.lock = .held := by
  rw [attended.lockAfter_step running step]
  rcases RingCall.of_update present with ⟨rfl, ⟨⟩⟩ | ⟨same, present⟩
  · rw [RingPhase.lockAfter, if_pos holds]
  · obtain ⟨outside, stillOutside⟩ := attended.outside_of_holds running step same present holds
    rw [RingPhase.lockAfter, if_neg (by simp [stillOutside]), if_neg (by simp [outside])]
    exact attended.lock_held other otherCall present holds

private theorem lock_free_step
    (nobody : ∀ other otherCall,
      Function.update calls caller (some ⟨request, phase'⟩) other = some otherCall →
        otherCall.phase.holds = false) : guarded'.monitor.lock = .free := by
  have outside : phase'.holds = false :=
    nobody caller ⟨request, phase'⟩ (Function.update_self ..)
  rw [attended.lockAfter_step running step, RingPhase.lockAfter, if_neg (by simp [outside])]
  split
  · rfl
  · rename_i wasOutside
    refine attended.lock_free fun other otherCall present => ?_
    by_cases same : other = caller
    · subst same
      rw [running] at present
      cases present
      simpa using wasOutside
    · exact nobody other otherCall (by rwa [Function.update_of_ne same])

private theorem exclusive_step {first second : Caller} {firstCall secondCall : RingCall}
    (firstPresent : Function.update calls caller (some ⟨request, phase'⟩) first =
      some firstCall)
    (secondPresent : Function.update calls caller (some ⟨request, phase'⟩) second =
      some secondCall)
    (firstHolds : firstCall.phase.holds = true)
    (secondHolds : secondCall.phase.holds = true) : first = second := by
  rcases RingCall.of_update firstPresent with ⟨isFirst, ⟨⟩⟩ | ⟨isFirst, firstPresent⟩ <;>
    rcases RingCall.of_update secondPresent with ⟨isSecond, ⟨⟩⟩ | ⟨isSecond, secondPresent⟩
  · rw [isFirst, isSecond]
  · have outside :=
      (attended.outside_of_holds running step isSecond secondPresent secondHolds).2
    rw [outside] at firstHolds
    cases firstHolds
  · have outside := (attended.outside_of_holds running step isFirst firstPresent firstHolds).2
    rw [outside] at secondHolds
    cases secondHolds
  · exact attended.exclusive first second firstCall secondCall firstPresent secondPresent
      firstHolds secondHolds

private theorem of_step {queue' : List UInt8} (represents : guarded'.ring.Represents queue')
    (took : Took guarded.ring.capacity request phase phase' queue queue') :
    guarded'.Attended (Function.update calls caller (some ⟨request, phase'⟩)) queue' where
  represents := represents
  sound _ _ := attended.sound_step running step
  lock_held _ _ := attended.lock_held_step running step
  lock_free := attended.lock_free_step running step
  exclusive _ _ _ _ := attended.exclusive_step running step
  told := attended.told_step running step represents took

end

variable [DecidableEq Caller]

theorem step (attended : guarded.Attended calls queue)
    (running : calls caller = some call)
    (stepped : call.step guarded = some (guarded', call')) :
    call'.request = call.request ∧
      ∃ queue', guarded'.Attended (Function.update calls caller (some call')) queue' ∧
        Took guarded.ring.capacity call.request call.phase call'.phase queue queue' := by
  obtain ⟨sameRequest, step⟩ := RingCall.step_cases stepped
  obtain ⟨request, phase⟩ := call
  obtain ⟨request', phase'⟩ := call'
  cases sameRequest
  have sound := attended.sound caller ⟨request, phase⟩ running
  refine ⟨rfl, ?_⟩
  rcases step.effect attended.healthy attended.represents sound with
    ⟨same, represents⟩ | ⟨undecided, outcome, queue', decided, answered, represents⟩
  · have took : Took guarded.ring.capacity request phase phase' queue queue := .nothing same
    exact ⟨queue, attended.of_step running step represents took, took⟩
  · have took : Took guarded.ring.capacity request phase phase' queue queue' :=
      .effect outcome undecided decided answered
    exact ⟨queue', attended.of_step running step represents took, took⟩

/-- A caller that does not hold the mutex may forget its call, or go on with another one that
neither holds the mutex nor sleeps. -/
theorem substitute (attended : guarded.Attended calls queue) (caller : Caller)
    (next : Option RingCall)
    (outside : ∀ call, calls caller = some call → call.phase.holds = false)
    (stays : ∀ call, next = some call → call.phase.holds = false)
    (awake : ∀ call signals, next = some call → call.phase ≠ .asleep signals)
    (sound : ∀ call, next = some call → call.request.Sound guarded.ring call.phase) :
    guarded.Attended (Function.update calls caller next) queue := by
  have holder : ∀ other otherCall, Function.update calls caller next other =
      some otherCall → otherCall.phase.holds = true → calls other = some otherCall := by
    intro other otherCall present holds
    rcases RingCall.of_update present with ⟨-, new⟩ | ⟨-, old⟩
    · rw [stays otherCall new] at holds
      cases holds
    · exact old
  refine ⟨attended.represents, ?_, ?_, ?_, ?_, ?_⟩
  · intro other otherCall present
    rcases RingCall.of_update present with ⟨-, new⟩ | ⟨-, old⟩
    · exact sound otherCall new
    · exact attended.sound other otherCall old
  · intro other otherCall present holds
    exact attended.lock_held other otherCall (holder other otherCall present holds) holds
  · intro nobody
    refine attended.lock_free fun other otherCall present => ?_
    by_cases same : other = caller
    · subst same
      exact outside otherCall present
    · exact nobody other otherCall (by rwa [Function.update_of_ne same])
  · intro first second firstCall secondCall firstPresent secondPresent firstHolds
      secondHolds
    exact attended.exclusive first second firstCall secondCall
      (holder first firstCall firstPresent firstHolds)
      (holder second secondCall secondPresent secondHolds) firstHolds secondHolds
  · intro other request signals sleeps
    rcases RingCall.of_update sleeps with ⟨-, new⟩ | ⟨-, old⟩
    · exact absurd rfl (awake _ signals new)
    obtain ⟨past, untold⟩ := attended.told other request signals old
    refine ⟨past, fun reached => (untold reached).imp_right ?_⟩
    rintro ⟨waker, wakerCall, outcome, present, notifies, wakes⟩
    refine ⟨waker, wakerCall, outcome, ?_, notifies, wakes⟩
    rw [Function.update_of_ne, present]
    rintro rfl
    have holds := outside wakerCall present
    rw [notifies] at holds
    cases holds

/-- A caller that does not hold the mutex may forget its call or begin another one. -/
theorem replace (attended : guarded.Attended calls queue) (caller : Caller)
    (next : Option RingCall)
    (outside : ∀ call, calls caller = some call → call.phase.holds = false)
    (fresh : ∀ call, next = some call → call.phase = .arriving) :
    guarded.Attended (Function.update calls caller next) queue := by
  refine attended.substitute caller next outside ?_ ?_ ?_
  · intro call isNext
    rw [fresh call isNext]
    rfl
  · intro call signals isNext
    rw [fresh call isNext]
    simp
  · intro call isNext
    rw [fresh call isNext]
    trivial

/-- A sleeper may wake up although nobody woke him. -/
theorem rouse (attended : guarded.Attended calls queue) {request : RingRequest}
    {signals : Nat} (sleeps : calls caller = some ⟨request, .asleep signals⟩) :
    guarded.Attended (Function.update calls caller (some ⟨request, .relocking⟩)) queue := by
  have soundAsleep := attended.sound caller _ sleeps
  refine attended.substitute caller _ ?_ ?_ ?_ ?_
  · intro call present
    rw [sleeps] at present
    cases present
    rfl
  · rintro call ⟨⟩
    rfl
  · rintro call signals ⟨⟩
    simp
  · rintro call ⟨⟩
    exact soundAsleep

end Attended

end GuardedRing

end BoundedStream
