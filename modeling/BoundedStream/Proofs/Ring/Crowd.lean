import BoundedStream.Proofs.Ring.Attended
import Mathlib.Logic.Relation

/-!
# Crowds at a ring

Any number of callers work on one ring at once, in any interleaving of their steps, and a
sleeper may wake up although nobody woke him.  Calls pass through the mutex one after
another, and their passages are written down in that order.  Made again in the same order,
one at a time, on a bounded queue, the calls get the same answers and leave the same bytes;
a call that has not passed yet has left no trace on the ring.  No call sleeps that the ring
could serve.
-/

namespace BoundedStream

/-! ## One call after another -/

namespace RingRequest

/-- What a queue of at most `capacity` bytes answers to requests that are made one after
another, and the queue afterwards; there are no answers if one of them would have to
wait. -/
def serveAll? (capacity : Nat) (queue : List UInt8) :
    List RingRequest → Option (List RingOutcome × List UInt8)
  | [] => some ([], queue)
  | request :: requests =>
    match request.serve? capacity queue with
    | none => none
    | some (outcome, next) =>
      (serveAll? capacity next requests).map fun (outcomes, last) => (outcome :: outcomes, last)

variable {capacity : Nat} {queue next last : List UInt8} {request : RingRequest}
  {requests : List RingRequest} {outcome : RingOutcome} {outcomes : List RingOutcome}

theorem serveAll?_cons (served : request.serve? capacity queue = some (outcome, next)) :
    serveAll? capacity queue (request :: requests) =
      (serveAll? capacity next requests).map fun (outcomes, last) =>
        (outcome :: outcomes, last) := by
  rw [serveAll?, served]

/-- The last of several requests meets the queue that the others left. -/
theorem serveAll?_concat
    (before : serveAll? capacity queue requests = some (outcomes, next))
    (served : request.serve? capacity next = some (outcome, last)) :
    serveAll? capacity queue (requests ++ [request]) = some (outcomes ++ [outcome], last) := by
  induction requests generalizing queue outcomes with
  | nil =>
      cases before
      rw [List.nil_append, serveAll?_cons served]
      rfl
  | cons first requests hypothesis =>
      simp only [serveAll?] at before
      split at before
      · cases before
      · rename_i answer middle firstServed
        obtain ⟨⟨later, reached⟩, rest, same⟩ := Option.map_eq_some_iff.mp before
        cases same
        rw [List.cons_append, serveAll?_cons firstServed, hypothesis rest]
        rfl

/-- What an answered request has done to the ring: one that failed has done nothing. -/
def imprint : RingRequest → RingOutcome → Ring → Ring
  | produce data _, .produced _, ring => ring.put data
  | consume length _, .consumed _, ring => ring.discard length
  | _, _, ring => ring

/-- What a call has done to the ring since it took the mutex. -/
def progress (request : RingRequest) (ring : Ring) : RingPhase → Ring
  | .updating _ => (request.copy ring).1
  | .notifying outcome | .unlocking outcome => request.imprint outcome ring
  | _ => ring

theorem imprint_copy (request : RingRequest) (ring : Ring) :
    request.imprint (request.copy ring).2 ring = request.update (request.copy ring).1 := by
  cases request <;> rfl

@[simp]
theorem capacity_copy (request : RingRequest) (ring : Ring) :
    (request.copy ring).1.capacity = ring.capacity := by
  cases request <;> rfl

@[simp]
theorem capacity_imprint (request : RingRequest) (outcome : RingOutcome) (ring : Ring) :
    (request.imprint outcome ring).capacity = ring.capacity := by
  cases request <;> cases outcome <;> rfl

@[simp]
theorem capacity_progress (request : RingRequest) (ring : Ring) (phase : RingPhase) :
    (request.progress ring phase).capacity = ring.capacity := by
  cases phase <;> simp [progress]

end RingRequest

/-! ## Crowds -/

/-- A call that has left the mutex for good. -/
structure Passage (Caller : Type) where
  caller : Caller
  request : RingRequest
  outcome : RingOutcome

namespace Passage

variable {Caller : Type} (passage : Passage Caller)

/-- The bytes that the call took out of the ring. -/
def taken : List UInt8 := passage.outcome.taken

/-- The bytes that the call put in the ring. -/
def put : List UInt8 := passage.request.acknowledged passage.outcome

def imprint (ring : Ring) : Ring := passage.request.imprint passage.outcome ring

end Passage

/-- What calls took out of a queue, one after another, and what they left in it are the bytes
that it had and those that they put in. -/
theorem RingRequest.serveAll?_balance {Caller : Type} {capacity : Nat}
    {queue last : List UInt8} {passages : List (Passage Caller)}
    (served : serveAll? capacity queue (passages.map Passage.request) =
      some (passages.map Passage.outcome, last)) :
    passages.flatMap Passage.taken ++ last = queue ++ passages.flatMap Passage.put := by
  induction passages generalizing queue with
  | nil =>
      cases served
      simp
  | cons passage passages hypothesis =>
      simp only [List.map_cons, serveAll?] at served
      split at served
      · cases served
      · rename_i outcome next answered
        obtain ⟨⟨later, reached⟩, rest, same⟩ := Option.map_eq_some_iff.mp served
        cases same
        have first : passage.taken ++ next = queue ++ passage.put := serve?_balance answered
        rw [List.flatMap_cons, List.flatMap_cons, List.append_assoc, hypothesis rest,
          ← List.append_assoc, first, List.append_assoc]

/-- A ring with its callers. -/
structure Crowd (Caller : Type) where
  guarded : GuardedRing
  calls : Caller → Option RingCall
  /-- The calls that have left the mutex for good, in the order in which they left it. -/
  passages : List (Passage Caller)

namespace Crowd

variable {Caller : Type}

/-- A ring that nobody uses yet. -/
def start (guarded : GuardedRing) : Crowd Caller := ⟨guarded, fun _ => none, []⟩

/-- The passage that a step of a call makes, if the call leaves the mutex for good. -/
def passageOf (caller : Caller) (call : RingCall) : List (Passage Caller) :=
  match call.phase with
  | .unlocking outcome => [⟨caller, call.request, outcome⟩]
  | _ => []

/-- A caller that has no call under way. -/
def Idle (crowd : Crowd Caller) (caller : Caller) : Prop :=
  ∀ call, crowd.calls caller = some call → ∃ outcome, call.phase = .finished outcome

/-- Everything that may happen in a crowd. -/
inductive Step [DecidableEq Caller] : Crowd Caller → Crowd Caller → Prop
  | begin {crowd : Crowd Caller} (caller : Caller) (request : RingRequest)
      (idle : crowd.Idle caller) :
      Step crowd
        { crowd with calls := Function.update crowd.calls caller (some (.start request)) }
  | advance {crowd : Crowd Caller} (caller : Caller) (call call' : RingCall)
      (guarded : GuardedRing) (running : crowd.calls caller = some call)
      (stepped : call.step crowd.guarded = some (guarded, call')) :
      Step crowd
        { guarded
          calls := Function.update crowd.calls caller (some call')
          passages := crowd.passages ++ passageOf caller call }
  /-- A sleeper wakes up although nobody woke him. -/
  | rouse {crowd : Crowd Caller} (caller : Caller) (request : RingRequest) (signals : Nat)
      (sleeps : crowd.calls caller = some ⟨request, .asleep signals⟩) :
      Step crowd
        { crowd with
          calls := Function.update crowd.calls caller (some ⟨request, .relocking⟩) }

/-- The call of a caller takes a step if it can. -/
def goOn [DecidableEq Caller] (crowd : Crowd Caller) (caller : Caller) : Crowd Caller :=
  match crowd.calls caller with
  | none => crowd
  | some call =>
    match call.step crowd.guarded with
    | none => crowd
    | some (guarded, call') =>
      { guarded
        calls := Function.update crowd.calls caller (some call')
        passages := crowd.passages ++ passageOf caller call }

/-- The callers take a step each, one after another. -/
def goOnAll [DecidableEq Caller] (crowd : Crowd Caller) (callers : List Caller) :
    Crowd Caller :=
  callers.foldl goOn crowd

theorem steps_goOn [DecidableEq Caller] (crowd : Crowd Caller) (caller : Caller) :
    Relation.ReflTransGen Step crowd (crowd.goOn caller) := by
  unfold goOn
  split
  · exact .refl
  · rename_i call running
    split
    · exact .refl
    · rename_i guarded call' stepped
      exact .single (.advance caller call call' guarded running stepped)

theorem steps_goOnAll [DecidableEq Caller] (crowd : Crowd Caller) (callers : List Caller) :
    Relation.ReflTransGen Step crowd (crowd.goOnAll callers) := by
  induction callers generalizing crowd with
  | nil => exact .refl
  | cons caller callers hypothesis =>
      exact (crowd.steps_goOn caller).trans (hypothesis (crowd.goOn caller))

/-- The requests that have passed. -/
def requests (crowd : Crowd Caller) : List RingRequest :=
  crowd.passages.map Passage.request

/-- The answers to the requests that have passed. -/
def outcomes (crowd : Crowd Caller) : List RingOutcome :=
  crowd.passages.map Passage.outcome

/-- A ring after the calls that have passed, as if they had been made one at a time. -/
def imprinted (crowd : Crowd Caller) (ring : Ring) : Ring :=
  crowd.passages.foldl (fun ring passage => passage.imprint ring) ring

@[simp]
theorem capacity_imprinted (crowd : Crowd Caller) (ring : Ring) :
    (crowd.imprinted ring).capacity = ring.capacity := by
  obtain ⟨guarded, calls, passages⟩ := crowd
  unfold imprinted
  induction passages generalizing ring with
  | nil => rfl
  | cons passage passages hypothesis =>
      rw [List.foldl_cons, hypothesis]
      exact RingRequest.capacity_imprint passage.request passage.outcome ring

/-! ## What is known of ring and queue -/

/-- What a call with the mutex relies on, where `settled` are the bytes that the ring held
when it took the mutex. -/
def Grasps (request : RingRequest) (base ring : Ring) (settled queue : List UInt8)
    (phase : RingPhase) : Prop :=
  ring = request.progress base phase ∧
    match phase with
    | .updating outcome => outcome = (request.copy base).2 ∧ queue = settled
    | .notifying outcome | .unlocking outcome =>
      request.serve? base.capacity settled = some (outcome, queue)
    | _ => queue = settled

theorem grasps_of_outside {request : RingRequest} {base ring : Ring}
    {settled queue : List UInt8} {phase : RingPhase} (outside : phase.holds = false) :
    Grasps request base ring settled queue phase ↔ ring = base ∧ queue = settled := by
  cases phase <;> first | rfl | cases outside

/-- A step under the mutex does what the call says it does, and a call is answered as the
queue answers it that it found. -/
theorem Grasps.step {guarded guarded' : GuardedRing} {request : RingRequest}
    {phase phase' : RingPhase} {base : Ring} {settled queue queue' : List UInt8}
    (grasps : Grasps request base guarded.ring settled queue phase)
    (step : RingCall.Step guarded request phase guarded' phase')
    (healthy : guarded.monitor.Healthy) (sound : request.Sound guarded.ring phase)
    (represents : guarded.ring.Represents queue)
    (represents' : guarded'.ring.Represents queue')
    (took : GuardedRing.Took guarded.ring.capacity request phase phase' queue queue')
    (stays : ∀ outcome, phase ≠ .unlocking outcome) :
    Grasps request base guarded'.ring settled queue' phase' := by
  have same : guarded'.ring = guarded.ring → queue' = queue := by
    intro sameRing
    rw [← represents'.contents_eq, sameRing, represents.contents_eq]
  obtain ⟨isRing, isQueue⟩ := grasps
  cases step with
  | reject text rejected => exact ⟨isRing, (same rfl).trans isQueue⟩
  | glance measures unshared => exact ⟨isRing, (same rfl).trans isQueue⟩
  | approach admitted reached => exact ⟨isRing, (same rfl).trans isQueue⟩
  | acquire phase wanting free =>
      rcases wanting with rfl | rfl <;> exact ⟨isRing, (same rfl).trans isQueue⟩
  | lose phase wanting monitor error lost => exact (healthy.not_lost lost).elim
  | measure measures =>
      subst measures
      refine ⟨isRing, ?_⟩
      have found : queue = settled := isQueue
      have size_eq : guarded.ring.size = settled.length := by
        rw [represents.size_eq, found]
      simp only [RingRequest.serve?, size_eq, same rfl, found]
  | fit moves fits => exact ⟨isRing, (same rfl).trans isQueue⟩
  | sleep moves lacks waits => exact ⟨isRing, (same rfl).trans isQueue⟩
  | refuse moves lacks hastens =>
      -- A call that will not wait is answered by the queue that it found.
      have found : queue = settled := isQueue
      have ringFound : guarded.ring = base := isRing
      refine ⟨?_, ?_⟩
      · cases request <;> exact isRing
      · cases took with
        | nothing unanswered => cases unanswered
        | effect outcome undecided decided answered =>
            cases decided
            have admitted : request.rejection? guarded.ring.capacity = none := sound
            rw [RingRequest.answer?, admitted] at answered
            rw [← ringFound, ← found]
            exact answered
  | wake signals changed => exact ⟨isRing, (same rfl).trans isQueue⟩
  | copy =>
      have ringFound : guarded.ring = base := isRing
      cases took with
      | nothing unanswered => exact ⟨by rw [ringFound]; rfl, by rw [ringFound], isQueue⟩
      | effect outcome undecided decided answered => cases decided
  | update outcome =>
      -- The bytes are in place already; the cursors move now, and the queue changes.
      obtain ⟨isOutcome, found⟩ := isQueue
      have copied : guarded.ring = (request.copy base).1 := isRing
      cases took with
      | nothing unanswered => cases unanswered
      | effect decision undecided decided answered =>
          cases decided
          obtain ⟨admitted, -⟩ := sound
          rw [RingRequest.answer?, admitted] at answered
          refine ⟨?_, ?_⟩
          · change request.update guarded.ring = request.imprint outcome base
            rw [copied, isOutcome, RingRequest.imprint_copy]
          · rw [← found, ← RingRequest.capacity_copy request base, ← copied]
            exact answered
  | notify outcome =>
      rw [same rfl]
      exact ⟨isRing, isQueue⟩
  | unlock outcome => exact absurd rfl (stays outcome)

/-- The calls that have passed, one after another, account for the ring and for the bytes in
it, except for what the call with the mutex has done since. -/
structure Sound (crowd : Crowd Caller) (origin : Ring) (source settled queue : List UInt8) :
    Prop where
  attended : crowd.guarded.Attended crowd.calls queue
  served : RingRequest.serveAll? origin.capacity source crowd.requests =
    some (crowd.outcomes, settled)
  grasps : ∀ caller call, crowd.calls caller = some call → call.phase.holds = true →
    Grasps call.request (crowd.imprinted origin) crowd.guarded.ring settled queue call.phase
  untouched : (∀ caller call, crowd.calls caller = some call → call.phase.holds = false) →
    crowd.guarded.ring = crowd.imprinted origin ∧ queue = settled
  passed : ∀ caller request outcome,
    crowd.calls caller = some ⟨request, .finished outcome⟩ →
      request.rejection? origin.capacity = none → request ≠ .measure →
        (⟨caller, request, outcome⟩ : Passage Caller) ∈ crowd.passages

variable {crowd later : Crowd Caller} {origin : Ring} {source settled queue : List UInt8}

theorem sound_start {guarded : GuardedRing} (represents : guarded.ring.Represents source)
    (free : guarded.monitor.lock = .free) :
    (start guarded : Crowd Caller).Sound guarded.ring source source source where
  attended := .of_idle represents free (by simp [start])
  served := rfl
  grasps caller call running := by cases running
  untouched _ := ⟨rfl, rfl⟩
  passed caller request outcome running := by cases running

namespace Sound

theorem capacity_ring (sound : crowd.Sound origin source settled queue) :
    crowd.guarded.ring.capacity = origin.capacity := by
  by_cases nobody : ∀ caller call, crowd.calls caller = some call → call.phase.holds = false
  · rw [(sound.untouched nobody).1, capacity_imprinted]
  · push Not at nobody
    obtain ⟨caller, call, running, holds⟩ := nobody
    have grasps := sound.grasps caller call running (by simpa using holds)
    rw [grasps.1, RingRequest.capacity_progress, capacity_imprinted]

/-- What the only call is up to that may have the mutex. -/
theorem grasps_of_alone (sound : crowd.Sound origin source settled queue) {caller : Caller}
    {call : RingCall} (running : crowd.calls caller = some call)
    (alone : ∀ other otherCall, other ≠ caller → crowd.calls other = some otherCall →
      otherCall.phase.holds = false) :
    Grasps call.request (crowd.imprinted origin) crowd.guarded.ring settled queue
      call.phase := by
  cases holds : call.phase.holds with
  | true => exact sound.grasps caller call running holds
  | false =>
      refine (grasps_of_outside holds).mpr (sound.untouched fun other otherCall present => ?_)
      by_cases same : other = caller
      · subst same
        rw [running] at present
        cases present
        exact holds
      · exact alone other otherCall same present

/-- While nobody has the mutex, the ring is exactly what the passed calls have left. -/
theorem of_unlocked (sound : crowd.Sound origin source settled queue)
    (unlocked : crowd.guarded.monitor.lock = .free) :
    crowd.guarded.ring.Represents settled ∧ crowd.guarded.ring = crowd.imprinted origin := by
  have nobody : ∀ caller call, crowd.calls caller = some call → call.phase.holds = false := by
    intro caller call running
    by_contra holds
    have held := sound.attended.lock_held caller call running (by simpa using holds)
    rw [unlocked] at held
    cases held
  obtain ⟨isRing, rfl⟩ := sound.untouched nobody
  exact ⟨sound.attended.represents, isRing⟩

variable [DecidableEq Caller] {caller : Caller} {next : RingCall}

/-- A call outside of the mutex may come in the place of another one as long as the ring stays
as it is. -/
theorem substitute (sound : crowd.Sound origin source settled queue)
    (outside : ∀ call, crowd.calls caller = some call → call.phase.holds = false)
    (stays : next.phase.holds = false)
    (unpassed : ∀ outcome, next.phase = .finished outcome →
      next.request.rejection? origin.capacity = none → next.request = .measure)
    {guarded : GuardedRing} (sameRing : guarded.ring = crowd.guarded.ring)
    (attended : guarded.Attended (Function.update crowd.calls caller (some next)) queue) :
    (⟨guarded, Function.update crowd.calls caller (some next), crowd.passages⟩ :
      Crowd Caller).Sound origin source settled queue where
  attended := attended
  served := sound.served
  grasps other call running holds := by
    rcases RingCall.of_update running with ⟨-, ⟨⟩⟩ | ⟨-, running⟩
    · rw [stays] at holds
      cases holds
    · have grasped := sound.grasps other call running holds
      rwa [← sameRing] at grasped
  untouched nobody := by
    rw [sameRing]
    refine sound.untouched fun other call running => ?_
    by_cases same : other = caller
    · subst same
      exact outside call running
    · exact nobody other call ((Function.update_of_ne same _ _).trans running)
  passed other request outcome running admitted moves := by
    rcases RingCall.of_update running with ⟨-, isNext⟩ | ⟨-, running⟩
    · cases isNext
      exact absurd (unpassed outcome rfl admitted) moves
    · exact sound.passed other request outcome running admitted moves

/-- A step under the mutex keeps the account if it keeps that of its own call. -/
private theorem of_alone {crowd : Crowd Caller} {call : RingCall}
    (attended : crowd.guarded.Attended crowd.calls queue)
    (served : RingRequest.serveAll? origin.capacity source crowd.requests =
      some (crowd.outcomes, settled))
    (running : crowd.calls caller = some call)
    (alone : ∀ other otherCall, other ≠ caller → crowd.calls other = some otherCall →
      otherCall.phase.holds = false)
    (grasps : Grasps call.request (crowd.imprinted origin) crowd.guarded.ring settled queue
      call.phase)
    (passed : ∀ other request outcome,
      crowd.calls other = some ⟨request, .finished outcome⟩ →
        request.rejection? origin.capacity = none → request ≠ .measure →
          (⟨other, request, outcome⟩ : Passage Caller) ∈ crowd.passages) :
    crowd.Sound origin source settled queue where
  attended := attended
  served := served
  grasps other otherCall present holds := by
    by_cases same : other = caller
    · subst same
      rw [running] at present
      cases present
      exact grasps
    · rw [alone other otherCall same present] at holds
      cases holds
  untouched nobody := (grasps_of_outside (nobody caller call running)).mp grasps
  passed := passed

section

variable {guarded : GuardedRing} {request : RingRequest} {phase phase' : RingPhase}
  {queue' : List UInt8} (sound : crowd.Sound origin source settled queue)
  (running : crowd.calls caller = some ⟨request, phase⟩)
  (attended : guarded.Attended (Function.update crowd.calls caller (some ⟨request, phase'⟩))
    queue')
  (step : RingCall.Step crowd.guarded request phase guarded phase')

include sound running attended

/-- While a call takes the mutex, has it or leaves it, no other call has it. -/
private theorem alone_of_step (inside : phase.holds = true ∨ phase'.holds = true)
    {other : Caller} {call : RingCall} (distinct : other ≠ caller)
    (present : crowd.calls other = some call) : call.phase.holds = false := by
  by_contra holds
  have otherHolds : call.phase.holds = true := by simpa using holds
  have still : Function.update crowd.calls caller (some ⟨request, phase'⟩) other =
      some call := (Function.update_of_ne distinct _ _).trans present
  rcases inside with before | after
  · exact distinct (sound.attended.exclusive other caller call _ present running otherHolds
      before)
  · exact distinct (attended.exclusive other caller call _ still (Function.update_self ..)
      otherHolds after)

private theorem alone_after (inside : phase.holds = true ∨ phase'.holds = true)
    (other : Caller) (call : RingCall) (distinct : other ≠ caller)
    (present : Function.update crowd.calls caller (some ⟨request, phase'⟩) other =
      some call) : call.phase.holds = false := by
  rw [Function.update_of_ne distinct] at present
  exact sound.alone_of_step running attended inside distinct present

omit running in
private theorem queue_eq (sameRing : guarded.ring = crowd.guarded.ring) : queue' = queue := by
  rw [← attended.represents.contents_eq, sameRing, sound.attended.represents.contents_eq]

include step

/-- Outside of the mutex a call changes nothing. -/
private theorem advance_outside (outside : phase.holds = false)
    (stays : phase'.holds = false) :
    (⟨guarded, Function.update crowd.calls caller (some ⟨request, phase'⟩),
      crowd.passages⟩ : Crowd Caller).Sound origin source settled queue := by
  have sameRing := step.ring_eq outside
  cases sound.queue_eq attended sameRing
  refine sound.substitute ?_ stays ?_ sameRing attended
  · intro call present
    rw [running] at present
    cases present
    exact outside
  · rintro outcome ⟨⟩ admitted
    cases step with
    | reject text rejected =>
        rw [sound.capacity_ring, admitted] at rejected
        cases rejected
    | glance measures unshared => exact measures
    | lose _ _ _ _ lost => exact (sound.attended.healthy.not_lost lost).elim
    | unlock => cases outside

/-- A call under the mutex does what it says until it leaves the mutex. -/
private theorem advance_inside
    (took : GuardedRing.Took crowd.guarded.ring.capacity request phase phase' queue queue')
    (inside : phase.holds = true ∨ phase'.holds = true)
    (stays : ∀ outcome, phase ≠ .unlocking outcome) :
    (⟨guarded, Function.update crowd.calls caller (some ⟨request, phase'⟩),
      crowd.passages⟩ : Crowd Caller).Sound origin source settled queue' := by
  have grasps := sound.grasps_of_alone running fun other call distinct present =>
    sound.alone_of_step running attended inside distinct present
  have graspsAfter := grasps.step step sound.attended.healthy
    (sound.attended.sound caller _ running) sound.attended.represents attended.represents took
    stays
  refine of_alone attended sound.served (Function.update_self ..)
    (sound.alone_after running attended inside) graspsAfter ?_
  intro other otherRequest outcome present admitted moves
  rcases RingCall.of_update present with ⟨rfl, ⟨⟩⟩ | ⟨-, present⟩
  · -- Only a call that leaves the mutex ends under it.
    cases step with
    | unlock => exact absurd rfl (stays _)
    | lose _ _ _ _ lost => exact (sound.attended.healthy.not_lost lost).elim
    | _ => simp [RingPhase.holds] at inside
  · exact sound.passed other otherRequest outcome present admitted moves

end

/-- A call that leaves the mutex for good has passed. -/
private theorem pass (sound : crowd.Sound origin source settled queue)
    {guarded : GuardedRing} {request : RingRequest} {outcome : RingOutcome}
    {queue' : List UInt8}
    (running : crowd.calls caller = some ⟨request, .unlocking outcome⟩)
    (attended : guarded.Attended
      (Function.update crowd.calls caller (some ⟨request, .finished outcome⟩)) queue')
    (sameRing : guarded.ring = crowd.guarded.ring) :
    (⟨guarded, Function.update crowd.calls caller (some ⟨request, .finished outcome⟩),
      crowd.passages ++ [⟨caller, request, outcome⟩]⟩ : Crowd Caller).Sound origin source
        queue queue := by
  cases sound.queue_eq attended sameRing
  obtain ⟨isRing, answered⟩ := sound.grasps caller _ running rfl
  rw [capacity_imprinted] at answered
  refine of_alone attended ?_ (Function.update_self ..)
    (sound.alone_after running attended (.inl rfl)) ((grasps_of_outside rfl).mpr ⟨?_, rfl⟩) ?_
  · simp only [requests, outcomes, List.map_append]
    exact RingRequest.serveAll?_concat sound.served answered
  · simp only [imprinted, List.foldl_append]
    exact sameRing.trans isRing
  · intro other otherRequest otherOutcome present admitted moves
    rcases RingCall.of_update present with ⟨rfl, ⟨⟩⟩ | ⟨-, present⟩
    · exact List.mem_append_right _ (List.mem_singleton.mpr rfl)
    · exact List.mem_append_left _
        (sound.passed other otherRequest otherOutcome present admitted moves)

theorem advance (sound : crowd.Sound origin source settled queue) {call call' : RingCall}
    {guarded : GuardedRing} (running : crowd.calls caller = some call)
    (stepped : call.step crowd.guarded = some (guarded, call')) :
    ∃ settled' queue',
      (⟨guarded, Function.update crowd.calls caller (some call'),
        crowd.passages ++ passageOf caller call⟩ : Crowd Caller).Sound origin source settled'
          queue' := by
  obtain ⟨-, step⟩ := RingCall.step_cases stepped
  obtain ⟨sameRequest, queue', attended, took⟩ := sound.attended.step running stepped
  obtain ⟨request, phase⟩ := call
  obtain ⟨request', phase'⟩ := call'
  cases sameRequest
  -- Only the step that gives the mutex back for good makes a passage.
  by_cases leaves : ∃ outcome, phase = .unlocking outcome
  · obtain ⟨outcome, rfl⟩ := leaves
    cases step with
    | unlock => exact ⟨queue, queue, sound.pass running attended rfl⟩
    | acquire _ wanting => simp at wanting
    | lose _ wanting => simp at wanting
  · have stays : ∀ outcome, phase ≠ .unlocking outcome :=
      fun outcome isLast => leaves ⟨outcome, isLast⟩
    have nothing : passageOf caller ⟨request, phase⟩ = [] := by
      cases phase <;> first | rfl | exact absurd rfl (stays _)
    rw [nothing, List.append_nil]
    by_cases inside : phase.holds = true ∨ phase'.holds = true
    · exact ⟨settled, queue', sound.advance_inside running attended step took inside stays⟩
    · simp only [not_or, Bool.not_eq_true] at inside
      exact ⟨settled, queue, sound.advance_outside running attended step inside.1 inside.2⟩

theorem step (sound : crowd.Sound origin source settled queue) (step : Step crowd later) :
    ∃ settled' queue', later.Sound origin source settled' queue' := by
  cases step with
  | begin caller request idle =>
      have outside : ∀ call, crowd.calls caller = some call → call.phase.holds = false := by
        intro call running
        obtain ⟨outcome, isFinished⟩ := idle call running
        rw [isFinished]
        rfl
      refine ⟨settled, queue, sound.substitute outside rfl ?_ rfl
        (sound.attended.replace caller _ outside ?_)⟩
      · rintro outcome ⟨⟩
      · rintro call ⟨⟩
        rfl
  | advance caller call call' guarded running stepped => exact sound.advance running stepped
  | rouse caller request signals sleeps =>
      refine ⟨settled, queue, sound.substitute ?_ rfl ?_ rfl (sound.attended.rouse sleeps)⟩
      · intro call running
        rw [sleeps] at running
        cases running
        rfl
      · rintro outcome ⟨⟩

theorem steps (sound : crowd.Sound origin source settled queue)
    (reaches : Relation.ReflTransGen Step crowd later) :
    ∃ settled' queue', later.Sound origin source settled' queue' := by
  induction reaches with
  | refl => exact ⟨settled, queue, sound⟩
  | tail _ step hypothesis =>
      obtain ⟨settled', queue', sound'⟩ := hypothesis
      exact sound'.step step

end Sound

/-! ## One order for all calls -/

/-- All calls on a ring stand in one order, that of their passages: made one at a time on a
bounded queue they get the same answers and leave the same bytes.  The ring, cursors and
storage included, is what the passed calls have left and the one call with the mutex has done
since; no other call has left a trace on it.  The bytes of each call stay together. -/
theorem replays_in_order [DecidableEq Caller] {guarded : GuardedRing} {crowd : Crowd Caller}
    (represents : guarded.ring.Represents source) (free : guarded.monitor.lock = .free)
    (reaches : Relation.ReflTransGen Step (start guarded) crowd) :
    (∃ settled, RingRequest.serveAll? guarded.ring.capacity source crowd.requests =
        some (crowd.outcomes, settled) ∧
      (crowd.guarded.monitor.lock = .free →
        crowd.guarded.ring.Represents settled ∧
          crowd.guarded.ring = crowd.imprinted guarded.ring ∧
          ∀ earlier passage later, crowd.passages = earlier ++ passage :: later →
            crowd.passages.flatMap Passage.taken ++ settled =
              (source ++ earlier.flatMap Passage.put) ++ passage.put ++
                later.flatMap Passage.put)) ∧
      (∀ caller request outcome, crowd.calls caller = some ⟨request, .finished outcome⟩ →
        request.rejection? guarded.ring.capacity = none → request ≠ .measure →
          (⟨caller, request, outcome⟩ : Passage Caller) ∈ crowd.passages) ∧
      (∀ caller call, crowd.calls caller = some call → call.phase.holds = true →
        crowd.guarded.ring =
            call.request.progress (crowd.imprinted guarded.ring) call.phase ∧
          ∀ other otherCall, crowd.calls other = some otherCall →
            otherCall.phase.holds = true → other = caller) ∧
      crowd.guarded.ring.capacity = guarded.ring.capacity ∧
      crowd.guarded.ring.size ≤ guarded.ring.capacity := by
  obtain ⟨settled, queue, sound⟩ := (sound_start represents free).steps reaches
  refine ⟨⟨settled, sound.served, fun unlocked => ?_⟩, sound.passed, ?_, sound.capacity_ring,
    ?_⟩
  · obtain ⟨stands, isRing⟩ := sound.of_unlocked unlocked
    refine ⟨stands, isRing, fun earlier passage later split => ?_⟩
    rw [RingRequest.serveAll?_balance sound.served, split]
    simp
  · intro caller call running holds
    refine ⟨(sound.grasps caller call running holds).1, ?_⟩
    intro other otherCall present otherHolds
    exact sound.attended.exclusive other caller otherCall call present running otherHolds
      holds
  · rw [← sound.capacity_ring]
    exact sound.attended.represents.size_le

/-- A consumer of three bytes falls asleep on an empty ring, wakes up without cause, and is
overtaken by a producer before it has the mutex again. -/
theorem exists_overtaken : ∃ crowd : Crowd Bool,
    Relation.ReflTransGen Step (start (.new 4 true)) crowd ∧
      crowd.guarded.monitor.lock = .free ∧
      crowd.passages = [⟨true, .produce [97, 98, 99] false, .produced 3⟩,
        ⟨false, .consume 3 true, .consumed [97, 98, 99]⟩] := by
  have begun : Relation.ReflTransGen Step (start (.new 4 true) : Crowd Bool) _ :=
    .single (.begin false (.consume 3 true) (by rintro call ⟨⟩))
  have asleep := begun.trans (steps_goOnAll _ [false, false, false])
  have roused := asleep.tail (.rouse false (.consume 3 true) 0 rfl)
  have joined := roused.tail (.begin true (.produce [97, 98, 99] false) (by rintro call ⟨⟩))
  have produced := joined.trans (steps_goOnAll _ (List.replicate 7 true))
  have consumed := produced.trans (steps_goOnAll _ (List.replicate 6 false))
  exact ⟨_, consumed, rfl, rfl⟩

theorem replays_in_order_of_three_bytes : ∃ crowd : Crowd Bool,
    Relation.ReflTransGen Step (start (.new 4 true)) crowd ∧
      crowd.outcomes = [.produced 3, .consumed [97, 98, 99]] ∧
      (∃ settled, RingRequest.serveAll? 4 [] crowd.requests =
        some (crowd.outcomes, settled)) ∧
      crowd.guarded.ring = ((Ring.empty 4).put [97, 98, 99]).discard 3 := by
  obtain ⟨crowd, reaches, unlocked, passages⟩ := exists_overtaken
  obtain ⟨⟨settled, served, stands⟩, -⟩ :=
    replays_in_order (Ring.represents_empty (by decide)) rfl reaches
  obtain ⟨-, isRing, -⟩ := stands unlocked
  refine ⟨crowd, reaches, ?_, ⟨settled, served⟩, ?_⟩
  · rw [outcomes, passages]
    rfl
  · rw [isRing, imprinted, passages]
    rfl

/-! ## No call sleeps that the ring could serve -/

/-- A call sleeps on a condition as long as no broadcast has reached it since it fell
asleep. -/
def SleepsOn (crowd : Crowd Caller) (caller : Caller) (condition : Condition)
    (request : RingRequest) : Prop :=
  request.condition = condition ∧ ∃ signals,
    crowd.calls caller = some ⟨request, .asleep signals⟩ ∧
      crowd.guarded.monitor.signals condition = signals

theorem Sound.serve?_of_sleepsOn (sound : crowd.Sound origin source settled queue)
    (unlocked : crowd.guarded.monitor.lock = .free) {caller : Caller} {condition : Condition}
    {request : RingRequest} (sleeps : crowd.SleepsOn caller condition request) :
    request.serve? crowd.guarded.ring.capacity queue = none := by
  obtain ⟨rfl, signals, running, unreached⟩ := sleeps
  obtain ⟨-, untold⟩ := sound.attended.told caller request signals running
  rcases untold unreached with lacks | ⟨waker, call, outcome, present, notifies, -⟩
  · exact lacks
  · -- A broadcast that is still to come is made under the mutex, which nobody has.
    have held := sound.attended.lock_held waker call present (by rw [notifies]; rfl)
    rw [unlocked] at held
    cases held

/-- While nobody has the mutex, whoever sleeps for space asks for more than there is, and
whoever sleeps for data as well; a call that a broadcast has reached may go on at once. -/
theorem sleepers_lack [DecidableEq Caller] {guarded : GuardedRing} {crowd : Crowd Caller}
    (represents : guarded.ring.Represents source) (free : guarded.monitor.lock = .free)
    (reaches : Relation.ReflTransGen Step (start guarded) crowd)
    (unlocked : crowd.guarded.monitor.lock = .free) :
    (∀ caller request, crowd.SleepsOn caller .spaceAvailable request →
        crowd.guarded.ring.capacity - crowd.guarded.ring.size < request.length) ∧
      (∀ caller request, crowd.SleepsOn caller .dataAvailable request →
        crowd.guarded.ring.size < request.length) ∧
      ∀ caller request signals, crowd.calls caller = some ⟨request, .asleep signals⟩ →
        crowd.SleepsOn caller request.condition request ∨
          RingCall.step crowd.guarded ⟨request, .asleep signals⟩ =
            some (crowd.guarded, ⟨request, .relocking⟩) := by
  obtain ⟨settled, queue, sound⟩ := (sound_start represents free).steps reaches
  have size_eq := sound.attended.represents.size_eq
  refine ⟨?_, ?_, ?_⟩
  · intro caller request sleeps
    have lacks := RingRequest.serve?_eq_none_iff.mp (sound.serve?_of_sleepsOn unlocked sleeps)
    cases request with
    | produce data wait =>
        have few := lacks.2
        have fits := sound.attended.represents.length_le
        rw [size_eq, RingRequest.length]
        omega
    | consume length wait => cases sleeps.1
    | measure => exact lacks.elim
  · intro caller request sleeps
    have lacks := RingRequest.serve?_eq_none_iff.mp (sound.serve?_of_sleepsOn unlocked sleeps)
    cases request with
    | produce data wait => cases sleeps.1
    | consume length wait =>
        rw [size_eq]
        exact lacks.2
    | measure => exact lacks.elim
  · intro caller request signals running
    by_cases reached : crowd.guarded.monitor.signals request.condition = signals
    · exact .inl ⟨rfl, signals, running, reached⟩
    · exact .inr (if_neg reached)

/-- A ring of four bytes that holds three, where a producer of two bytes and a consumer of
four sleep at the same time. -/
theorem exists_both_asleep : ∃ crowd : Crowd (Fin 3),
    Relation.ReflTransGen Step (start (.new 4 true)) crowd ∧
      crowd.guarded.monitor.lock = .free ∧ crowd.guarded.ring.size = 3 ∧
      crowd.guarded.ring.capacity = 4 ∧
      crowd.SleepsOn 1 .spaceAvailable (.produce [1, 2] true) ∧
      crowd.SleepsOn 2 .dataAvailable (.consume 4 true) := by
  have begun : Relation.ReflTransGen Step (start (.new 4 true) : Crowd (Fin 3)) _ :=
    .single (.begin 0 (.produce [97, 98, 99] true) (by rintro call ⟨⟩))
  have filled := begun.trans (steps_goOnAll _ (List.replicate 7 0))
  have sending := filled.tail (.begin 1 (.produce [1, 2] true) (by rintro call ⟨⟩))
  have joined := sending.tail (.begin 2 (.consume 4 true) (by rintro call ⟨⟩))
  have asleep := joined.trans (steps_goOnAll _ [1, 2, 1, 1, 2, 2])
  exact ⟨_, asleep, rfl, rfl, rfl, ⟨rfl, _, rfl, rfl⟩, ⟨rfl, _, rfl, rfl⟩⟩

theorem sleepers_lack_of_three_bytes : ∃ crowd : Crowd (Fin 3),
    Relation.ReflTransGen Step (start (.new 4 true)) crowd ∧
      crowd.guarded.monitor.lock = .free ∧
      crowd.SleepsOn 1 .spaceAvailable (.produce [1, 2] true) ∧
      crowd.SleepsOn 2 .dataAvailable (.consume 4 true) ∧
      crowd.guarded.ring.capacity - crowd.guarded.ring.size < 2 ∧
      crowd.guarded.ring.size < 4 := by
  obtain ⟨crowd, reaches, unlocked, -, -, sends, receives⟩ := exists_both_asleep
  obtain ⟨space, data, -⟩ :=
    sleepers_lack (Ring.represents_empty (by decide)) rfl reaches unlocked
  exact ⟨crowd, reaches, unlocked, sends, receives, space 1 _ sends, data 2 _ receives⟩

end Crowd

end BoundedStream
