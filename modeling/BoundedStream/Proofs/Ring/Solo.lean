import BoundedStream.Proofs.Host.Rings
import BoundedStream.Proofs.Ring.Step

/-!
# Calls alone on a ring

A call that nobody disturbs goes on until it is answered as the queue answers it, or falls
asleep because the queue has no answer yet.  Whoever sleeps on a condition is told of
every change that could give his request an answer.
-/

namespace BoundedStream

/-! ## Rings that change with their queue -/

namespace GuardedRing

/-- How a ring is left by a call that changed the queue, if at all: free, and with every
sleeper told whose request might have an answer now. -/
structure Follows (guarded guarded' : GuardedRing) (queue queue' : List UInt8) : Prop where
  represents : guarded'.ring.Represents queue'
  free : guarded'.monitor.lock = .free
  capacity_eq : guarded'.ring.capacity = guarded.ring.capacity
  signals_le : ∀ condition,
    guarded.monitor.signals condition ≤ guarded'.monitor.signals condition
  told : ∀ request : RingRequest, request.serve? guarded.ring.capacity queue = none →
    guarded'.monitor.signals request.condition =
        guarded.monitor.signals request.condition →
      request.serve? guarded.ring.capacity queue' = none

variable {guarded : GuardedRing} {queue : List UInt8}

theorem follows_refl (represents : guarded.ring.Represents queue)
    (free : guarded.monitor.lock = .free) : guarded.Follows guarded queue queue :=
  ⟨represents, free, rfl, fun _ => Nat.le_refl _, fun _ unanswered _ => unanswered⟩

/-- The ring after a transfer. -/
def afterwards (guarded : GuardedRing) (request : RingRequest) : GuardedRing :=
  { guarded with
    ring := request.update (request.copy guarded.ring).1
    monitor := guarded.monitor.broadcast request.effect }

theorem follows_produce (represents : guarded.ring.Represents queue)
    (free : guarded.monitor.lock = .free) {data : List UInt8} {wait : Bool}
    (fits : queue.length + data.length ≤ guarded.ring.capacity) :
    guarded.Follows (guarded.afterwards (.produce data wait)) queue (queue ++ data) where
  represents := represents.put fits
  free := free
  capacity_eq := rfl
  signals_le condition := by
    cases condition with
    | dataAvailable => exact Nat.le_succ _
    | spaceAvailable => exact Nat.le_refl _
  told request unanswered same := by
    have served : (RingRequest.produce data wait).serve? guarded.ring.capacity queue =
        some (.produced data.length, queue ++ data) := if_pos fits
    refine RingRequest.serve?_eq_none_of_served served ?_ unanswered
    intro wakes
    rw [← wakes] at same
    exact Nat.succ_ne_self _ same

theorem follows_consume (represents : guarded.ring.Represents queue)
    (free : guarded.monitor.lock = .free) {length : Nat} {wait : Bool}
    (fits : length ≤ queue.length) :
    guarded.Follows (guarded.afterwards (.consume length wait)) queue
      (queue.drop length) where
  represents := represents.discard fits
  free := free
  capacity_eq := rfl
  signals_le condition := by
    cases condition with
    | dataAvailable => exact Nat.le_refl _
    | spaceAvailable => exact Nat.le_succ _
  told request unanswered same := by
    have served : (RingRequest.consume length wait).serve? guarded.ring.capacity queue =
        some (.consumed (queue.take length), queue.drop length) := if_pos fits
    refine RingRequest.serve?_eq_none_of_served served ?_ unanswered
    intro wakes
    rw [← wakes] at same
    exact Nat.succ_ne_self _ same

end GuardedRing

/-! ## Undisturbed calls -/

namespace RingCall

/-- So many steps take a call to where it can take no further one. -/
inductive Rests : Nat → GuardedRing → RingCall → GuardedRing → RingCall → Prop
  | here {guarded : GuardedRing} {call : RingCall} (stuck : call.step guarded = none) :
      Rests 0 guarded call guarded call
  | after {count : Nat} {guarded guarded' guarded'' : GuardedRing}
      {call call' call'' : RingCall} (stepped : call.step guarded = some (guarded', call'))
      (rests : Rests count guarded' call' guarded'' call'') :
      Rests (count + 1) guarded call guarded'' call''

variable {guarded : GuardedRing} {request : RingRequest} {queue : List UInt8}

/-- The ring while a call has the mutex. -/
private def locked (guarded : GuardedRing) : GuardedRing :=
  { guarded with monitor := { guarded.monitor with lock := .held } }

private theorem unlocked_locked (free : guarded.monitor.lock = .free) :
    ({ locked guarded with monitor := (locked guarded).monitor.release } : GuardedRing) =
      guarded := by
  obtain ⟨ring, shared, ⟨lock, robust, dataSignals, spaceSignals⟩⟩ := guarded
  cases free
  rfl

private theorem step_to_testing (request : RingRequest)
    (free : guarded.monitor.lock = .free) {phase : RingPhase}
    (wanting : phase = .locking ∨ phase = .relocking) :
    step guarded ⟨request, phase⟩ = some (locked guarded, ⟨request, .testing⟩) := by
  rcases wanting with rfl | rfl <;>
    simp [step, acquire?, Monitor.acquire?, free, goTo, locked]

private theorem rests_of_unlocking (free : guarded.monitor.lock = .free)
    (outcome : RingOutcome) :
    Rests 1 (locked guarded) ⟨request, .unlocking outcome⟩ guarded
      ⟨request, .finished outcome⟩ := by
  refine .after ?_ (.here rfl)
  simp only [step, goTo, unlocked_locked free]

private theorem rests_of_copying (free : guarded.monitor.lock = .free) :
    Rests 4 (locked guarded) ⟨request, .copying⟩ (guarded.afterwards request)
      ⟨request, .finished (request.copy guarded.ring).2⟩ := by
  refine .after rfl (.after rfl (.after rfl (.after ?_ (.here rfl))))
  obtain ⟨ring, shared, ⟨lock, robust, dataSignals, spaceSignals⟩⟩ := guarded
  cases free
  cases request <;> rfl

private theorem test_of_fits (moves : request ≠ .measure)
    (fits : request.length ≤ request.available guarded.ring) :
    step (locked guarded) ⟨request, .testing⟩ =
      some (locked guarded, ⟨request, .copying⟩) := by
  have fitsLocked : request.length ≤ request.available (locked guarded).ring := fits
  simp only [step, test, if_neg moves, if_pos fitsLocked, goTo]

private theorem test_of_lacks (free : guarded.monitor.lock = .free)
    (moves : request ≠ .measure)
    (lacks : ¬ request.length ≤ request.available guarded.ring) :
    step (locked guarded) ⟨request, .testing⟩ =
      if request.waits then
        some (guarded,
          ⟨request, .asleep (guarded.monitor.signals request.condition)⟩)
      else
        some (locked guarded,
          ⟨request, .unlocking (.failed (request.shortage guarded.ring))⟩) := by
  have lacksLocked : ¬ request.length ≤ request.available (locked guarded).ring := lacks
  simp only [step, test, if_neg moves, if_neg lacksLocked, goTo, unlocked_locked free]
  split
  · cases request.condition <;> rfl
  · rfl

/-- What becomes of a call that has the mutex and is left alone with the ring. -/
private theorem rests_of_testing (request : RingRequest)
    (represents : guarded.ring.Represents queue) (free : guarded.monitor.lock = .free) :
    match request.serve? guarded.ring.capacity queue with
    | some (outcome, queue') => ∃ count ≤ 5, ∃ guarded',
        Rests count (locked guarded) ⟨request, .testing⟩ guarded'
          ⟨request, .finished outcome⟩ ∧ guarded.Follows guarded' queue queue'
    | none =>
        Rests 1 (locked guarded) ⟨request, .testing⟩ guarded
          ⟨request, .asleep (guarded.monitor.signals request.condition)⟩ := by
  have stays := GuardedRing.follows_refl represents free
  cases request with
  | measure =>
      refine ⟨2, by omega, guarded, .after rfl ?_, stays⟩
      rw [← represents.size_eq]
      exact rests_of_unlocking free _
  | produce data wait =>
      have moves : RingRequest.produce data wait ≠ .measure := RingRequest.noConfusion
      have available : (RingRequest.produce data wait).length ≤
          (RingRequest.produce data wait).available guarded.ring ↔ _ :=
        RingRequest.length_le_available_iff represents
      simp only [RingRequest.serve?]
      by_cases fits : queue.length + data.length ≤ guarded.ring.capacity
      · rw [if_pos fits]
        exact ⟨5, by omega, _, .after (test_of_fits moves (available.mpr fits))
          (rests_of_copying free), GuardedRing.follows_produce represents free fits⟩
      · have tested := test_of_lacks free moves (mt available.mp fits)
        rw [if_neg fits]
        cases wait with
        | true => exact .after tested (.here (by simp [step]))
        | false =>
            refine ⟨2, by omega, guarded, .after tested ?_, stays⟩
            rw [← represents.space_eq]
            exact rests_of_unlocking free _
  | consume length wait =>
      have moves : RingRequest.consume length wait ≠ .measure := RingRequest.noConfusion
      have available : (RingRequest.consume length wait).length ≤
          (RingRequest.consume length wait).available guarded.ring ↔ _ :=
        RingRequest.length_le_available_iff represents
      simp only [RingRequest.serve?]
      by_cases fits : length ≤ queue.length
      · rw [if_pos fits, ← represents.front_eq fits]
        exact ⟨5, by omega, _, .after (test_of_fits moves (available.mpr fits))
          (rests_of_copying free), GuardedRing.follows_consume represents free fits⟩
      · have tested := test_of_lacks free moves (mt available.mp fits)
        rw [if_neg fits]
        cases wait with
        | true => exact .after tested (.here (by simp [step]))
        | false =>
            refine ⟨2, by omega, guarded, .after tested ?_, stays⟩
            rw [← represents.size_eq]
            exact rests_of_unlocking free _

/-! ## From the beginning to the end -/

/-- A call that is left alone is answered as the queue answers it, and else falls asleep
without a trace on the ring. -/
def Settles (guarded : GuardedRing) (call : RingCall) (queue : List UInt8) : Prop :=
  match call.request.serve? guarded.ring.capacity queue with
  | some (outcome, queue') => ∃ count ≤ 7, ∃ guarded',
      Rests count guarded call guarded' ⟨call.request, .finished outcome⟩ ∧
        guarded.Follows guarded' queue queue'
  | none => ∃ count ≤ 7, Rests count guarded call guarded
      ⟨call.request, .asleep (guarded.monitor.signals call.request.condition)⟩

private theorem settles_of_wanting (represents : guarded.ring.Represents queue)
    (free : guarded.monitor.lock = .free) {begun : RingCall} {phase : RingPhase}
    (sameRequest : begun.request = request)
    (stepped : step guarded begun = some (guarded, ⟨request, phase⟩))
    (wanting : phase = .locking ∨ phase = .relocking) : Settles guarded begun queue := by
  have tested := rests_of_testing request represents free
  have acquired := step_to_testing request free wanting
  unfold Settles
  rw [sameRequest]
  cases answered : request.serve? guarded.ring.capacity queue with
  | none =>
      rw [answered] at tested
      exact ⟨3, by omega, .after stepped (.after acquired tested)⟩
  | some answer =>
      obtain ⟨outcome, queue'⟩ := answer
      rw [answered] at tested
      obtain ⟨count, few, guarded', rests, follows⟩ := tested
      exact ⟨count + 2, by omega, guarded', .after stepped (.after acquired rests), follows⟩

/-- A request that the ring could never serve is rejected, whoever has the mutex. -/
theorem rests_of_rejection {text : String}
    (rejected : request.rejection? guarded.ring.capacity = some text) :
    Rests 1 guarded (start request) guarded ⟨request, .finished (.rejected text)⟩ := by
  refine .after ?_ (.here rfl)
  simp only [step, start, arrive, rejected, goTo]

private theorem step_start (admitted : request.rejection? guarded.ring.capacity = none)
    (moves : request ≠ .measure) :
    step guarded (start request) = some (guarded, ⟨request, .locking⟩) := by
  simp [step, start, arrive, admitted, goTo, moves]

/-- A request that does not wait and lacks bytes or places fails, and leaves the ring and
its monitor as they were. -/
theorem rests_of_shortage (free : guarded.monitor.lock = .free)
    (admitted : request.rejection? guarded.ring.capacity = none) (moves : request ≠ .measure)
    (lacks : ¬ request.length ≤ request.available guarded.ring)
    (hastens : request.waits = false) :
    Rests 4 guarded (start request) guarded
      ⟨request, .finished (.failed (request.shortage guarded.ring))⟩ := by
  have tested := test_of_lacks free moves lacks
  rw [if_neg (by simp [hastens])] at tested
  exact .after (step_start admitted moves) (.after (step_to_testing request free (.inl rfl))
    (.after tested (rests_of_unlocking free _)))

theorem rests_of_fit (free : guarded.monitor.lock = .free)
    (admitted : request.rejection? guarded.ring.capacity = none) (moves : request ≠ .measure)
    (fits : request.length ≤ request.available guarded.ring) :
    Rests 7 guarded (start request) (guarded.afterwards request)
      ⟨request, .finished (request.copy guarded.ring).2⟩ :=
  .after (step_start admitted moves) (.after (step_to_testing request free (.inl rfl))
    (.after (test_of_fits moves fits) (rests_of_copying free)))

/-- A call begins by looking at its request; the bytes of a private ring are counted
without the mutex. -/
theorem settles_start (represents : guarded.ring.Represents queue)
    (free : guarded.monitor.lock = .free)
    (admitted : request.rejection? guarded.ring.capacity = none) :
    Settles guarded (start request) queue := by
  by_cases glances : request = .measure ∧ guarded.shared = false
  · obtain ⟨rfl, unshared⟩ := glances
    refine ⟨1, by omega, guarded, .after ?_ (.here rfl),
      GuardedRing.follows_refl represents free⟩
    rw [← represents.size_eq]
    simp [step, start, arrive, RingRequest.rejection?, goTo, unshared]
  · refine settles_of_wanting represents free rfl ?_ (.inl rfl)
    simp only [step, start, arrive, admitted, goTo]
    exact congrArg (fun later => some (guarded, later)) (if_neg glances)

/-- A sleeper goes on if it was told of a change, and else had nothing to gain by it. -/
theorem settles_asleep (represents : guarded.ring.Represents queue)
    (free : guarded.monitor.lock = .free) {signals : Nat}
    (untold : guarded.monitor.signals request.condition = signals →
      request.serve? guarded.ring.capacity queue = none) :
    Settles guarded ⟨request, .asleep signals⟩ queue := by
  by_cases same : guarded.monitor.signals request.condition = signals
  · unfold Settles
    rw [untold same]
    refine ⟨0, by omega, ?_⟩
    rw [same]
    exact .here (by simp [step, same])
  · refine settles_of_wanting represents free rfl ?_ (.inr rfl)
    simp only [step, if_neg same, goTo]

end RingCall

namespace Call

variable {host : Host} {location : Location}

/-- A call on a ring of a host goes on as it does on the ring alone. -/
theorem advance_of_rests {count : Nat} {guarded guarded' : GuardedRing}
    {call call' : RingCall} (rests : call.Rests count guarded guarded' call')
    (present : host.guarded? location = some guarded) {fuel : Nat} (enough : count < fuel)
    (moved : Bool) :
    ∃ moved' host', advance fuel host (.ring location call) moved =
        (moved', host', .ring location call') ∧
      host'.guarded? location = some guarded' := by
  induction rests generalizing fuel host moved with
  | here stuck =>
      cases fuel with
      | zero => omega
      | succ fuel =>
          refine ⟨moved, host, ?_, present⟩
          simp [advance, step, present, stuck]
  | @after _ _ guarded' _ _ _ _ stepped rests hypothesis =>
      cases fuel with
      | zero => omega
      | succ fuel =>
          have next := Host.guarded?_setGuarded_self present guarded'
          obtain ⟨moved', host', advanced, later⟩ :=
            hypothesis next (by omega : _ < fuel) true
          refine ⟨moved', host', ?_, later⟩
          rw [← advanced]
          simp [advance, step, present, stepped]

/-- A call that goes on until it rests is answered as the queue answers it, or it sleeps
and has left the ring as it was. -/
theorem advance_of_settles {guarded : GuardedRing} {call : RingCall} {queue : List UInt8}
    (settles : call.Settles guarded queue)
    (present : host.guarded? location = some guarded) :
    match call.request.serve? guarded.ring.capacity queue with
    | some (outcome, queue') => ∃ moved host' guarded',
        advance patience host (.ring location call) false =
            (moved, host', .ring location ⟨call.request, .finished outcome⟩) ∧
          host'.guarded? location = some guarded' ∧
          guarded.Follows guarded' queue queue'
    | none => ∃ moved host',
        advance patience host (.ring location call) false =
            (moved, host', .ring location ⟨call.request,
              .asleep (guarded.monitor.signals call.request.condition)⟩) ∧
          host'.guarded? location = some guarded := by
  have patient : 7 < patience := by decide
  unfold RingCall.Settles at settles
  cases answered : call.request.serve? guarded.ring.capacity queue with
  | none =>
      rw [answered] at settles
      obtain ⟨count, few, rests⟩ := settles
      exact advance_of_rests rests present (Nat.lt_of_le_of_lt few patient) false
  | some answer =>
      obtain ⟨outcome, queue'⟩ := answer
      rw [answered] at settles
      obtain ⟨count, few, guarded', rests, follows⟩ := settles
      obtain ⟨moved, host', advanced, later⟩ :=
        advance_of_rests rests present (Nat.lt_of_le_of_lt few patient) false
      exact ⟨moved, host', guarded', advanced, later, follows⟩

end Call

end BoundedStream
