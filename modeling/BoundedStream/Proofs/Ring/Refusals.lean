import BoundedStream.Proofs.Ring.Crowd
import BoundedStream.Proofs.Ring.Solo

/-!
# Refusals

A request that no ring of the capacity could serve is rejected, and one that does not wait
fails if the ring is short of bytes or of places just then.  Either way the ring, its cursors,
its storage and its mutex stay as they are.  In a crowd, where such a call is under way while
others take their steps, the others go through what they would have gone through without it,
and they cannot tell afterwards that it was made.
-/

namespace BoundedStream

/-! ## Calls that are left alone -/

namespace RingCall

/-- Where a call comes to rest is settled by where it sets out. -/
theorem Rests.unique {first second : Nat} {guarded guarded₁ guarded₂ : GuardedRing}
    {call call₁ call₂ : RingCall} (rests : call.Rests first guarded guarded₁ call₁)
    (rests' : call.Rests second guarded guarded₂ call₂) :
    guarded₁ = guarded₂ ∧ call₁ = call₂ := by
  induction rests generalizing second with
  | here stuck =>
      cases rests' with
      | here => exact ⟨rfl, rfl⟩
      | after stepped =>
          rw [stuck] at stepped
          cases stepped
  | after stepped rests hypothesis =>
      cases rests' with
      | here stuck =>
          rw [stuck] at stepped
          cases stepped
      | after stepped' later =>
          rw [stepped] at stepped'
          cases stepped'
          exact hypothesis later

end RingCall

namespace RingOutcome

/-- Whether a call was refused. -/
def refuses : RingOutcome → Bool
  | failed _ | rejected _ => true
  | produced _ | consumed _ | measured _ => false

theorem taken_of_refuses {outcome : RingOutcome} (refuses : outcome.refuses = true) :
    outcome.taken = [] := by
  cases outcome <;> first | rfl | cases refuses

end RingOutcome

theorem RingRequest.copy_refuses (request : RingRequest) (ring : Ring) :
    (request.copy ring).2.refuses = false := by
  cases request <;> rfl

namespace GuardedRing

variable {guarded guarded' : GuardedRing} {request : RingRequest} {outcome : RingOutcome}
  {queue : List UInt8}

/-- A call that is made now and left alone ends with the outcome, and leaves the ring so. -/
def Ends (guarded : GuardedRing) (request : RingRequest) (outcome : RingOutcome)
    (guarded' : GuardedRing) : Prop :=
  ∃ count, (RingCall.start request).Rests count guarded guarded'
    ⟨request, .finished outcome⟩

/-- The request fails at the ring, for it does not wait and the ring is short of bytes or of
places. -/
structure FallsShort (guarded : GuardedRing) (request : RingRequest) (error : RegionError) :
    Prop where
  free : guarded.monitor.lock = .free
  hastens : request.waits = false
  lacks : request.available guarded.ring < request.length
  error_eq : error = request.shortage guarded.ring
  ends : guarded.Ends request (.failed error) guarded

theorem FallsShort.isWouldBlock {error : RegionError}
    (short : guarded.FallsShort request error) : error.isWouldBlock = true := by
  rw [short.error_eq]
  cases request <;> rfl

theorem Ends.iff (ends : guarded.Ends request outcome guarded') (outcome' : RingOutcome)
    (after : GuardedRing) :
    guarded.Ends request outcome' after ↔ outcome' = outcome ∧ after = guarded' := by
  constructor
  · rintro ⟨count, rests⟩
    obtain ⟨count', rests'⟩ := ends
    obtain ⟨sameRing, sameCall⟩ := rests.unique rests'
    cases sameCall
    exact ⟨rfl, sameRing⟩
  · rintro ⟨rfl, rfl⟩
    exact ends

theorem ends_of_rejection {text : String}
    (rejected : request.rejection? guarded.ring.capacity = some text) :
    guarded.Ends request (.rejected text) guarded :=
  ⟨1, RingCall.rests_of_rejection rejected⟩

theorem ends_of_shortage (free : guarded.monitor.lock = .free)
    (admitted : request.rejection? guarded.ring.capacity = none) (moves : request ≠ .measure)
    (lacks : ¬ request.length ≤ request.available guarded.ring)
    (hastens : request.waits = false) :
    guarded.Ends request (.failed (request.shortage guarded.ring)) guarded :=
  ⟨4, RingCall.rests_of_shortage free admitted moves lacks hastens⟩

theorem ends_of_fit (free : guarded.monitor.lock = .free)
    (admitted : request.rejection? guarded.ring.capacity = none) (moves : request ≠ .measure)
    (fits : request.length ≤ request.available guarded.ring) :
    guarded.Ends request (request.copy guarded.ring).2 (guarded.afterwards request) :=
  ⟨7, RingCall.rests_of_fit free admitted moves fits⟩

theorem rejection?_eq_none {capacity : Nat} (moves : request ≠ .measure)
    (positive : 1 ≤ request.length) (fits : request.length ≤ capacity) :
    request.rejection? capacity = none := by
  cases request with
  | measure => exact absurd rfl moves
  | _ => simp [RingRequest.rejection?, Nat.one_le_iff_ne_zero.mp positive, Nat.not_lt.mpr fits]

/-- What becomes of a produce that does not wait. -/
theorem ends_produce (free : guarded.monitor.lock = .free) {data : List UInt8}
    (positive : 1 ≤ data.length) (fits : data.length ≤ guarded.ring.capacity)
    (outcome : RingOutcome) (guarded' : GuardedRing) :
    guarded.Ends (.produce data false) outcome guarded' ↔
      if guarded.ring.capacity - guarded.ring.size < data.length then
        outcome = .failed (.ringFull data.length
            (guarded.ring.capacity - guarded.ring.size)) ∧ guarded' = guarded
      else outcome = .produced data.length ∧
        guarded' = guarded.afterwards (.produce data false) := by
  have moves : RingRequest.produce data false ≠ .measure := RingRequest.noConfusion
  have admitted := rejection?_eq_none moves positive fits
  split
  · rename_i lacks
    exact (ends_of_shortage free admitted moves (Nat.not_le.mpr lacks) rfl).iff outcome guarded'
  · rename_i room
    exact (ends_of_fit free admitted moves (Nat.not_lt.mp room)).iff outcome guarded'

/-- What becomes of a consume that does not wait. -/
theorem ends_consume (represents : guarded.ring.Represents queue)
    (free : guarded.monitor.lock = .free) {length : Nat}
    (positive : 1 ≤ length) (fits : length ≤ guarded.ring.capacity)
    (outcome : RingOutcome) (guarded' : GuardedRing) :
    guarded.Ends (.consume length false) outcome guarded' ↔
      if guarded.ring.size < length then
        outcome = .failed (.insufficientData length guarded.ring.size) ∧ guarded' = guarded
      else outcome = .consumed (queue.take length) ∧
        guarded' = guarded.afterwards (.consume length false) := by
  have moves : RingRequest.consume length false ≠ .measure := RingRequest.noConfusion
  have admitted := rejection?_eq_none moves positive fits
  split
  · rename_i lacks
    exact (ends_of_shortage free admitted moves (Nat.not_le.mpr lacks) rfl).iff outcome guarded'
  · rename_i enough
    have ends := ends_of_fit free admitted moves (Nat.not_lt.mp enough)
    have front : guarded.ring.front length = queue.take length := by
      apply represents.front_eq
      rw [← represents.size_eq]
      exact Nat.not_lt.mp enough
    rw [RingRequest.copy, front] at ends
    exact ends.iff outcome guarded'

/-- What becomes of a request that is empty or exceeds the ring, whether it waits or not. -/
theorem ends_unserviceable (moves : request ≠ .measure)
    (unfit : request.length = 0 ∨ guarded.ring.capacity < request.length) :
    ∃ text, ∀ outcome guarded', guarded.Ends request outcome guarded' ↔
      outcome = .rejected text ∧ guarded' = guarded := by
  have rejected : ∃ text, request.rejection? guarded.ring.capacity = some text := by
    cases request with
    | measure => exact absurd rfl moves
    | _ =>
        simp only [RingRequest.rejection?]
        split
        · exact ⟨_, rfl⟩
        · rename_i positive
          exact ⟨_, if_pos (unfit.resolve_left positive)⟩
  obtain ⟨text, rejected⟩ := rejected
  exact ⟨text, (ends_of_rejection rejected).iff⟩

/-! ## The mutex in the hands of another -/

/-- The ring as it is once the mutex is given back. -/
def released (guarded : GuardedRing) : GuardedRing :=
  { guarded with monitor := guarded.monitor.release }

/-- The ring as it would be without a call in the phase that has changed nothing but the
mutex. -/
def without (guarded : GuardedRing) (phase : RingPhase) : GuardedRing :=
  if phase.holds then guarded.released else guarded

@[simp]
theorem signals_released (guarded : GuardedRing) (condition : Condition) :
    guarded.released.monitor.signals condition = guarded.monitor.signals condition := by
  cases condition <;> rfl

theorem released_of_held (free : guarded.monitor.lock = .free) :
    ({ guarded with monitor := { guarded.monitor with lock := .held } } :
      GuardedRing).released = guarded := by
  obtain ⟨ring, shared, ⟨lock, robust, dataSignals, spaceSignals⟩⟩ := guarded
  cases free
  rfl

end GuardedRing

/-- A call outside of the mutex takes the same step whether another one has the mutex or
nobody, if it can take one at all. -/
theorem RingCall.step_released {guarded guarded' : GuardedRing} {call call' : RingCall}
    (stepped : call.step guarded = some (guarded', call')) (outside : call.phase.holds = false)
    (held : guarded.monitor.lock = .held) :
    guarded' = guarded ∧ call.step guarded.released = some (guarded.released, call') := by
  obtain ⟨request, phase⟩ := call
  have barred : acquire? guarded ⟨request, phase⟩ = none := by
    simp [acquire?, Monitor.acquire?, held]
  cases phase with
  | arriving =>
      cases stepped
      exact ⟨rfl, rfl⟩
  | asleep signals =>
      simp only [step] at stepped ⊢
      split at stepped
      · cases stepped
      · rename_i told
        cases stepped
        refine ⟨rfl, ?_⟩
        rw [GuardedRing.signals_released, if_neg told]
  | locking =>
      rw [step, barred] at stepped
      cases stepped
  | relocking =>
      rw [step, barred] at stepped
      cases stepped
  | finished outcome => cases stepped
  | _ => cases outside

/-! ## Moves of a caller -/

namespace Crowd

variable {Caller : Type}

/-- Whether a caller, whatever his last call was, has none under way. -/
def AtRest (last : Option RingCall) : Prop :=
  ∀ call, last = some call → ∃ outcome, call.phase = .finished outcome

/-- What a caller may do: the ring afterwards and the call that he has then. -/
inductive Move (guarded : GuardedRing) : Option RingCall → GuardedRing → RingCall → Prop
  | begin (last : Option RingCall) (request : RingRequest) (rests : AtRest last) :
      Move guarded last guarded (.start request)
  | advance (call call' : RingCall) (guarded' : GuardedRing)
      (stepped : call.step guarded = some (guarded', call')) :
      Move guarded (some call) guarded' call'
  | rouse (request : RingRequest) (signals : Nat) :
      Move guarded (some ⟨request, .asleep signals⟩) guarded ⟨request, .relocking⟩

theorem passages_of_atRest {last : Option RingCall} (rests : AtRest last) (caller : Caller) :
    last.elim [] (passageOf caller) = [] := by
  cases last with
  | none => rfl
  | some call =>
      obtain ⟨outcome, isFinished⟩ := rests call rfl
      simp [passageOf, isFinished]

/-- Whoever has no call under way can only begin one. -/
theorem Move.begins {guarded guarded' : GuardedRing} {last : Option RingCall} {call : RingCall}
    (move : Move guarded last guarded' call) (rests : AtRest last) :
    guarded' = guarded ∧ ∃ request, call = .start request := by
  cases move with
  | begin _ request => exact ⟨rfl, request, rfl⟩
  | advance call call' guarded' stepped =>
      obtain ⟨outcome, isFinished⟩ := rests call rfl
      rw [RingCall.step, isFinished] at stepped
      cases stepped
  | rouse request signals =>
      obtain ⟨outcome, isFinished⟩ := rests _ rfl
      cases isFinished

/-- While somebody else has the mutex, a move changes nothing about the ring, and it is open to
the caller as well when nobody has the mutex. -/
theorem Move.released {guarded guarded' : GuardedRing} {last : Option RingCall}
    {next : RingCall} (move : Move guarded last guarded' next)
    (outside : ∀ call, last = some call → call.phase.holds = false)
    (held : guarded.monitor.lock = .held) :
    guarded' = guarded ∧ Move guarded.released last guarded.released next := by
  cases move with
  | begin _ request rests => exact ⟨rfl, .begin last request rests⟩
  | advance call _ _ stepped =>
      obtain ⟨same, stepped'⟩ := RingCall.step_released stepped (outside call rfl) held
      exact ⟨same, .advance call next guarded.released stepped'⟩
  | rouse request signals => exact ⟨rfl, .rouse request signals⟩

variable [DecidableEq Caller]

/-- A crowd after a move of a caller. -/
def moved (crowd : Crowd Caller) (caller : Caller) (guarded : GuardedRing) (call : RingCall) :
    Crowd Caller where
  guarded := guarded
  calls := Function.update crowd.calls caller (some call)
  passages := crowd.passages ++ (crowd.calls caller).elim [] (passageOf caller)

variable {crowd later twin : Crowd Caller} {caller mover : Caller} {guarded : GuardedRing}
  {next : RingCall}

theorem calls_moved_self : (crowd.moved mover guarded next).calls mover = some next :=
  Function.update_self ..

theorem calls_moved_of_ne {other : Caller} (distinct : other ≠ mover) :
    (crowd.moved mover guarded next).calls other = crowd.calls other :=
  Function.update_of_ne distinct _ _

theorem step_of_move (move : Move crowd.guarded (crowd.calls mover) guarded next) :
    Step crowd (crowd.moved mover guarded next) := by
  unfold moved
  generalize isLast : crowd.calls mover = last at move
  cases move with
  | begin _ request rests =>
      rw [passages_of_atRest rests, List.append_nil]
      rw [← isLast] at rests
      exact .begin mover request rests
  | advance call _ _ stepped => exact .advance mover call next guarded isLast stepped
  | rouse request signals =>
      have silent : passageOf mover ⟨request, .asleep signals⟩ = [] := rfl
      rw [Option.elim_some, silent, List.append_nil]
      exact .rouse mover request signals isLast

/-- Every step of a crowd is a move of one of its callers. -/
theorem exists_move_of_step (step : Step crowd later) :
    ∃ mover guarded next, Move crowd.guarded (crowd.calls mover) guarded next ∧
      later = crowd.moved mover guarded next := by
  cases step with
  | begin caller request idle =>
      refine ⟨caller, crowd.guarded, _, .begin _ request idle, ?_⟩
      rw [moved, passages_of_atRest idle, List.append_nil]
  | advance caller call call' guarded running stepped =>
      refine ⟨caller, guarded, call', ?_, ?_⟩
      · rw [running]
        exact .advance call call' guarded stepped
      · rw [moved, running]
        rfl
  | rouse caller request signals sleeps =>
      refine ⟨caller, crowd.guarded, ⟨request, .relocking⟩, ?_, ?_⟩
      · rw [sleeps]
        exact .rouse request signals
      · rw [moved, sleeps]
        simp [passageOf]

/-! ## Crowds that differ in a call that is over -/

/-- Two crowds that nobody but one caller can tell apart, and he only by what his last call has
told him.  Since they had passed so far, the same calls have passed in both. -/
structure Alike (caller : Caller) (log log' : List (Passage Caller))
    (crowd twin : Crowd Caller) : Prop where
  guarded_eq : twin.guarded = crowd.guarded
  others : ∀ other, other ≠ caller → twin.calls other = crowd.calls other
  own : twin.calls caller = crowd.calls caller ∨ crowd.Idle caller ∧ twin.Idle caller
  recent : ∃ recent, crowd.passages = log ++ recent ∧ twin.passages = log' ++ recent

namespace Alike

variable {log log' : List (Passage Caller)}

omit [DecidableEq Caller] in
theorem symm (alike : Alike caller log log' crowd twin) : Alike caller log' log twin crowd where
  guarded_eq := alike.guarded_eq.symm
  others other distinct := (alike.others other distinct).symm
  own := alike.own.imp Eq.symm And.symm
  recent := by
    obtain ⟨recent, passages, twinPassages⟩ := alike.recent
    exact ⟨recent, twinPassages, passages⟩

omit [DecidableEq Caller] in
theorem from_here (alike : Alike caller log log' crowd twin) :
    Alike caller crowd.passages twin.passages crowd twin :=
  { alike with recent := ⟨[], (List.append_nil _).symm, (List.append_nil _).symm⟩ }

/-- Each caller has the same call in both crowds, or none under way in either. -/
theorem last (alike : Alike caller log log' crowd twin) (mover : Caller) :
    twin.calls mover = crowd.calls mover ∨ crowd.Idle mover ∧ twin.Idle mover := by
  by_cases same : mover = caller
  · rw [same]
    exact alike.own
  · exact .inl (alike.others mover same)

theorem move (alike : Alike caller log log' crowd twin)
    (move : Move crowd.guarded (crowd.calls mover) guarded next) :
    Move twin.guarded (twin.calls mover) guarded next := by
  rw [alike.guarded_eq]
  rcases alike.last mover with same | ⟨idle, twinIdle⟩
  · rw [same]
    exact move
  · obtain ⟨rfl, request, rfl⟩ := move.begins idle
    exact .begin _ request twinIdle

theorem moved (alike : Alike caller log log' crowd twin) (mover : Caller)
    (guarded : GuardedRing) (next : RingCall) :
    Alike caller log log' (crowd.moved mover guarded next)
      (twin.moved mover guarded next) where
  guarded_eq := rfl
  others other distinct := by
    by_cases same : other = mover
    · subst same
      rw [calls_moved_self, calls_moved_self]
    · rw [calls_moved_of_ne same, calls_moved_of_ne same]
      exact alike.others other distinct
  own := by
    by_cases same : caller = mover
    · subst same
      exact .inl (calls_moved_self.trans calls_moved_self.symm)
    · unfold Idle
      rw [calls_moved_of_ne same, calls_moved_of_ne same]
      exact alike.own
  recent := by
    obtain ⟨recent, passages, twinPassages⟩ := alike.recent
    have same : (twin.calls mover).elim [] (passageOf mover) =
        (crowd.calls mover).elim [] (passageOf mover) := by
      rcases alike.last mover with same | ⟨idle, twinIdle⟩
      · rw [same]
      · rw [passages_of_atRest idle, passages_of_atRest twinIdle]
    refine ⟨recent ++ (crowd.calls mover).elim [] (passageOf mover), ?_, ?_⟩
    · rw [Crowd.moved, passages, List.append_assoc]
    · rw [Crowd.moved, twinPassages, same, List.append_assoc]

theorem step (alike : Alike caller log log' crowd twin) (step : Step crowd later) :
    ∃ later', Step twin later' ∧ Alike caller log log' later later' := by
  obtain ⟨mover, guarded, next, move, rfl⟩ := exists_move_of_step step
  exact ⟨_, step_of_move (alike.move move), alike.moved mover guarded next⟩

/-- Whatever happens in the one crowd may happen in the other one. -/
theorem steps (alike : Alike caller log log' crowd twin)
    (reaches : Relation.ReflTransGen Step crowd later) :
    ∃ later', Relation.ReflTransGen Step twin later' ∧
      Alike caller log log' later later' := by
  induction reaches with
  | refl => exact ⟨twin, .refl, alike⟩
  | tail _ step hypothesis =>
      obtain ⟨middle, before, alike'⟩ := hypothesis
      obtain ⟨later', step', alike''⟩ := alike'.step step
      exact ⟨later', before.tail step', alike''⟩

end Alike

/-! ## Runs with a call and without it -/

/-- A step with which a caller begins no call. -/
def Onward (caller : Caller) (crowd later : Crowd Caller) : Prop :=
  Step crowd later ∧ (crowd.Idle caller → later.calls caller = crowd.calls caller)

theorem onward_of_other (move : Move crowd.guarded (crowd.calls mover) guarded next)
    (distinct : mover ≠ caller) : Onward caller crowd (crowd.moved mover guarded next) :=
  ⟨step_of_move move, fun _ => calls_moved_of_ne distinct.symm⟩

/-- As long as a caller begins no call, it is the others who move while he has none under
way. -/
theorem ne_of_onward (move : Move crowd.guarded (crowd.calls mover) guarded next)
    (idle : crowd.Idle caller)
    (onward : (crowd.moved mover guarded next).calls caller = crowd.calls caller) :
    mover ≠ caller := by
  rintro rfl
  obtain ⟨-, request, rfl⟩ := move.begins idle
  have begun : crowd.calls mover = some (.start request) :=
    onward.symm.trans calls_moved_self
  obtain ⟨outcome, isFinished⟩ := idle _ begun
  cases isFinished

end Crowd

namespace RingPhase

/-- A call in the phase has changed nothing but the mutex. -/
def traceless : RingPhase → Bool
  | arriving | locking | testing | asleep _ | relocking | unlocking (.failed _) => true
  | copying | updating _ | notifying _ | unlocking _ | finished _ => false

/-- A call in the phase has not been refused and cannot be any more. -/
def commits : RingPhase → Bool
  | copying => true
  | updating outcome | notifying outcome | unlocking outcome | finished outcome =>
    !outcome.refuses
  | arriving | locking | testing | asleep _ | relocking => false

end RingPhase

namespace Crowd

variable {Caller : Type} [DecidableEq Caller]

/-- The crowd as it would be without the call of a caller, which is in the phase: his call
before that is his last one still, and he does not have the mutex. -/
def spared (crowd : Crowd Caller) (caller : Caller) (last : Option RingCall)
    (phase : RingPhase) : Crowd Caller where
  guarded := crowd.guarded.without phase
  calls := Function.update crowd.calls caller last
  passages := crowd.passages

variable {crowd later moment twin origin : Crowd Caller} {caller mover : Caller}
  {guarded : GuardedRing} {next : RingCall} {request : RingRequest} {phase phase' : RingPhase}
  {outcome : RingOutcome} {queue : List UInt8} {last : Option RingCall}

/-- Instead of the crowd there is one in which a caller has not made the call that was refused:
what has happened but for his call led to a moment at which the call, made there and left
alone, is refused in the same way, and led on from there. -/
structure Spares (origin : Crowd Caller) (caller : Caller) (request : RingRequest)
    (outcome : RingOutcome) (crowd moment twin : Crowd Caller) : Prop where
  before : Relation.ReflTransGen (Onward caller) origin moment
  after : Relation.ReflTransGen (Onward caller) moment twin
  ends : moment.guarded.Ends request outcome moment.guarded
  short : ∀ error, outcome = .failed error → moment.guarded.FallsShort request error
  alike : ∃ own, own ⊆ [(⟨caller, request, outcome⟩ : Passage Caller)] ∧
    Alike caller (moment.passages ++ own) moment.passages crowd twin

/-- How a call has fared that a caller with none under way began in a crowd, as far as the
others are concerned. -/
inductive Course (origin : Crowd Caller) (caller : Caller) (request : RingRequest)
    (crowd : Crowd Caller) : Prop
  | pending (phase : RingPhase) (running : crowd.calls caller = some ⟨request, phase⟩)
      (traceless : phase.traceless = true)
      (without : Relation.ReflTransGen (Onward caller) origin
        (crowd.spared caller (origin.calls caller) phase))
      (short : ∀ error, phase = .unlocking (.failed error) →
        (crowd.guarded.without phase).FallsShort request error)
  | refused (outcome : RingOutcome)
      (running : crowd.calls caller = some ⟨request, .finished outcome⟩)
      (refuses : outcome.refuses = true) (moment twin : Crowd Caller)
      (spares : Spares origin caller request outcome crowd moment twin)
  | served (phase : RingPhase) (running : crowd.calls caller = some ⟨request, phase⟩)
      (commits : phase.commits = true)

/-- What the others do while a call is under way that has changed nothing but the mutex, they
may do without that call. -/
theorem onward_spared (attended : crowd.guarded.Attended crowd.calls queue)
    (running : crowd.calls caller = some ⟨request, phase⟩) (distinct : mover ≠ caller)
    (move : Move crowd.guarded (crowd.calls mover) guarded next) (last : Option RingCall) :
    (phase.holds = true → guarded = crowd.guarded) ∧
      Onward caller (crowd.spared caller last phase)
        ((crowd.moved mover guarded next).spared caller last phase) := by
  have same : (crowd.moved mover guarded next).spared caller last phase =
      (crowd.spared caller last phase).moved mover (guarded.without phase) next := by
    simp [spared, moved, Function.update_of_ne distinct, Function.update_comm distinct.symm]
  have lastOfMover : (crowd.spared caller last phase).calls mover = crowd.calls mover :=
    Function.update_of_ne distinct _ _
  rw [same]
  cases holds : phase.holds with
  | false =>
      refine ⟨Bool.noConfusion, onward_of_other ?_ distinct⟩
      rw [lastOfMover]
      simp only [spared, GuardedRing.without, holds]
      exact move
  | true =>
      have outside : ∀ call, crowd.calls mover = some call → call.phase.holds = false := by
        intro call present
        by_contra inside
        exact distinct (attended.exclusive mover caller call _ present running
          (by simpa using inside) holds)
      obtain ⟨unchanged, released⟩ :=
        move.released outside (attended.lock_held caller _ running holds)
      refine ⟨fun _ => unchanged, onward_of_other ?_ distinct⟩
      rw [lastOfMover, unchanged]
      simp only [spared, GuardedRing.without, holds]
      exact released

/-- A step with which a call at most takes or leaves the mutex does not show once the call is
taken out of the crowd. -/
theorem spared_moved (running : crowd.calls caller = some ⟨request, phase⟩)
    (same : guarded.without phase' = crowd.guarded.without phase)
    (stays : ∀ outcome, phase ≠ .unlocking outcome) (last : Option RingCall) :
    (crowd.moved caller guarded ⟨request, phase'⟩).spared caller last phase' =
      crowd.spared caller last phase := by
  have silent : passageOf caller ⟨request, phase⟩ = [] := by
    cases phase <;> first | rfl | exact absurd rfl (stays _)
  simp [spared, moved, running, silent, same]

namespace Course

theorem begun (origin : Crowd Caller) (caller : Caller) (request : RingRequest) :
    Course origin caller request
      { origin with calls := Function.update origin.calls caller (some (.start request)) } := by
  refine .pending .arriving (Function.update_self ..) rfl ?_ (by simp)
  have same : ({ origin with
      calls := Function.update origin.calls caller (some (.start request)) } :
        Crowd Caller).spared caller (origin.calls caller) .arriving = origin := by
    simp [spared, GuardedRing.without, RingPhase.holds]
  rw [same]

/-- The others go on. -/
theorem other (course : Course origin caller request crowd)
    (attended : crowd.guarded.Attended crowd.calls queue) (distinct : mover ≠ caller)
    (move : Move crowd.guarded (crowd.calls mover) guarded next) :
    Course origin caller request (crowd.moved mover guarded next) := by
  have stays : (crowd.moved mover guarded next).calls caller = crowd.calls caller :=
    calls_moved_of_ne distinct.symm
  cases course with
  | pending phase running traceless without short =>
      obtain ⟨unchanged, onward⟩ :=
        onward_spared attended running distinct move (origin.calls caller)
      refine .pending phase (stays.trans running) traceless (without.tail onward) ?_
      rintro error rfl
      rw [show (crowd.moved mover guarded next).guarded = crowd.guarded from unchanged rfl]
      exact short error rfl
  | refused outcome running refuses moment twin spares =>
      obtain ⟨own, few, alike⟩ := spares.alike
      refine .refused outcome (stays.trans running) refuses moment
        (twin.moved mover guarded next)
        { spares with
          after := spares.after.tail (onward_of_other (alike.move move) distinct)
          alike := ⟨own, few, alike.moved mover guarded next⟩ }
  | served phase running commits => exact .served phase (stays.trans running) commits

/-- A call that ends in a refusal leaves the crowd that would be there without it. -/
private theorem refuse (idle : origin.Idle caller)
    (running : crowd.calls caller = some ⟨request, phase⟩)
    (without : Relation.ReflTransGen (Onward caller) origin
      (crowd.spared caller (origin.calls caller) phase))
    (sameRing : guarded = crowd.guarded.without phase) (refuses : outcome.refuses = true)
    (ends : guarded.Ends request outcome guarded)
    (short : ∀ error, outcome = .failed error → guarded.FallsShort request error)
    (passed : passageOf caller ⟨request, phase⟩ ⊆ [⟨caller, request, outcome⟩]) :
    Course origin caller request
      (crowd.moved caller guarded ⟨request, .finished outcome⟩) := by
  subst sameRing
  have own : (crowd.spared caller (origin.calls caller) phase).calls caller =
      origin.calls caller := Function.update_self ..
  refine .refused outcome calls_moved_self refuses _ _
    { before := without
      after := .refl
      ends := ends
      short := short
      alike := ⟨passageOf caller ⟨request, phase⟩, passed, ?_⟩ }
  exact {
    guarded_eq := rfl
    others := fun other distinct => by
      rw [calls_moved_of_ne distinct]
      exact Function.update_of_ne distinct _ _
    own := by
      refine .inr ⟨fun call present => ?_, fun call present => ?_⟩
      · rw [calls_moved_self] at present
        cases present
        exact ⟨outcome, rfl⟩
      · rw [own] at present
        exact idle call present
    recent := ⟨[], by simp [moved, running, spared], by simp⟩ }

/-- A call takes a step before it has changed anything but the mutex. -/
private theorem pending_step (idle : origin.Idle caller)
    (attended : crowd.guarded.Attended crowd.calls queue)
    (running : crowd.calls caller = some ⟨request, phase⟩) (traceless : phase.traceless = true)
    (without : Relation.ReflTransGen (Onward caller) origin
      (crowd.spared caller (origin.calls caller) phase))
    (short : ∀ error, phase = .unlocking (.failed error) →
      (crowd.guarded.without phase).FallsShort request error)
    (step : RingCall.Step crowd.guarded request phase guarded phase') :
    Course origin caller request (crowd.moved caller guarded ⟨request, phase'⟩) := by
  have runs : (crowd.moved caller guarded ⟨request, phase'⟩).calls caller =
      some ⟨request, phase'⟩ := calls_moved_self
  have onwards : phase'.traceless = true →
      guarded.without phase' = crowd.guarded.without phase →
        (∀ outcome, phase ≠ .unlocking outcome) →
          (∀ error, phase' = .unlocking (.failed error) →
            (guarded.without phase').FallsShort request error) →
              Course origin caller request (crowd.moved caller guarded ⟨request, phase'⟩) := by
    intro traceless' same stays short'
    refine .pending phase' runs traceless' ?_ short'
    rw [spared_moved running same stays]
    exact without
  cases step with
  | reject text rejected =>
      exact refuse idle running without rfl rfl (GuardedRing.ends_of_rejection rejected)
        (by simp) (by simp [passageOf])
  | glance measures unshared => exact .served _ runs rfl
  | approach admitted reached => exact onwards rfl rfl (by simp) (by simp)
  | acquire phase wanting free =>
      have same := GuardedRing.released_of_held free
      rcases wanting with rfl | rfl <;> exact onwards rfl same (by simp) (by simp)
  | lose phase wanting monitor error lost => exact (attended.healthy.not_lost lost).elim
  | measure measures => exact .served _ runs rfl
  | fit moves fits => exact .served _ runs rfl
  | sleep moves lacks waits => exact onwards rfl rfl (by simp) (by simp)
  | refuse moves lacks hastens =>
      refine onwards rfl rfl (by simp) ?_
      rintro error ⟨⟩
      have admitted : request.rejection? crowd.guarded.ring.capacity = none :=
        attended.sound caller _ running
      exact {
        free := rfl
        hastens := hastens
        lacks := Nat.not_le.mp lacks
        error_eq := rfl
        ends := GuardedRing.ends_of_shortage rfl admitted moves lacks hastens }
  | wake signals changed => exact onwards rfl rfl (by simp) (by simp)
  | unlock outcome =>
      cases outcome with
      | failed error =>
          have failed := short error rfl
          exact refuse idle running without rfl rfl failed.ends
            (by rintro _ ⟨⟩; exact failed) (List.Subset.refl _)
      | _ => cases traceless
  | _ => cases traceless

/-- The call itself goes on. -/
theorem own (course : Course origin caller request crowd) (idle : origin.Idle caller)
    (attended : crowd.guarded.Attended crowd.calls queue)
    (move : Move crowd.guarded (crowd.calls caller) guarded next)
    (onward : crowd.Idle caller →
      (crowd.moved caller guarded next).calls caller = crowd.calls caller) :
    Course origin caller request (crowd.moved caller guarded next) := by
  -- A caller whose call is over would have to begin another one.
  have busy : ¬ crowd.Idle caller := fun ended => ne_of_onward move ended (onward ended) rfl
  cases course with
  | pending phase running traceless without short =>
      rw [running] at move
      cases move with
      | begin _ request rests => exact (busy (by rw [Idle, running]; exact rests)).elim
      | advance _ _ _ stepped =>
          obtain ⟨sameRequest, step⟩ := RingCall.step_cases stepped
          obtain ⟨request', phase'⟩ := next
          cases sameRequest
          exact pending_step idle attended running traceless without short step
      | rouse _ signals =>
          refine .pending .relocking calls_moved_self rfl ?_ (by simp)
          have same : crowd.guarded.without .relocking =
              crowd.guarded.without (.asleep signals) := rfl
          rw [spared_moved running same (by simp)]
          exact without
  | refused outcome running =>
      refine (busy fun call present => ?_).elim
      rw [running] at present
      cases present
      exact ⟨outcome, rfl⟩
  | served phase running commits =>
      rw [running] at move
      cases move with
      | begin _ request rests => exact (busy (by rw [Idle, running]; exact rests)).elim
      | advance _ _ _ stepped =>
          obtain ⟨sameRequest, step⟩ := RingCall.step_cases stepped
          obtain ⟨request', phase'⟩ := next
          cases sameRequest
          refine .served phase' calls_moved_self ?_
          cases step with
          | copy =>
              rw [RingPhase.commits, RingRequest.copy_refuses]
              rfl
          | update => exact commits
          | notify => exact commits
          | unlock => exact commits
          | acquire _ wanting => rcases wanting with rfl | rfl <;> cases commits
          | lose _ wanting => rcases wanting with rfl | rfl <;> cases commits
          | _ => cases commits
      | rouse _ signals => cases commits

theorem onward {source settled : List UInt8} {root : Ring}
    (course : Course origin caller request crowd) (idle : origin.Idle caller)
    (sound : crowd.Sound root source settled queue) (step : Onward caller crowd later) :
    Course origin caller request later := by
  obtain ⟨step, stays⟩ := step
  obtain ⟨mover, guarded, next, move, rfl⟩ := exists_move_of_step step
  by_cases same : mover = caller
  · subst same
    exact course.own idle sound.attended move stays
  · exact course.other sound.attended same move

end Course

/-- The course that a call takes which a caller begins, in whatever order the steps come. -/
theorem course_of_onward {root : Ring} {source settled : List UInt8}
    (sound : origin.Sound root source settled queue) (idle : origin.Idle caller)
    (reaches : Relation.ReflTransGen (Onward caller)
      { origin with calls := Function.update origin.calls caller (some (.start request)) }
      later) :
    Course origin caller request later ∧
      ∃ settled' queue', later.Sound root source settled' queue' := by
  induction reaches with
  | refl => exact ⟨.begun origin caller request, sound.step (.begin caller request idle)⟩
  | tail _ step hypothesis =>
      obtain ⟨course, settled', queue', sound'⟩ := hypothesis
      exact ⟨course.onward idle sound' step, sound'.step step.1⟩

/-! ## Refusals leave no trace -/

/-- At every fill of the ring and with its cursors anywhere, a call that does not wait fails
exactly when the ring is short of places or bytes, with the numbers of that moment, and a call
for nothing or for more than the ring has room for is rejected; the ring, its storage, its
cursors and its monitor are the same afterwards.  If the call is made while others take their
steps, it is refused as it would be at a moment of what they would have gone through without
it, and afterwards nothing can happen that could not have happened without it, nor the other
way round. -/
theorem refusals_leave_no_trace {guarded : GuardedRing} {source : List UInt8}
    (represents : guarded.ring.Represents source) (free : guarded.monitor.lock = .free)
    (reaches : Relation.ReflTransGen Step (start guarded) crowd) :
    (crowd.guarded.monitor.lock = .free → ∀ outcome guarded',
      (∀ data, 1 ≤ data.length → data.length ≤ guarded.ring.capacity →
        (crowd.guarded.Ends (.produce data false) outcome guarded' ↔
          if guarded.ring.capacity - crowd.guarded.ring.size < data.length then
            outcome = .failed (.ringFull data.length
                (guarded.ring.capacity - crowd.guarded.ring.size)) ∧
              guarded' = crowd.guarded
          else outcome = .produced data.length ∧
            guarded' = crowd.guarded.afterwards (.produce data false))) ∧
      ∀ length, 1 ≤ length → length ≤ guarded.ring.capacity →
        (crowd.guarded.Ends (.consume length false) outcome guarded' ↔
          if crowd.guarded.ring.size < length then
            outcome = .failed (.insufficientData length crowd.guarded.ring.size) ∧
              guarded' = crowd.guarded
          else outcome = .consumed (crowd.guarded.ring.contents.take length) ∧
            guarded' = crowd.guarded.afterwards (.consume length false))) ∧
    (∀ request, request ≠ .measure →
      request.length = 0 ∨ guarded.ring.capacity < request.length →
        ∃ text, ∀ outcome guarded', crowd.guarded.Ends request outcome guarded' ↔
          outcome = .rejected text ∧ guarded' = crowd.guarded) ∧
    ∀ caller request later outcome, crowd.Idle caller →
      Relation.ReflTransGen (Onward caller)
        { crowd with calls := Function.update crowd.calls caller (some (.start request)) }
        later →
      later.calls caller = some ⟨request, .finished outcome⟩ → outcome.refuses = true →
        outcome.taken = [] ∧
        (∀ error, outcome = .failed error → error.isWouldBlock = true) ∧
        (later.guarded.monitor.lock = .free ∨ ∃ other call, other ≠ caller ∧
          later.calls other = some call ∧ call.phase.holds = true) ∧
        ∃ moment twin, Spares crowd caller request outcome later moment twin ∧
          (∀ final, Relation.ReflTransGen Step later final →
            ∃ final', Relation.ReflTransGen Step twin final' ∧
              Alike caller later.passages twin.passages final final') ∧
          ∀ final', Relation.ReflTransGen Step twin final' →
            ∃ final, Relation.ReflTransGen Step later final ∧
              Alike caller later.passages twin.passages final final' := by
  obtain ⟨settled, queue, sound⟩ := (sound_start represents free).steps reaches
  have sameCapacity := sound.capacity_ring
  have stands := sound.attended.represents
  refine ⟨fun unlocked outcome guarded' => ⟨?_, ?_⟩, ?_, ?_⟩
  · intro data positive fits
    rw [← sameCapacity] at fits ⊢
    exact GuardedRing.ends_produce unlocked positive fits outcome guarded'
  · intro length positive fits
    rw [← sameCapacity] at fits
    rw [stands.contents_eq]
    exact GuardedRing.ends_consume stands unlocked positive fits outcome guarded'
  · intro request moves unfit
    rw [← sameCapacity] at unfit
    exact GuardedRing.ends_unserviceable moves unfit
  · intro caller request later outcome idle onward isFinished refuses
    obtain ⟨course, settled', queue', sound'⟩ := course_of_onward sound idle onward
    cases course with
    | pending phase running traceless =>
        rw [isFinished] at running
        cases running
        cases traceless
    | served phase running commits =>
        rw [isFinished] at running
        cases running
        rw [RingPhase.commits, refuses] at commits
        cases commits
    | refused outcome running _ moment twin spares =>
        rw [isFinished] at running
        cases running
        refine ⟨RingOutcome.taken_of_refuses refuses, ?_, ?_, moment, twin, spares, ?_, ?_⟩
        · intro error isError
          exact (spares.short error isError).isWouldBlock
        · by_cases nobody : ∀ other call, later.calls other = some call →
              call.phase.holds = false
          · exact .inl (sound'.attended.lock_free nobody)
          · push Not at nobody
            obtain ⟨other, call, present, inside⟩ := nobody
            refine .inr ⟨other, call, ?_, present, by simpa using inside⟩
            rintro rfl
            rw [isFinished] at present
            cases present
            exact inside rfl
        · obtain ⟨own, -, alike⟩ := spares.alike
          exact fun final goesOn => alike.from_here.steps goesOn
        · obtain ⟨own, -, alike⟩ := spares.alike
          intro final' goesOn
          obtain ⟨final, goesOn', alike'⟩ := alike.symm.from_here.steps goesOn
          exact ⟨final, goesOn', alike'.symm⟩

theorem onward_goOnAll (crowd : Crowd Caller) (caller : Caller) (movers : List Caller) :
    Relation.ReflTransGen (Onward caller) crowd (crowd.goOnAll movers) := by
  induction movers generalizing crowd with
  | nil => exact .refl
  | cons mover movers hypothesis =>
      refine Relation.ReflTransGen.trans ?_ (hypothesis (crowd.goOn mover))
      unfold goOn
      split
      · exact .refl
      · rename_i call running
        split
        · exact .refl
        · rename_i guarded call' stepped
          refine .single ⟨.advance mover call call' guarded running stepped, fun idle => ?_⟩
          refine Function.update_of_ne ?_ _ _
          rintro rfl
          obtain ⟨outcome, isFinished⟩ := idle call running
          rw [RingCall.step, isFinished] at stepped
          cases stepped

/-- A producer of two bytes is refused by a ring that has room for one, while a consumer is on
his way to the mutex. -/
theorem exists_refused : ∃ crowd : Crowd Bool,
    Relation.ReflTransGen Step (start (.new 4 true)) crowd ∧
      crowd.guarded.monitor.lock = .free ∧ crowd.guarded.ring.size = 3 ∧ crowd.Idle false ∧
      ∃ later, Relation.ReflTransGen (Onward false)
          { crowd with
            calls := Function.update crowd.calls false
              (some (.start (.produce [100, 101] false))) } later ∧
        later.calls false =
          some ⟨.produce [100, 101] false, .finished (.failed (.ringFull 2 1))⟩ := by
  have begun : Relation.ReflTransGen Step (start (.new 4 true) : Crowd Bool) _ :=
    .single (.begin true (.produce [97, 98, 99] false) (by rintro call ⟨⟩))
  have filled := begun.trans (steps_goOnAll _ (List.replicate 7 true))
  have joined := filled.tail (.begin true (.consume 1 false) (by
    rintro call ⟨⟩
    exact ⟨_, rfl⟩))
  refine ⟨_, joined, rfl, rfl, by rintro call ⟨⟩, _,
    onward_goOnAll _ false [false, false, true, false, false], rfl⟩

theorem refusals_leave_no_trace_of_two_bytes : ∃ crowd : Crowd Bool,
    Relation.ReflTransGen Step (start (.new 4 true)) crowd ∧
      (∀ outcome guarded', crowd.guarded.Ends (.produce [100, 101] false) outcome guarded' ↔
        outcome = .failed (.ringFull 2 1) ∧ guarded' = crowd.guarded) ∧
      (∃ text, ∀ outcome guarded', crowd.guarded.Ends (.consume 5 true) outcome guarded' ↔
        outcome = .rejected text ∧ guarded' = crowd.guarded) ∧
      ∃ later moment twin, Spares crowd false (.produce [100, 101] false)
        (.failed (.ringFull 2 1)) later moment twin := by
  obtain ⟨crowd, reaches, unlocked, size_eq, idle, later, onward, isFinished⟩ :=
    exists_refused
  obtain ⟨alone, unserviceable, among⟩ :=
    refusals_leave_no_trace (Ring.represents_empty (by decide)) rfl reaches
  obtain ⟨-, -, -, moment, twin, spares, -⟩ :=
    among false _ later _ idle onward isFinished rfl
  refine ⟨crowd, reaches, fun outcome guarded' => ?_,
    unserviceable (.consume 5 true) RingRequest.noConfusion (.inr (by decide)),
    later, moment, twin, spares⟩
  have ends := (alone unlocked outcome guarded').1 [100, 101] (by decide) (by decide)
  rw [size_eq] at ends
  exact ends

end Crowd

end BoundedStream
