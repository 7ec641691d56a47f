import BoundedStream.Proofs.Party.Pursuit
import BoundedStream.Proofs.Ring.Crowd
import BoundedStream.Proofs.Ring.Traffic

/-!
# Orphaned rings

A party that dies with the mutex of a ring may leave the ring half written, so nobody looks
at it again.  The first survivor that tries the mutex is told of the death and gives the
mutex up for good, and every later one is told that it is gone; no call gets as far as the
bytes.  What never needed the mutex goes on as before: requests that no ring serves are
rejected, transfers of no bytes are not made at all, and the bytes of a private ring are
counted.
-/

namespace BoundedStream

/-! ## Calls on an orphaned ring -/

namespace RingRequest

/-- Whether a request needs the mutex of a ring of the capacity. -/
def tries (capacity : Nat) (shared : Bool) (request : RingRequest) : Bool :=
  decide (request.rejection? capacity = none ∧ (request = .measure → shared = true))

/-- What a request comes to on an orphaned ring, whose mutex was tried before or not. -/
def verdict (left : Ring) (shared noticed : Bool) (request : RingRequest) : RingOutcome :=
  match request.rejection? left.capacity with
  | some text => .rejected text
  | none =>
    if request = .measure ∧ shared = false then .measured left.size
    else .failed (.lock (if noticed then .notRecoverable else .ownerDied))

theorem rejection?_measure (capacity : Nat) : measure.rejection? capacity = none := rfl

variable {left : Ring} {shared noticed : Bool} {request : RingRequest}

theorem verdict_of_tries (tries : request.tries left.capacity shared = true) :
    request.verdict left shared noticed =
      .failed (.lock (if noticed then .notRecoverable else .ownerDied)) := by
  obtain ⟨admitted, reached⟩ := of_decide_eq_true tries
  have guarded : ¬ (request = .measure ∧ shared = false) := by
    rintro ⟨measures, unshared⟩
    rw [reached measures] at unshared
    cases unshared
  simp only [verdict, admitted, if_neg guarded]

end RingRequest

/-- The holder of the mutex has died and left a ring; the mutex was tried since or not. -/
structure GuardedRing.Orphaned (guarded : GuardedRing) (left : Ring) (shared noticed : Bool) :
    Prop where
  ring_eq : guarded.ring = left
  shared_eq : guarded.shared = shared
  lock_eq : guarded.monitor.lock = if noticed then .broken else .abandoned

/-- A call needs the mutex from its first look at the ring to its end. -/
def RingCall.Admitted (capacity : Nat) (shared : Bool) (call : RingCall) : Prop :=
  match call.phase with
  | .arriving | .finished _ => True
  | _ => call.request.tries capacity shared = true

structure RingCall.Adrift (capacity : Nat) (shared : Bool) (call : RingCall) : Prop where
  outside : call.phase.holds = false
  admitted : call.Admitted capacity shared

namespace RingCall

variable {guarded guarded' : GuardedRing} {left : Ring} {shared noticed : Bool}
  {request : RingRequest} {phase phase' : RingPhase}

theorem Step.admitted (step : Step guarded request phase guarded' phase')
    (admitted : Admitted guarded.ring.capacity guarded.shared ⟨request, phase⟩) :
    Admitted guarded.ring.capacity guarded.shared ⟨request, phase'⟩ := by
  cases step with
  | approach accepted reached => exact decide_eq_true ⟨accepted, reached⟩
  | acquire phase wanting free => rcases wanting with rfl | rfl <;> exact admitted
  | _ => first | exact admitted | trivial

theorem Step.guarded_eq (step : Step guarded request phase guarded' phase') :
    guarded'.shared = guarded.shared ∧ guarded'.monitor.robust = guarded.monitor.robust := by
  cases step with
  | lose phase wanting monitor error lost =>
      unfold Monitor.acquire? at lost
      split at lost <;> cases lost <;> exact ⟨rfl, rfl⟩
  | notify outcome => cases request <;> exact ⟨rfl, rfl⟩
  | _ => exact ⟨rfl, rfl⟩

/-- A call on an orphaned ring either goes on outside of the mutex, or ends as the ring and
the mutex were found; the ring stays as it is. -/
theorem Step.of_orphaned (step : Step guarded request phase guarded' phase')
    (orphaned : guarded.Orphaned left shared noticed)
    (adrift : Adrift left.capacity shared ⟨request, phase⟩) :
    (guarded'.Orphaned left shared noticed ∧ Adrift left.capacity shared ⟨request, phase'⟩ ∧
        ∀ outcome, phase' ≠ .finished outcome) ∨
      guarded'.Orphaned left shared (noticed || request.tries left.capacity shared) ∧
        phase' = .finished (request.verdict left shared noticed) := by
  obtain ⟨rfl, rfl, lock_eq⟩ := orphaned
  cases step with
  | reject text rejected =>
      have untried : request.tries guarded.ring.capacity guarded.shared = false := by
        simp [RingRequest.tries, rejected]
      rw [untried, Bool.or_false]
      refine .inr ⟨⟨rfl, rfl, lock_eq⟩, ?_⟩
      simp only [RingRequest.verdict, rejected]
  | glance measures unshared =>
      have untried : request.tries guarded.ring.capacity guarded.shared = false := by
        simp [RingRequest.tries, measures, unshared]
      rw [untried, Bool.or_false]
      refine .inr ⟨⟨rfl, rfl, lock_eq⟩, ?_⟩
      subst measures
      simp only [RingRequest.verdict, RingRequest.rejection?, unshared, and_self, if_true]
  | approach admitted reached =>
      exact .inl ⟨⟨rfl, rfl, lock_eq⟩, ⟨rfl, decide_eq_true ⟨admitted, reached⟩⟩, by simp⟩
  | wake signals changed =>
      exact .inl ⟨⟨rfl, rfl, lock_eq⟩, ⟨rfl, adrift.admitted⟩, by simp⟩
  | acquire phase wanting free =>
      rw [lock_eq] at free
      cases noticed <;> cases free
  | lose phase wanting monitor error lost =>
      have tries : request.tries guarded.ring.capacity guarded.shared = true := by
        rcases wanting with rfl | rfl <;> exact adrift.admitted
      rw [tries, Bool.or_true, RingRequest.verdict_of_tries tries]
      right
      cases noticed with
      | false =>
          simp only [Monitor.acquire?, lock_eq] at lost
          cases lost
          exact ⟨⟨rfl, rfl, rfl⟩, rfl⟩
      | true =>
          simp only [Monitor.acquire?, lock_eq] at lost
          cases lost
          exact ⟨⟨rfl, rfl, lock_eq⟩, rfl⟩
  | _ => cases adrift.outside

/-- Nobody waits for an abandoned mutex: only who sleeps for a condition cannot go on. -/
theorem exists_step_of_orphaned (orphaned : guarded.Orphaned left shared noticed)
    (adrift : Adrift left.capacity shared ⟨request, phase⟩)
    (unfinished : ∀ outcome, phase ≠ .finished outcome)
    (awake : ∀ signals, phase ≠ .asleep signals) :
    ∃ later, step guarded ⟨request, phase⟩ = some later := by
  have lock_eq := orphaned.lock_eq
  have acquired : ∃ later, guarded.monitor.acquire? = some later := by
    cases noticed <;> simp [Monitor.acquire?, lock_eq]
  obtain ⟨later, isLater⟩ := acquired
  cases phase with
  | arriving => exact ⟨_, rfl⟩
  | locking => exact ⟨_, by simp only [step, acquire?, isLater]; rfl⟩
  | relocking => exact ⟨_, by simp only [step, acquire?, isLater]; rfl⟩
  | asleep signals => exact absurd rfl (awake signals)
  | finished outcome => exact absurd rfl (unfinished outcome)
  | _ => cases adrift.outside

end RingCall

/-! ## Survivors -/

/-- The call of a survivor, and the endpoint through which it is made. -/
structure Errand where
  endpoint : Endpoint
  call : RingCall

def Errand.Made (location : Location) (errand : Errand) : Prop :=
  errand.endpoint.call? errand.call.request =
    some (.ring location (.start errand.call.request))

/-- A call that has ended, and its result in the words of its endpoint. -/
structure Ending where
  endpoint : Endpoint
  request : RingRequest
  result : Except CallError CallValue

/-- The value of a transfer of no bytes, for which no call is made. -/
def RingRequest.nothing : RingRequest → CallValue
  | .produce _ _ => .count 0
  | .consume _ _ => .bytes []
  | .measure => .nothing

/-- An error of the ring in the words of an endpoint of it. -/
def Endpoint.wording (endpoint : Endpoint) (error : RegionError) : CallError :=
  match endpoint with
  | .transport _ => .stream (.region error)
  | _ => .region error

namespace Ending

def tried (capacity : Nat) (shared : Bool) (ending : Ending) : Bool :=
  ending.request.tries capacity shared

/-- What a call comes to after a death, if the mutex was tried before or not. -/
def verdict (left : Ring) (shared noticed : Bool) (ending : Ending) :
    Except CallError CallValue :=
  match ending.endpoint.call? ending.request with
  | none => .ok ending.request.nothing
  | some _ =>
    match ending.request.rejection? left.capacity with
    | some text => .error (.rejected text)
    | none =>
      if ending.request = .measure ∧ shared = false then .ok (.count left.size)
      else .error
        (ending.endpoint.wording (.lock (if noticed then .notRecoverable else .ownerDied)))

/-- Whether the ring is empty, as far as a call that counts its bytes can tell. -/
def empty (ending : Ending) : Except CallError Bool :=
  ending.result.map fun value => value == .count 0

end Ending

/-- A host after a death, with the calls of the survivors and the calls that have ended since,
in order. -/
structure Wake (Survivor : Type) where
  host : Host
  errands : Survivor → Option Errand
  ended : List Ending

namespace Wake

variable {Survivor : Type}

/-- What a call adds to the endings with the step that leaves it so. -/
def endingsOf (endpoint : Endpoint) (call : RingCall) : List Ending :=
  match call.phase with
  | .finished outcome =>
    [⟨endpoint, call.request, Endpoint.resultOf (some endpoint) (.ring outcome)⟩]
  | _ => []

def Idle (wake : Wake Survivor) (survivor : Survivor) : Prop :=
  ∀ errand, wake.errands survivor = some errand →
    ∃ outcome, errand.call.phase = .finished outcome

/-- Everything that survivors may do with a ring, through whatever endpoints of it, and what
may happen around them. -/
inductive Step [DecidableEq Survivor] (location : Location) :
    Wake Survivor → Wake Survivor → Prop
  | begin {wake : Wake Survivor} (survivor : Survivor) (endpoint : Endpoint)
      (request : RingRequest) (call : RingCall) (idle : wake.Idle survivor)
      (made : endpoint.call? request = some (.ring location call)) :
      Step location wake
        { wake with
          errands := Function.update wake.errands survivor (some ⟨endpoint, call⟩) }
  /-- A request through an endpoint of the ring for which no call is made. -/
  | skip {wake : Wake Survivor} (endpoint : Endpoint) (request : RingRequest)
      (reaches : endpoint.location? = some location)
      (spared : endpoint.call? request = none) :
      Step location wake
        { wake with ended := wake.ended ++ [⟨endpoint, request, .ok request.nothing⟩] }
  | advance {wake : Wake Survivor} (survivor : Survivor) (endpoint : Endpoint)
      (call call' : RingCall) (host : Host)
      (running : wake.errands survivor = some ⟨endpoint, call⟩)
      (stepped : (Call.ring location call).step wake.host =
        some (host, .ring location call')) :
      Step location wake
        { host
          errands := Function.update wake.errands survivor (some ⟨endpoint, call'⟩)
          ended := wake.ended ++ endingsOf endpoint call' }
  /-- A sleeper wakes up although nobody woke him. -/
  | rouse {wake : Wake Survivor} (survivor : Survivor) (endpoint : Endpoint)
      (request : RingRequest) (signals : Nat)
      (sleeps : wake.errands survivor = some ⟨endpoint, ⟨request, .asleep signals⟩⟩) :
      Step location wake
        { wake with
          errands := Function.update wake.errands survivor
            (some ⟨endpoint, ⟨request, .relocking⟩⟩) }
  /-- Handles are opened and given up, and other rings are worked on. -/
  | change {wake : Wake Survivor} (host : Host)
      (same : host.guarded? location = wake.host.guarded? location) :
      Step location wake { wake with host }

/-- The ring stays as it was left, its mutex is never free, and every ended call came to what
it had to. -/
structure Sound (wake : Wake Survivor) (location : Location) (left : Ring) (shared : Bool) :
    Prop where
  orphaned : ∃ guarded, wake.host.guarded? location = some guarded ∧
    guarded.Orphaned left shared (wake.ended.any (Ending.tried left.capacity shared))
  adrift : ∀ survivor errand, wake.errands survivor = some errand →
    errand.Made location ∧ errand.call.Adrift left.capacity shared
  judged : ∀ earlier ending later, wake.ended = earlier ++ ending :: later →
    ending.result =
      ending.verdict left shared (earlier.any (Ending.tried left.capacity shared))
  through : ∀ ending ∈ wake.ended, ending.endpoint.location? = some location

variable {wake later : Wake Survivor} {location : Location} {left : Ring} {shared : Bool}

/-- Every endpoint of a ring begins a call for the request that it passes on. -/
theorem made_of_call? {endpoint : Endpoint} {request : RingRequest} {call : RingCall}
    (made : endpoint.call? request = some (.ring location call)) :
    call.phase = .arriving ∧ Errand.Made location ⟨endpoint, call⟩ ∧
      endpoint.location? = some location := by
  unfold Errand.Made
  cases endpoint with
  | ring number => cases request <;> cases made <;> exact ⟨rfl, rfl, rfl⟩
  | segment handle => cases request <;> cases made <;> exact ⟨rfl, rfl, rfl⟩
  | pipe number => cases request <;> cases made
  | monitor number => cases request <;> cases made
  | transport opened =>
      obtain ⟨config, role, backend⟩ := opened
      cases request with
      | measure => cases backend <;> cases made; exact ⟨rfl, rfl, rfl⟩
      | produce data wait =>
          by_cases nothing : data.isEmpty = true <;> cases backend <;>
            simp [Endpoint.call?, Endpoint.produceCall?, Transport.produceCall?, nothing]
              at made
          obtain ⟨rfl, rfl⟩ := made
          refine ⟨rfl, ?_, rfl⟩
          simp [Endpoint.call?, Endpoint.produceCall?, Transport.produceCall?, nothing,
            RingCall.start]
      | consume length wait =>
          by_cases nothing : length = 0 <;> cases backend <;>
            simp [Endpoint.call?, Endpoint.consumeCall?, Transport.consumeCall?, nothing]
              at made
          obtain ⟨rfl, rfl⟩ := made
          refine ⟨rfl, ?_, rfl⟩
          simp [Endpoint.call?, Endpoint.consumeCall?, Transport.consumeCall?, nothing,
            RingCall.start]

theorem tries_of_spared {endpoint : Endpoint} {request : RingRequest} (capacity : Nat)
    (shared : Bool) (reaches : endpoint.location? = some location)
    (spared : endpoint.call? request = none) : request.tries capacity shared = false := by
  refine decide_eq_false fun needs => ?_
  rw [Endpoint.call?_eq reaches needs.1] at spared
  cases spared

theorem resultOf_verdict {endpoint : Endpoint} {request : RingRequest} (noticed : Bool)
    (made : Errand.Made location ⟨endpoint, ⟨request, .arriving⟩⟩)
    (result : Except CallError CallValue) :
    Endpoint.resultOf (some endpoint) (.ring (request.verdict left shared noticed)) =
      (⟨endpoint, request, result⟩ : Ending).verdict left shared noticed := by
  have called : endpoint.call? request = some (.ring location (.start request)) := made
  simp only [Ending.verdict, called, RingRequest.verdict]
  split
  · cases endpoint <;> rfl
  · split
    · cases endpoint <;> rfl
    · cases endpoint <;> rfl

theorem endingsOf_of_unfinished {endpoint : Endpoint} {request : RingRequest}
    {phase : RingPhase} (unfinished : ∀ outcome, phase ≠ .finished outcome) :
    endingsOf endpoint ⟨request, phase⟩ = [] := by
  cases phase <;> first | rfl | exact absurd rfl (unfinished _)

namespace Sound

private theorem judged_concat {ended : List Ending} {last : Ending}
    {tried : Ending → Bool} {verdict : Bool → Ending → Except CallError CallValue}
    (judged : ∀ earlier ending later, ended = earlier ++ ending :: later →
      ending.result = verdict (earlier.any tried) ending)
    (isLast : last.result = verdict (ended.any tried) last)
    (earlier : List Ending) (ending : Ending) (later : List Ending)
    (split : ended ++ [last] = earlier ++ ending :: later) :
    ending.result = verdict (earlier.any tried) ending := by
  rcases List.eq_nil_or_concat later with rfl | ⟨front, final, rfl⟩
  · obtain ⟨rfl, same⟩ := List.append_inj' split rfl
    cases same
    exact isLast
  · have longer : ended ++ [last] = (earlier ++ ending :: front) ++ [final] := by
      rw [split, List.concat_eq_append, List.append_assoc, List.cons_append]
    exact judged earlier ending front (List.append_inj' longer rfl).1

private theorem through_concat {ended : List Ending} {last : Ending}
    (through : ∀ ending ∈ ended, ending.endpoint.location? = some location)
    (isLast : last.endpoint.location? = some location) (ending : Ending)
    (among : ending ∈ ended ++ [last]) : ending.endpoint.location? = some location := by
  rcases List.mem_append.mp among with old | new
  · exact through ending old
  · rw [List.mem_singleton.mp new]
    exact isLast

private theorem of_same (sound : wake.Sound location left shared) {host : Host}
    {errands : Survivor → Option Errand}
    (same : host.guarded? location = wake.host.guarded? location)
    (adrift : ∀ survivor errand, errands survivor = some errand →
      errand.Made location ∧ errand.call.Adrift left.capacity shared) :
    (⟨host, errands, wake.ended⟩ : Wake Survivor).Sound location left shared where
  orphaned := by
    obtain ⟨guarded, present, orphaned⟩ := sound.orphaned
    exact ⟨guarded, same.trans present, orphaned⟩
  adrift := adrift
  judged := sound.judged
  through := sound.through

variable [DecidableEq Survivor]

private theorem adrift_update (sound : wake.Sound location left shared) {survivor : Survivor}
    {next : Errand} (made : next.Made location)
    (adrift : next.call.Adrift left.capacity shared) (other : Survivor) (errand : Errand)
    (running : Function.update wake.errands survivor (some next) other = some errand) :
    errand.Made location ∧ errand.call.Adrift left.capacity shared := by
  by_cases same : other = survivor
  · subst same
    rw [Function.update_self] at running
    cases running
    exact ⟨made, adrift⟩
  · rw [Function.update_of_ne same] at running
    exact sound.adrift other errand running

private theorem advance (sound : wake.Sound location left shared) {survivor : Survivor}
    {endpoint : Endpoint} {call call' : RingCall} {host : Host}
    (running : wake.errands survivor = some ⟨endpoint, call⟩)
    (stepped : (Call.ring location call).step wake.host =
      some (host, .ring location call')) :
    (⟨host, Function.update wake.errands survivor (some ⟨endpoint, call'⟩),
      wake.ended ++ endingsOf endpoint call'⟩ : Wake Survivor).Sound location left shared := by
  obtain ⟨guarded, guarded', _, present, ringStep, rfl, ⟨⟩⟩ :=
    Call.step_ring_eq_some stepped
  obtain ⟨sameRequest, step⟩ := RingCall.step_cases ringStep
  obtain ⟨request, phase⟩ := call
  obtain ⟨_, phase'⟩ := call'
  cases sameRequest
  obtain ⟨before, found, orphaned⟩ := sound.orphaned
  rw [present] at found
  cases found
  obtain ⟨made, adrift⟩ := sound.adrift survivor _ running
  have presentAfter := Host.guarded?_setGuarded_self present guarded'
  rcases step.of_orphaned orphaned adrift with
    ⟨orphaned', adrift', unfinished⟩ | ⟨orphaned', rfl⟩
  · rw [endingsOf_of_unfinished unfinished, List.append_nil]
    exact ⟨⟨guarded', presentAfter, orphaned'⟩, sound.adrift_update made adrift', sound.judged,
      sound.through⟩
  · refine ⟨⟨guarded', presentAfter, ?_⟩, sound.adrift_update made ⟨rfl, trivial⟩, ?_,
      through_concat sound.through (made_of_call? made).2.2⟩
    · rw [endingsOf, List.any_append, List.any_cons, List.any_nil, Bool.or_false]
      exact orphaned'
    · exact judged_concat sound.judged (resultOf_verdict _ made _)

theorem step (sound : wake.Sound location left shared) (step : Step location wake later) :
    later.Sound location left shared := by
  cases step with
  | begin survivor endpoint request call idle made =>
      obtain ⟨isArriving, made', -⟩ := made_of_call? made
      obtain ⟨request', phase⟩ := call
      cases isArriving
      exact sound.of_same rfl (sound.adrift_update made' ⟨rfl, trivial⟩)
  | skip endpoint request reaches spared =>
      have untried := tries_of_spared left.capacity shared reaches spared
      obtain ⟨guarded, present, orphaned⟩ := sound.orphaned
      refine ⟨⟨guarded, present, ?_⟩, sound.adrift, judged_concat sound.judged ?_,
        through_concat sound.through reaches⟩
      · rw [List.any_append, List.any_cons, List.any_nil, Ending.tried, untried, Bool.or_false,
          Bool.or_false]
        exact orphaned
      · simp only [Ending.verdict, spared]
  | advance survivor endpoint call call' host running stepped =>
      exact sound.advance running stepped
  | rouse survivor endpoint request signals sleeps =>
      obtain ⟨made, adrift⟩ := sound.adrift survivor _ sleeps
      exact sound.of_same rfl (sound.adrift_update made ⟨rfl, adrift.admitted⟩)
  | change host same => exact sound.of_same same sound.adrift

omit [DecidableEq Survivor] in
theorem result_eq (sound : wake.Sound location left shared) {ending : Ending}
    (among : ending ∈ wake.ended) :
    ∃ noticed, ending.result = ending.verdict left shared noticed := by
  obtain ⟨earlier, later, split⟩ := List.append_of_mem among
  exact ⟨_, sound.judged earlier ending later split⟩

omit [DecidableEq Survivor] in
theorem fails (sound : wake.Sound location left shared) {ending : Ending}
    (among : ending ∈ wake.ended) (moves : ending.request ≠ .measure)
    (positive : 0 < ending.request.length) : ∃ error, ending.result = .error error := by
  obtain ⟨noticed, isResult⟩ := sound.result_eq among
  have called := Endpoint.call?_eq (sound.through ending among)
    (RingRequest.rejection?_eq_none positive (Nat.le_refl _))
  simp only [Ending.verdict, called] at isResult
  split at isResult
  · exact ⟨_, isResult⟩
  · rw [if_neg fun glances => moves glances.1] at isResult
    exact ⟨_, isResult⟩

omit [DecidableEq Survivor] in
/-- Who counts the bytes is told how many there are on a private ring, and else fails. -/
theorem empty_eq (sound : wake.Sound location left shared) {ending : Ending}
    (among : ending ∈ wake.ended) (measures : ending.request = .measure) :
    (shared = false → ending.empty = .ok (left.size == 0)) ∧
      (shared = true → ∃ error, ending.empty = .error error) := by
  obtain ⟨endpoint, request, result⟩ := ending
  cases measures
  obtain ⟨noticed, isResult⟩ := sound.result_eq among
  have called := Endpoint.call?_eq (sound.through _ among)
    (RingRequest.rejection?_measure left.capacity)
  simp only [Ending.verdict, called, RingRequest.rejection?_measure, true_and] at isResult
  constructor
  · rintro rfl
    rw [if_pos rfl] at isResult
    cases isResult
    simp only [Ending.empty, Except.map]
    cases left.size <;> rfl
  · rintro rfl
    rw [if_neg (by simp)] at isResult
    cases isResult
    exact ⟨_, rfl⟩

theorem steps (sound : wake.Sound location left shared)
    (goesOn : Relation.ReflTransGen (Step location) wake later) :
    later.Sound location left shared := by
  induction goesOn with
  | refl => exact sound
  | tail _ next hypothesis => exact hypothesis.step next

end Sound

end Wake

/-! ## Deaths -/

namespace Crowd

variable {Caller : Type}

/-- A ring whose holder would be missed, and calls that need its mutex where they try it. -/
structure Guarding (crowd : Crowd Caller) (capacity : Nat) (shared : Bool) : Prop where
  robust : crowd.guarded.monitor.robust = true
  shared_eq : crowd.guarded.shared = shared
  capacity_eq : crowd.guarded.ring.capacity = capacity
  admitted : ∀ caller call, crowd.calls caller = some call → call.Admitted capacity shared

variable {crowd later : Crowd Caller} {capacity : Nat} {shared : Bool} [DecidableEq Caller]

theorem Guarding.step (guarding : crowd.Guarding capacity shared) (step : Step crowd later) :
    later.Guarding capacity shared := by
  obtain ⟨robust, rfl, rfl, admitted⟩ := guarding
  have update : ∀ (caller : Caller) (next : RingCall),
      next.Admitted crowd.guarded.ring.capacity crowd.guarded.shared →
      ∀ other call, Function.update crowd.calls caller (some next) other = some call →
        call.Admitted crowd.guarded.ring.capacity crowd.guarded.shared := by
    intro caller next isAdmitted other call running
    rcases RingCall.of_update running with ⟨-, ⟨⟩⟩ | ⟨-, running⟩
    · exact isAdmitted
    · exact admitted other call running
  cases step with
  | begin caller request idle => exact ⟨robust, rfl, rfl, update caller _ trivial⟩
  | advance caller call call' guarded running stepped =>
      obtain ⟨sameRequest, ringStep⟩ := RingCall.step_cases stepped
      obtain ⟨request, phase⟩ := call
      obtain ⟨_, phase'⟩ := call'
      cases sameRequest
      obtain ⟨sameShared, sameRobust⟩ := ringStep.guarded_eq
      refine ⟨sameRobust.trans robust, sameShared, ringStep.capacity_eq, update caller _ ?_⟩
      exact ringStep.admitted (admitted caller _ running)
  | rouse caller request signals sleeps =>
      have isAdmitted := admitted caller _ sleeps
      exact ⟨robust, rfl, rfl, update caller _ isAdmitted⟩

theorem Guarding.steps (guarding : crowd.Guarding capacity shared)
    (reaches : Relation.ReflTransGen Step crowd later) : later.Guarding capacity shared := by
  induction reaches with
  | refl => exact guarding
  | tail _ step hypothesis => exact hypothesis.step step

omit [DecidableEq Caller] in
theorem guarding_start {guarded : GuardedRing} (robust : guarded.monitor.robust = true) :
    (start guarded : Crowd Caller).Guarding guarded.ring.capacity guarded.shared :=
  ⟨robust, rfl, rfl, by rintro caller call ⟨⟩⟩

/-- A caller dies with the mutex and leaves a ring; others go on with the calls that they have
under way, through endpoints that make such calls. -/
structure Dies (crowd : Crowd Caller) (victim : Caller) (left : Ring) (location : Location)
    (wake : Wake Caller) : Prop where
  holds : ∃ call, crowd.calls victim = some call ∧ call.phase.holds = true
  capacity_eq : left.capacity = crowd.guarded.ring.capacity
  present : wake.host.guarded? location =
    some { crowd.guarded with ring := left, monitor := crowd.guarded.monitor.abandon }
  survivors : ∀ caller errand, wake.errands caller = some errand →
    caller ≠ victim ∧ crowd.calls caller = some errand.call ∧ errand.Made location
  ended : wake.ended = []

omit [DecidableEq Caller] in
theorem Dies.sound {queue : List UInt8} {victim : Caller} {left : Ring}
    {location : Location} {wake : Wake Caller}
    (dies : crowd.Dies victim left location wake)
    (attended : crowd.guarded.Attended crowd.calls queue)
    (guarding : crowd.Guarding capacity shared) : wake.Sound location left shared := by
  obtain ⟨call, running, holds⟩ := dies.holds
  have sameCapacity : left.capacity = capacity := dies.capacity_eq.trans guarding.capacity_eq
  refine ⟨⟨_, dies.present, rfl, guarding.shared_eq, ?_⟩, ?_, ?_, ?_⟩
  · simp [Monitor.abandon, guarding.robust, dies.ended]
  · intro survivor errand isErrand
    obtain ⟨alive, surviving, made⟩ := dies.survivors survivor errand isErrand
    refine ⟨made, ?_, ?_⟩
    · -- Only one call at a time has the mutex, and that was the call of the victim.
      by_contra inside
      exact alive (attended.exclusive survivor victim errand.call call surviving running
        (by simpa using inside) holds)
    · rw [sameCapacity]
      exact guarding.admitted survivor errand.call surviving
  · intro earlier ending later split
    rw [dies.ended] at split
    simp at split
  · intro ending among
    rw [dies.ended] at among
    cases among

/-- The death of the holder of the mutex is final.  The ring stays as it was left, and its
mutex is never free again.  The first call that tries the mutex is told of the death, every
later one that the mutex is gone, and no call transfers a byte; what is rejected, spared or
answered without the mutex is so as ever.  Nobody waits for the mutex. -/
theorem death_is_final {guarded : GuardedRing} {source : List UInt8} {victim : Caller}
    {left : Ring} {location : Location} {before wake : Wake Caller}
    (represents : guarded.ring.Represents source) (free : guarded.monitor.lock = .free)
    (robust : guarded.monitor.robust = true)
    (reaches : Relation.ReflTransGen Step (start guarded) crowd)
    (dies : crowd.Dies victim left location before)
    (goesOn : Relation.ReflTransGen (Wake.Step location) before wake) :
    (∃ now, wake.host.guarded? location = some now ∧ now.ring = left ∧
        now.monitor.lock =
          (if wake.ended.any (Ending.tried left.capacity guarded.shared) then .broken
            else .abandoned) ∧
        ∀ caller errand, wake.errands caller = some errand →
          (∀ outcome, errand.call.phase ≠ .finished outcome) →
          (∀ signals, errand.call.phase ≠ .asleep signals) →
            ∃ later, errand.call.step now = some later) ∧
      (∀ earlier ending later, wake.ended = earlier ++ ending :: later →
        ending.result = ending.verdict left guarded.shared
          (earlier.any (Ending.tried left.capacity guarded.shared))) ∧
      (∀ ending ∈ wake.ended, ending.request ≠ .measure → 0 < ending.request.length →
        ∃ error, ending.result = .error error) ∧
      (∀ ending ∈ wake.ended, ending.request = .measure →
        (guarded.shared = false → ending.empty = .ok (left.size == 0)) ∧
          (guarded.shared = true → ∃ error, ending.empty = .error error)) ∧
      ∀ (host : Host) (party : Party) (transport : Transport),
        party.transport = some transport → party.call = none →
          (∀ resume, party.serve host (.send []) resume =
            some (host, party.goOn (resume (.ok 0)))) ∧
          ∀ resume, party.serve host (.receive 0) resume =
            some (host, party.goOn (resume (.ok (.ofList 0 [])))) := by
  obtain ⟨settled, queue, crowdSound⟩ := (sound_start represents free).steps reaches
  have sound := (dies.sound crowdSound.attended
    ((guarding_start robust).steps reaches)).steps goesOn
  obtain ⟨now, present, orphaned⟩ := sound.orphaned
  refine ⟨⟨now, present, orphaned.ring_eq, orphaned.lock_eq, ?_⟩, sound.judged, ?_, ?_, ?_⟩
  · intro caller errand running unfinished awake
    exact RingCall.exists_step_of_orphaned orphaned (sound.adrift caller errand running).2
      unfinished awake
  · exact fun ending among moves positive => sound.fails among moves positive
  · exact fun ending among measures => sound.empty_eq among measures
  · intro host party transport opened idle
    refine ⟨fun resume => ?_, fun resume => ?_⟩
    · simp [Party.serve, Party.pursue, idle, opened, Transport.produceCall?]
    · simp [Party.serve, Party.pursue, idle, opened, Transport.consumeCall?]

/-- A host after the death of a producer between copying two bytes and counting them, while a
consumer sleeps. -/
def halfWritten : Wake Role where
  host :=
    { Host.fresh with
      rings := [⟨(Ring.empty 4).store [97, 98], false, { Monitor.new with lock := .abandoned }⟩] }
  errands
    | .producer => none
    | .consumer => some ⟨.ring 0, ⟨.consume 2 true, .asleep 0⟩⟩
  ended := []

theorem exists_death : ∃ crowd : Crowd Role,
    Relation.ReflTransGen Step (start (.new 4 false)) crowd ∧
      crowd.Dies .producer ((Ring.empty 4).store [97, 98]) (.heap 0) halfWritten := by
  have begun : Relation.ReflTransGen Step (start (.new 4 false) : Crowd Role) _ :=
    .single (.begin .consumer (.consume 2 true) (by rintro call ⟨⟩))
  have asleep := begun.trans (steps_goOnAll _ [.consumer, .consumer, .consumer])
  have joined := asleep.tail (.begin .producer (.produce [97, 98] false) (by rintro call ⟨⟩))
  have copied := joined.trans (steps_goOnAll _ (List.replicate 4 .producer))
  refine ⟨_, copied, ⟨_, rfl, rfl⟩, rfl, rfl, ?_, rfl⟩
  rintro (_ | _) errand running
  · cases running
  · cases running
    exact ⟨by decide, rfl, rfl⟩

/-- The consumer wakes up without cause, tries to send a byte, and counts what there is. -/
theorem exists_aftermath : ∃ (wake : Wake Role) (first second third : _),
    Relation.ReflTransGen (Wake.Step (.heap 0)) halfWritten wake ∧
      wake.ended = [⟨.ring 0, .consume 2 true, first⟩, ⟨.ring 0, .produce [1] false, second⟩,
        ⟨.ring 0, .measure, third⟩] := by
  have roused : Relation.ReflTransGen (Wake.Step (.heap 0)) halfWritten _ :=
    .single (.rouse .consumer _ _ _ rfl)
  have told := roused.tail (.advance .consumer _ _ _ _ rfl rfl)
  have sending := told.tail (.begin .consumer (.ring 0) (.produce [1] false) _
    (by rintro errand ⟨⟩; exact ⟨_, rfl⟩) rfl)
  have arrived := sending.tail (.advance .consumer _ _ _ _ rfl rfl)
  have refused := arrived.tail (.advance .consumer _ _ _ _ rfl rfl)
  have counting := refused.tail (.begin .consumer (.ring 0) .measure _
    (by rintro errand ⟨⟩; exact ⟨_, rfl⟩) rfl)
  have counted := counting.tail (.advance .consumer _ _ _ _ rfl rfl)
  exact ⟨_, _, _, _, counted, rfl⟩

/-- The consumer is told of the death, then that the mutex is gone, and still counts the
bytes of its own ring. -/
theorem death_is_final_of_half_written : ∃ wake : Wake Role,
    Relation.ReflTransGen (Wake.Step (.heap 0)) halfWritten wake ∧
      (∃ now, wake.host.guarded? (.heap 0) = some now ∧
        now.ring = (Ring.empty 4).store [97, 98] ∧ now.monitor.lock = .broken) ∧
      wake.ended.map Ending.result =
        [.error (.region (.lock .ownerDied)), .error (.region (.lock .notRecoverable)),
          .ok (.count 0)] := by
  obtain ⟨crowd, reaches, dies⟩ := exists_death
  obtain ⟨wake, first, second, third, goesOn, ended⟩ := exists_aftermath
  obtain ⟨⟨now, present, isRing, lock_eq, -⟩, judged, -⟩ :=
    death_is_final (Ring.represents_empty (by decide)) rfl rfl reaches dies goesOn
  have isFirst : first = .error (.region (.lock .ownerDied)) := judged [] _ _ ended
  have isSecond : second = .error (.region (.lock .notRecoverable)) := judged [_] _ _ ended
  have isThird : third = .ok (.count 0) := judged [_, _] _ _ ended
  refine ⟨wake, goesOn, ⟨now, present, isRing, ?_⟩, ?_⟩
  · rw [lock_eq, ended]
    rfl
  · rw [ended, isFirst, isSecond, isThird]
    rfl

end Crowd

end BoundedStream
