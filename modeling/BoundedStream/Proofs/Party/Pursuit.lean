import BoundedStream.Proofs.Host.Rings
import BoundedStream.Proofs.Ring.Attended
import BoundedStream.Party

/-!
# Transfers of a party

A party whose program waits for a transfer on a ring begins it, goes on with it step by
step, and answers the program once it has finished.  The transfer takes effect on the ring
in one of its steps.
-/

namespace BoundedStream

/-! ## The effect of a step -/

namespace Call

/-- The request and the outcome of a call on a ring that has taken effect. -/
def decided? : Call → Option (RingRequest × RingOutcome)
  | ring _ call => call.phase.decided?.map fun outcome => (call.request, outcome)
  | _ => none

/-- The request and the outcome of a call that took effect between two moments. -/
def effect? (before after : Option Call) : Option (RingRequest × RingOutcome) :=
  match before.bind decided? with
  | none => after.bind decided?
  | some _ => none

/-- The call on a ring that is in progress. -/
def onRing? : Option Call → Option RingCall
  | some (.ring _ call) => some call
  | _ => none

/-- The bytes that were put in the ring between two moments. -/
def put (before after : Option Call) : List UInt8 :=
  match effect? before after with
  | some (request, outcome) => request.acknowledged outcome
  | none => []

/-- The bytes that were taken out of the ring between two moments. -/
def took (before after : Option Call) : List UInt8 :=
  match effect? before after with
  | some (_, outcome) => outcome.taken
  | none => []

/-- A call for a request on the ring of a region that has not taken effect, if any. -/
def Undecided (number : Nat) (request : RingRequest) (call : Option Call) : Prop :=
  ∀ other, call = some other → ∃ phase : RingPhase,
    other = .ring (.region number) ⟨request, phase⟩ ∧ phase.decided? = none

section Undecided

variable {number : Nat} {request : RingRequest} {call : Option Call}

theorem undecided_none (number : Nat) (request : RingRequest) :
    Undecided number request none := by
  rintro other ⟨⟩

theorem undecided_start (number : Nat) (request : RingRequest) :
    Undecided number request (some (.ring (.region number) (.start request))) := by
  rintro other ⟨⟩
  exact ⟨.arriving, rfl, rfl⟩

theorem undecided_of_same {before after : RingPhase} (same : after.decided? = before.decided?)
    (undecided : before.decided? = none) :
    Undecided number request (some (.ring (.region number) ⟨request, after⟩)) := by
  rintro other ⟨⟩
  exact ⟨after, rfl, same.trans undecided⟩

/-- A call counts the bytes in the ring of a region, if there is one. -/
def Counts (number : Nat) (call : Option Call) : Prop :=
  ∀ other, call = some other → ∃ phase : RingPhase,
    other = .ring (.region number) ⟨.measure, phase⟩ ∧
      ∀ outcome, phase.decided? = some outcome → ∃ pending, outcome = .measured pending

theorem Undecided.onRing (undecided : Undecided number request call) :
    ∀ other, call = some other → ∃ ringCall, other = .ring (.region number) ringCall := by
  intro other running
  obtain ⟨phase, isCall, -⟩ := undecided other running
  exact ⟨_, isCall⟩

theorem Undecided.not_finished (undecided : Undecided number request call)
    {location : Location} {other : RingRequest} {outcome : RingOutcome} :
    call ≠ some (.ring location ⟨other, .finished outcome⟩) := by
  intro running
  obtain ⟨phase, isCall, open?⟩ := undecided _ running
  cases isCall
  cases open?

end Undecided

section Effects

variable {location : Location} {request : RingRequest} {before after : RingPhase}

theorem effect?_none (before : Option Call) : effect? before none = none := by
  unfold effect?
  cases before.bind decided? <;> rfl

@[simp]
theorem put_none (before : Option Call) : put before none = [] := by
  simp [put, effect?_none]

@[simp]
theorem took_none (before : Option Call) : took before none = [] := by
  simp [took, effect?_none]

theorem effect?_of_same (same : after.decided? = before.decided?) :
    effect? (some (.ring location ⟨request, before⟩))
      (some (.ring location ⟨request, after⟩)) = none := by
  cases decided : before.decided? <;> simp [effect?, Call.decided?, same, decided]

theorem effect?_of_decided {outcome : RingOutcome} (undecided : before.decided? = none)
    (decided : after.decided? = some outcome) :
    effect? (some (.ring location ⟨request, before⟩))
      (some (.ring location ⟨request, after⟩)) = some (request, outcome) := by
  simp [effect?, Call.decided?, undecided, decided]

theorem put_of_quiet {before after : Option Call} (quiet : effect? before after = none) :
    put before after = [] := by
  rw [put, quiet]

theorem took_of_quiet {before after : Option Call} (quiet : effect? before after = none) :
    took before after = [] := by
  rw [took, quiet]

theorem put_of_effect {before after : Option Call} {outcome : RingOutcome}
    (effect : effect? before after = some (request, outcome)) :
    put before after = request.acknowledged outcome := by
  rw [put, effect]

theorem took_of_effect {before after : Option Call} {outcome : RingOutcome}
    (effect : effect? before after = some (request, outcome)) :
    took before after = outcome.taken := by
  rw [took, effect]

theorem put_of_same (same : after.decided? = before.decided?) :
    put (some (.ring location ⟨request, before⟩))
      (some (.ring location ⟨request, after⟩)) = [] := by
  rw [put, effect?_of_same same]

theorem took_none_of_decided {outcome : RingOutcome} (decided : after.decided? = some outcome) :
    took none (some (.ring location ⟨request, after⟩)) = outcome.taken := by
  simp [took, effect?, Call.decided?, decided]

theorem Undecided.took_none_eq {number : Nat} {call : Option Call}
    (undecided : Undecided number request call) : took none call = [] := by
  cases call with
  | none => rfl
  | some call =>
      obtain ⟨phase, rfl, open?⟩ := undecided call rfl
      simp [took, effect?, Call.decided?, open?]

theorem put_of_decided {outcome : RingOutcome} (undecided : before.decided? = none)
    (decided : after.decided? = some outcome) :
    put (some (.ring location ⟨request, before⟩))
      (some (.ring location ⟨request, after⟩)) = request.acknowledged outcome := by
  rw [put, effect?_of_decided undecided decided]

theorem eq_append_put (location : Location) {capacity : Nat} {data : List UInt8} {wait : Bool}
    {queue queue' : List UInt8}
    (effect : GuardedRing.Took capacity (.produce data wait) before after queue queue') :
    queue' = queue ++ put (some (.ring location ⟨.produce data wait, before⟩))
      (some (.ring location ⟨.produce data wait, after⟩)) := by
  cases effect with
  | nothing same => rw [put_of_same same, List.append_nil]
  | effect outcome undecided decided answered =>
      have balance := RingRequest.answer?_balance answered
      rw [RingRequest.taken_of_produce answered] at balance
      rw [put_of_decided undecided decided, ← balance, List.nil_append]

end Effects

variable {host host' : Host} {location : Location} {call call' : RingCall}

theorem outcome?_ring : (Call.ring location call).outcome? =
    match call.phase with
    | .finished outcome => some (.ring outcome)
    | _ => none := by
  obtain ⟨request, phase⟩ := call
  cases phase <;> rfl

/-- A step of a call on a ring is a step on the ring at its location. -/
theorem step_ring_eq_some {later : Call}
    (stepped : (Call.ring location call).step host = some (host', later)) :
    ∃ guarded guarded' call', host.guarded? location = some guarded ∧
      call.step guarded = some (guarded', call') ∧
      host' = host.setGuarded location guarded' ∧ later = .ring location call' := by
  simp only [step, Option.bind_eq_bind, Option.bind_eq_some_iff, Option.pure_def,
    Option.some.injEq, Prod.mk.injEq, Prod.exists] at stepped
  obtain ⟨guarded, present, guarded', call', ringStep, rfl, rfl⟩ := stepped
  exact ⟨guarded, guarded', call', present, ringStep, rfl, rfl⟩

end Call

namespace Party

/-- Chunks of a size are accepted, and there is a buffer for one. -/
structure Affords (size : Nat) : Prop where
  nonzero : size ≠ 0
  moderate : size ≤ GuardedRing.greatestSize

theorem serve_allocate {length : Nat} (moderate : length ≤ GuardedRing.greatestSize)
    (host : Host) (party : Party) (resume : ProgramReply (.allocate length) → Program) :
    party.serve host (.allocate length) resume = some (host, party.goOn (resume ())) := by
  rw [serve, allocate, if_pos moderate]
  rfl

/-- Everything that a party can do about a transfer on a ring. -/
inductive Pursuit {Answer : Type} (host : Host) (party : Party) (location : Location)
    (request : RingRequest) (settle : TransportOutcome → Settled Answer)
    (resume : Answer → Program) : Host → Party → Prop
  | begin (idle : party.call = none) :
      Pursuit host party location request settle resume host
        { party with call := some (.ring location (.start request)) }
  | advance (call call' : RingCall) (guarded guarded' : GuardedRing)
      (running : party.call = some (.ring location call))
      (present : host.guarded? location = some guarded)
      (stepped : call.step guarded = some (guarded', call')) :
      Pursuit host party location request settle resume
        (host.setGuarded location guarded')
        { party with call := some (.ring location call') }
  | answer (request' : RingRequest) (outcome : RingOutcome) (answer : Answer)
      (running : party.call = some (.ring location ⟨request', .finished outcome⟩))
      (settled : settle (Outcome.ring outcome).onTransport = .answer answer) :
      Pursuit host party location request settle resume host
        (party.goOn (resume answer))
  | crash (request' : RingRequest) (outcome : RingOutcome) (text : String)
      (running : party.call = some (.ring location ⟨request', .finished outcome⟩))
      (settled : settle (Outcome.ring outcome).onTransport = .crash text) :
      Pursuit host party location request settle resume host
        { party with call := none, crash := some text }

/-- The list of what a party can do about a transfer is complete. -/
theorem pursuit_of_pursue {Answer : Type} {host host' : Host} {party party' : Party}
    {location : Location} {request : RingRequest} {transport : Transport}
    {begin? : Transport → Option Call} {idle : Answer}
    {settle : TransportOutcome → Settled Answer} {resume : Answer → Program}
    (opened : party.transport = some transport)
    (begins : begin? transport = some (.ring location (.start request)))
    (onRing : ∀ call, party.call = some call → ∃ ringCall, call = .ring location ringCall)
    (pursued : party.pursue host begin? idle settle resume = some (host', party')) :
    Pursuit host party location request settle resume host' party' := by
  obtain ⟨program, _, standardInput, standardOutput, input, output, running, crashed⟩ := party
  cases opened
  cases running with
  | none =>
      simp only [pursue, begins, Option.some.injEq, Prod.mk.injEq] at pursued
      obtain ⟨rfl, rfl⟩ := pursued
      exact .begin rfl
  | some call =>
      obtain ⟨⟨request', phase⟩, rfl⟩ := onRing call rfl
      simp only [pursue, Call.outcome?_ring] at pursued
      cases phase with
      | finished outcome =>
          simp only at pursued
          cases settled : settle (Outcome.ring outcome).onTransport with
          | answer answer =>
              simp only [settled, Option.some.injEq, Prod.mk.injEq] at pursued
              obtain ⟨rfl, rfl⟩ := pursued
              exact .answer request' outcome answer rfl settled
          | crash text =>
              simp only [settled, Option.some.injEq, Prod.mk.injEq] at pursued
              obtain ⟨rfl, rfl⟩ := pursued
              exact .crash request' outcome text rfl settled
      | _ =>
          simp only [Option.map_eq_some_iff, Prod.exists, Prod.mk.injEq] at pursued
          obtain ⟨host', later, stepped, rfl, rfl⟩ := pursued
          obtain ⟨guarded, guarded', call', present, ringStep, rfl, rfl⟩ :=
            Call.step_ring_eq_some stepped
          exact .advance _ call' guarded guarded' rfl present ringStep

/-- Everything that a party can do about a count of the bytes in the ring of a region. -/
inductive Counting (host : Host) (party : Party) (number : Nat)
    (resume : Except StreamError (Option Nat) → Program) : Host → Party → Prop
  | begin (idle : party.call = none) :
      Counting host party number resume host
        { party with call := some (.ring (.region number) (.start .measure)) }
  | advance (phase : RingPhase) (call' : RingCall) (guarded guarded' : GuardedRing)
      (running : party.call = some (.ring (.region number) ⟨.measure, phase⟩))
      (present : host.guarded? (.region number) = some guarded)
      (stepped : RingCall.step guarded ⟨.measure, phase⟩ = some (guarded', call')) :
      Counting host party number resume (host.setGuarded (.region number) guarded')
        { party with call := some (.ring (.region number) call') }
  | answer (pending : Nat)
      (running : party.call =
        some (.ring (.region number) ⟨.measure, .finished (.measured pending)⟩)) :
      Counting host party number resume host (party.goOn (resume (.ok (some pending))))

/-- A count is never refused and never fails. -/
theorem counting_of_pursue {host host' : Host} {party party' : Party} {number : Nat}
    {transport : Transport} {resume : Except StreamError (Option Nat) → Program}
    (opened : party.transport = some transport)
    (begins : transport.pendingCall? = some (.ring (.region number) (.start .measure)))
    (counts : Call.Counts number party.call)
    (pursued : party.pursue host Transport.pendingCall? (.ok none) settlePending resume =
      some (host', party')) :
    Counting host party number resume host' party' := by
  have onRing : ∀ call, party.call = some call →
      ∃ ringCall, call = .ring (.region number) ringCall := by
    intro call running
    obtain ⟨phase, isCall, -⟩ := counts call running
    exact ⟨_, isCall⟩
  have measured : ∀ {request outcome},
      party.call = some (.ring (.region number) ⟨request, .finished outcome⟩) →
        request = .measure ∧ ∃ pending, outcome = .measured pending := by
    intro request outcome running
    obtain ⟨phase, isCall, decided⟩ := counts _ running
    cases isCall
    exact ⟨rfl, decided outcome rfl⟩
  cases pursuit_of_pursue opened begins onRing pursued with
  | begin idle => exact .begin idle
  | advance call call' guarded guarded' running present stepped =>
      obtain ⟨phase, isCall, -⟩ := counts _ running
      cases isCall
      exact .advance phase call' guarded guarded' running present stepped
  | answer request outcome answer running settled =>
      obtain ⟨rfl, pending, rfl⟩ := measured running
      cases settled
      exact .answer pending running
  | crash request outcome text running settled =>
      obtain ⟨rfl, pending, rfl⟩ := measured running
      cases settled

/-- No transfer goes on without an endpoint. -/
theorem opened_of_pursue {Answer : Type} {host host' : Host} {party party' : Party}
    {begin? : Transport → Option Call} {idle : Answer}
    {settle : TransportOutcome → Settled Answer} {resume : Answer → Program}
    (pursued : party.pursue host begin? idle settle resume = some (host', party')) :
    ∃ transport, party.transport = some transport := by
  cases opened : party.transport with
  | none => simp [pursue, opened] at pursued
  | some transport => exact ⟨transport, rfl⟩

/-- A transfer does not touch the endpoint. -/
theorem transport_of_pursue {Answer : Type} {host host' : Host} {party party' : Party}
    {begin? : Transport → Option Call} {idle : Answer}
    {settle : TransportOutcome → Settled Answer} {resume : Answer → Program}
    (pursued : party.pursue host begin? idle settle resume = some (host', party')) :
    party'.transport = party.transport := by
  unfold pursue at pursued
  split at pursued
  · cases pursued
  · split at pursued <;> cases pursued <;> rfl
  · split at pursued
    · simp only [Option.map_eq_some_iff, Prod.mk.injEq] at pursued
      obtain ⟨_, -, -, rfl⟩ := pursued
      rfl
    · split at pursued <;> cases pursued <;> rfl

/-- A transfer can go on if its call can, or needs no step any more. -/
theorem isSome_pursue {Answer : Type} {host : Host} {party : Party} {transport : Transport}
    {begin? : Transport → Option Call} {idle : Answer}
    {settle : TransportOutcome → Settled Answer} {resume : Answer → Program}
    (opened : party.transport = some transport)
    (moves : ∀ call, party.call = some call → call.outcome? = none →
      ∃ later, call.step host = some later) :
    (party.pursue host begin? idle settle resume).isSome = true := by
  unfold pursue
  rw [opened]
  cases running : party.call with
  | none => cases begins : begin? transport <;> simp [begins]
  | some call =>
      cases ends : call.outcome? with
      | none =>
          obtain ⟨later, stepped⟩ := moves call running ends
          simp [ends, stepped]
      | some outcome => cases settled : settle outcome.onTransport <;> simp [ends, settled]

section Pursue

variable {Answer : Type} {host : Host} {party : Party} {location : Location}
  {transport : Transport} {begin? : Transport → Option Call} {idle : Answer}
  {settle : TransportOutcome → Settled Answer} {resume : Answer → Program}
  (opened : party.transport = some transport)

include opened

theorem pursue_begin {call : Call} (begins : begin? transport = some call)
    (isIdle : party.call = none) :
    party.pursue host begin? idle settle resume =
      some (host, { party with call := some call }) := by
  simp only [pursue, isIdle, opened, begins]

theorem pursue_advance {call call' : RingCall} {guarded guarded' : GuardedRing}
    (running : party.call = some (.ring location call))
    (present : host.guarded? location = some guarded)
    (stepped : call.step guarded = some (guarded', call')) :
    party.pursue host begin? idle settle resume =
      some (host.setGuarded location guarded',
        { party with call := some (.ring location call') }) := by
  have unfinished : (Call.ring location call).outcome? = none := by
    rw [Call.outcome?_ring]
    split
    · rename_i outcome finished
      simp [RingCall.step, finished] at stepped
    · rfl
  simp [pursue, running, opened, unfinished, Call.step, present, stepped]

end Pursue

/-! ## Turns -/

/-- How far a consumer has come. -/
def consumePhase? (party : Party) : Option ConsumePhase :=
  match party.program with
  | .consume consumption => some consumption.phase
  | _ => none

/-- The number of bytes after which a consumer stops. -/
def limit? (party : Party) : Option Nat :=
  match party.program with
  | .consume consumption => consumption.limit
  | _ => none

/-- The greatest number of bytes that a consumer asks for at once. -/
def chunk (party : Party) : Nat :=
  match party.program with
  | .consume consumption => consumption.chunk
  | _ => 0

variable {host : Host} {party : Party}

theorem alive_of_step {later : Host × Party} (stepped : party.step host = some later) :
    party.crash = none := by
  unfold step at stepped
  split at stepped
  · assumption
  · cases stepped

theorem step_consume {consumption : Consumption} {request : ProgramRequest}
    {resume : ProgramReply request → Consumption}
    (isProgram : party.program = .consume consumption) (alive : party.crash = none)
    (turn : consumption.turn = .ask request resume) :
    party.step host = party.serve host request fun reply => .consume (resume reply) := by
  simp only [step, alive, isProgram, Program.turn, turn, Turn.map]

theorem step_produce {production : Production} {request : ProgramRequest}
    {resume : ProgramReply request → Production}
    (isProgram : party.program = .produce production) (alive : party.crash = none)
    (turn : production.turn = .ask request resume) :
    party.step host = party.serve host request fun reply => .produce (resume reply) := by
  simp only [step, alive, isProgram, Program.turn, turn, Turn.map]

end Party

end BoundedStream
