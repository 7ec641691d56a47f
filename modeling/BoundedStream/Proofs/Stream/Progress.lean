import BoundedStream.Proofs.Ring.Progress
import BoundedStream.Proofs.Stream.Consumer
import BoundedStream.Proofs.Stream.Producer

/-!
# Progress of the parties of a stream

A party that holds the mutex comes closer to leaving it with each of its steps.  While the
other one does not hold it, a consumer comes closer to its next bytes as long as there are
any, and closer to its end once it is alone; and a producer, whose bytes were all taken,
comes closer to its next bytes, and once there are none to its end.
-/

namespace BoundedStream

/-! ## Calls on the way -/

namespace Call

/-- How many steps at most are left of a call that does not fall asleep. -/
def distance : Option Call → Nat
  | none => 8
  | some (.ring _ call) => call.phase.distance
  | some _ => 0

/-- The outcome of a call on a ring that has taken effect. -/
def verdict? (call : Option Call) : Option RingOutcome :=
  call.bind fun call => call.decided?.map Prod.snd

variable {location : Location} {request : RingRequest} {phase : RingPhase}

@[simp]
theorem verdict?_ring :
    verdict? (some (.ring location ⟨request, phase⟩)) = phase.decided? := by
  cases decided : phase.decided? <;> simp [verdict?, decided?, decided]

theorem Undecided.onRequest {number : Nat} {call : Option Call}
    (undecided : Undecided number request call) : ∀ other, call = some other →
      ∃ phase, other = .ring (.region number) ⟨request, phase⟩ := by
  intro other running
  obtain ⟨phase, isCall, -⟩ := undecided other running
  exact ⟨phase, isCall⟩

end Call

namespace Party

/-- How many steps at most a party still holds the mutex. -/
def grip (party : Party) : Nat :=
  (Call.onRing? party.call).elim 0 fun call => call.phase.grip

/-- A step has a gain, or brings a party closer to its next gain or its end. -/
def Nears (gain : Option Call → Option Call → List UInt8) (rank : Party → Nat) (host : Host)
    (party : Party) : Prop :=
  ∃ host' party', party.step host = some (host', party') ∧
    (gain party.call party'.call ≠ [] ∨ rank party' < rank party)

theorem nears_of_lt {gain : Option Call → Option Call → List UInt8} {rank : Party → Nat}
    {host host' : Host} {party party' : Party} (stepped : party.step host = some (host', party'))
    (closer : rank party' < rank party) : Nears gain rank host party :=
  ⟨host', party', stepped, .inr closer⟩

/-- A party waits for a transfer on the ring of a region, which it begins or goes on with. -/
structure Pursues (party : Party) (host : Host) (number : Nat) (request : RingRequest) :
    Prop where
  onRing : ∀ call, party.call = some call →
    ∃ phase, call = .ring (.region number) ⟨request, phase⟩
  begins : party.call = none → party.step host =
    some (host, { party with call := some (.ring (.region number) (.start request)) })
  goesOn : ∀ (call call' : RingCall) (guarded guarded' : GuardedRing),
    party.call = some (.ring (.region number) call) →
      host.guarded? (.region number) = some guarded →
        call.step guarded = some (guarded', call') →
          party.step host = some (host.setGuarded (.region number) guarded',
            { party with call := some (.ring (.region number) call') })

theorem pursues_of_step {Answer : Type} {host : Host} {party : Party} {number : Nat}
    {request : RingRequest} {transport : Transport} {begin? : Transport → Option Call}
    {idle : Answer} {settle : TransportOutcome → Settled Answer} {resume : Answer → Program}
    (isStep : party.step host = party.pursue host begin? idle settle resume)
    (opened : party.transport = some transport)
    (begins : begin? transport = some (.ring (.region number) (.start request)))
    (onRing : ∀ call, party.call = some call →
      ∃ phase, call = .ring (.region number) ⟨request, phase⟩) :
    party.Pursues host number request where
  onRing := onRing
  begins isIdle := by
    rw [isStep]
    exact pursue_begin opened begins isIdle
  goesOn call call' guarded guarded' running present stepped := by
    rw [isStep]
    exact pursue_advance opened running present stepped

namespace Pursues

variable {Caller : Type} {number : Nat} {founding : Founding} {handles : Nat}
  {calls : Caller → Option RingCall} {caller : Caller} {queue : List UInt8} {host : Host}
  {party : Party} {request : RingRequest} (pursues : party.Pursues host number request)
  (carries : host.Carries number founding handles calls queue)

include pursues carries

theorem release {call : RingCall} (running : Call.onRing? party.call = some call)
    (holds : call.phase.holds = true) :
    ∃ host' party', party.step host = some (host', party') ∧ party'.grip < party.grip := by
  obtain ⟨region, found, -, -⟩ := carries
  have present := Host.guarded?_region found
  have called : party.call = some (.ring (.region number) call) := by
    cases isCall : party.call with
    | none => simp [isCall, Call.onRing?] at running
    | some other =>
        obtain ⟨phase, rfl⟩ := pursues.onRing other isCall
        simp only [isCall, Call.onRing?, Option.some.injEq] at running
        rw [running]
  obtain ⟨request, phase⟩ := call
  obtain ⟨⟨guarded', call'⟩, stepped⟩ :=
    RingCall.exists_step_of_holds region.guarded request holds
  refine ⟨_, _, pursues.goesOn _ call' _ guarded' called present stepped, ?_⟩
  simp only [grip, called, Call.onRing?, Option.elim_some]
  exact (RingCall.step_cases stepped).2.grip_lt holds

variable [DecidableEq Caller]

/-- A party whose call the queue can answer can go on while nobody else holds the mutex. -/
theorem advance (isCalled : calls caller = Call.onRing? party.call) {phase : RingPhase}
    (running : party.call = some (.ring (.region number) ⟨request, phase⟩))
    (alone : ∀ other call, other ≠ caller → calls other = some call →
      call.phase.holds = false)
    (unfinished : ∀ outcome, phase ≠ .finished outcome)
    (served : phase.decided? = none → request.serve? founding.capacity queue ≠ none) :
    ∃ host' phase' queue', party.step host =
        some (host', { party with call := some (.ring (.region number) ⟨request, phase'⟩) }) ∧
      phase'.distance < phase.distance ∧
        GuardedRing.Took founding.capacity request phase phase' queue queue' := by
  have called : calls caller = some ⟨request, phase⟩ := by
    rw [isCalled, running]
    rfl
  obtain ⟨region, found, accords, attended⟩ := carries
  have capacity : region.guarded.ring.capacity = founding.capacity := accords.capacity_eq
  rw [← capacity] at served ⊢
  have present := Host.guarded?_region found
  obtain ⟨⟨guarded', call'⟩, stepped⟩ := attended.exists_step called alone unfinished served
  obtain ⟨sameRequest, queue', -, took⟩ := attended.step called stepped
  have step := (RingCall.step_cases stepped).2
  obtain ⟨request', phase'⟩ := call'
  cases sameRequest
  exact ⟨_, phase', queue', pursues.goesOn _ _ _ guarded' running present stepped,
    step.distance_lt fun signals => attended.stays_awake step served signals, took⟩

section Nears

variable {gain : Option Call → Option Call → List UInt8} {rank : Party → Nat}
  (isCalled : calls caller = Call.onRing? party.call)
  (alone : ∀ other call, other ≠ caller → calls other = some call → call.phase.holds = false)
  (goal : Option RingOutcome → Nat)
  (isRank : ∀ call, rank { party with call } = Call.distance call + goal (Call.verdict? call))

include isCalled alone isRank

/-- A transfer that the queue can answer either comes closer to its end, or takes effect
with an answer that is a gain in itself. -/
theorem nears (useful : RingOutcome → Prop)
    (gains : ∀ call outcome, useful outcome →
      Call.effect? party.call call = some (request, outcome) → gain party.call call ≠ [])
    (unfinished : ∀ location outcome,
      party.call ≠ some (.ring location ⟨request, .finished outcome⟩))
    (served : Call.verdict? party.call = none →
      request.serve? founding.capacity queue ≠ none)
    (answers : Call.verdict? party.call = none → ∀ outcome queue',
      request.answer? founding.capacity queue = some (outcome, queue') →
        useful outcome ∨ goal (some outcome) ≤ goal none) :
    Nears gain rank host party := by
  have isRank' : rank party = Call.distance party.call + goal (Call.verdict? party.call) :=
    isRank party.call
  cases running : party.call with
  | none =>
      refine nears_of_lt (pursues.begins running) ?_
      rw [isRank', isRank, running]
      exact Nat.add_lt_add_right (Nat.lt_succ_self 7) _
  | some call =>
      obtain ⟨phase, rfl⟩ := pursues.onRing call running
      rw [running, Call.verdict?_ring] at served answers isRank'
      obtain ⟨host', phase', queue', stepped, closer, took⟩ :=
        pursues.advance carries isCalled running alone
          (by rintro outcome rfl; exact unfinished _ _ running) served
      have nearer : Call.distance (some (.ring (.region number) ⟨request, phase'⟩)) <
          Call.distance (some (.ring (.region number) ⟨request, phase⟩)) := closer
      refine ⟨host', _, stepped, ?_⟩
      rw [isRank, isRank', Call.verdict?_ring]
      cases took with
      | nothing same =>
          rw [same]
          exact .inr (by omega)
      | effect outcome undecided decided answered =>
          rw [undecided, decided]
          refine (answers undecided outcome queue' answered).imp (fun use => ?_) fun less => ?_
          · refine gains _ outcome use ?_
            rw [running]
            exact Call.effect?_of_decided undecided decided
          · omega

/-- A transfer that has taken effect only has to finish. -/
theorem nears_of_decided {phase : RingPhase} {outcome : RingOutcome}
    (running : party.call = some (.ring (.region number) ⟨request, phase⟩))
    (decided : phase.decided? = some outcome)
    (finishes : phase = .finished outcome → Nears gain rank host party) :
    Nears gain rank host party := by
  by_cases finished : phase = .finished outcome
  · exact finishes finished
  have verdict : Call.verdict? party.call ≠ none := by simp [running, decided]
  refine pursues.nears carries isCalled alone goal isRank (fun _ => False)
    (fun _ _ useless => useless.elim) ?_ (fun open? => absurd open? verdict)
    fun open? => absurd open? verdict
  intro location other isFinished
  rw [running] at isFinished
  cases isFinished
  cases decided
  exact finished rfl

end Nears

end Pursues

end Party

/-! ## Consumers -/

/-- How far a consumer without a limit is from its next bytes while there are any, and from
its end when nobody else has a handle; a call in progress is not counted. -/
def ConsumePhase.rank (others : Nat) : ConsumePhase → Option RingOutcome → Nat
  | .creatingOutput, _ => 14
  | .allocating, _ | .writing _, _ | .resting _, _ => 13
  | .receiving _, none => 0
  | .receiving _, some _ => 22
  | .counting _, none => 12
  -- An old count of none leads to the end of a lonely consumer, and else to a new count.
  | .counting _, some (.measured 0) => if others = 0 then 12 else 23
  | .counting _, some _ => 9
  | .observing _, _ => if others = 0 then 3 else 14
  | .flushing, _ => 2
  | .leaving _, _ => 1
  | _, _ => 0

/-- How far a consumer is in its phase and in its call. -/
def Party.consumeRank (others : Nat) (party : Party) : Nat :=
  Call.distance party.call +
    party.consumePhase?.elim 0 fun phase => phase.rank others (Call.verdict? party.call)

namespace Consuming

variable {Caller : Type} [DecidableEq Caller] {config : Config} {limit : Option Nat}
  {chunk number : Nat} {founding : Founding} {others : Nat}
  {calls : Caller → Option RingCall} {caller : Caller} {queue : List UInt8}
  {gone late : Prop} {host host' : Host} {party party' : Party} {taken : List UInt8}

section

variable {summary : Summary} {transport : Transport} {output : List UInt8}
  {call : Option Call} (holds : transport.Holds number)

include holds

theorem pursues_of_counting {want : Nat}
    (onRing : ∀ other, call = some other →
      ∃ phase, other = .ring (.region number) ⟨.measure, phase⟩) :
    (Party.consuming config limit chunk summary (.counting want) (some transport) output
      call).Pursues host number .measure := by
  have isStep : (Party.consuming config limit chunk summary (.counting want)
      (some transport) output call).step host = _ := Party.step_consume rfl rfl rfl
  simp only [Party.serve] at isStep
  exact Party.pursues_of_step isStep rfl holds.pendingCall?_eq onRing

theorem pursues_of_receiving {length : Nat} (positive : length ≠ 0)
    (onRing : ∀ other, call = some other →
      ∃ phase, other = .ring (.region number) ⟨.consume length true, phase⟩) :
    (Party.consuming config limit chunk summary (.receiving length) (some transport) output
      call).Pursues host number (.consume length true) := by
  have isStep : (Party.consuming config limit chunk summary (.receiving length)
      (some transport) output call).step host = _ := Party.step_consume rfl rfl rfl
  simp only [Party.serve] at isStep
  exact Party.pursues_of_step isStep rfl (holds.consumeCall?_eq positive) onRing

end

section

variable (carries : host.Carries number founding (others + party.handles) calls queue)
  (isCalled : calls caller = Call.onRing? party.call)
  (alone : ∀ other call, other ≠ caller → calls other = some call → call.phase.holds = false)

include carries isCalled alone

variable {transport : Transport} {output : List UInt8} {call : Option Call}

private theorem nears_of_counting {want : Nat} (holds : transport.Holds number)
    (undecided : Call.Undecided number .measure call) (useful : others = 0 ∨ queue ≠ [])
    (isParty : party = .consuming config limit chunk (.update .empty taken) (.counting want)
      (some transport) output call) :
    party.Nears Call.took (Party.consumeRank others) host := by
  subst isParty
  refine (pursues_of_counting holds undecided.onRequest).nears carries isCalled alone
    ((ConsumePhase.counting want).rank others) (fun _ => rfl) (fun _ => False)
    (fun _ _ useless => useless.elim) ?_ ?_ ?_
  · intro location outcome
    exact undecided.not_finished
  · simp [RingRequest.serve?]
  · rintro - outcome queue' ⟨⟩
    right
    cases useful with
    | inl deserted =>
        subst deserted
        cases queue with
        | nil => exact Nat.le_refl 12
        | cons byte rest => exact Nat.le_of_lt (by decide : 9 < 12)
    | inr nonempty =>
        cases queue with
        | nil => exact absurd rfl nonempty
        | cons byte rest => exact (by decide : 9 ≤ 12)

private theorem nears_of_counted {want pending : Nat} {phase : RingPhase}
    (holds : transport.Holds number) (decided : phase.decided? = some (.measured pending))
    (isParty : party = .consuming config limit chunk (.update .empty taken) (.counting want)
      (some transport) output (some (.ring (.region number) ⟨.measure, phase⟩))) :
    party.Nears Call.took (Party.consumeRank others) host := by
  subst isParty
  refine (pursues_of_counting holds (by simp)).nears_of_decided carries isCalled alone
    ((ConsumePhase.counting want).rank others) (fun _ => rfl) rfl decided ?_
  rintro rfl
  cases pending with
  | zero =>
      refine Party.nears_of_lt rfl ?_
      change 8 + (if others = 0 then 3 else 14) < 0 + if others = 0 then 12 else 23
      split <;> omega
  | succ pending => exact Party.nears_of_lt rfl (by decide : 8 + 0 < 0 + 9)

private theorem nears_of_receiving {length : Nat} (holds : transport.Holds number)
    (positive : 1 ≤ length) (held : length ≤ queue.length)
    (undecided : Call.Undecided number (.consume length true) call)
    (isParty : party = .consuming config limit chunk (.update .empty taken)
      (.receiving length) (some transport) output call) :
    party.Nears Call.took (Party.consumeRank others) host := by
  subst isParty
  refine (pursues_of_receiving holds (Nat.ne_of_gt positive) undecided.onRequest).nears carries
    isCalled alone ((ConsumePhase.receiving length).rank others) (fun _ => rfl)
    (fun outcome => outcome.taken ≠ []) ?_ ?_ ?_ ?_
  · intro later outcome use effect
    rwa [Call.took, effect]
  · intro location outcome
    exact undecided.not_finished
  · simp [RingRequest.serve?, held]
  · intro _ outcome queue' answered
    left
    have admitted : (RingRequest.consume length true).rejection? founding.capacity = none :=
      RingRequest.rejection?_eq_none positive (Nat.le_trans held carries.length_le)
    rw [RingRequest.answer?, admitted] at answered
    simp only [RingRequest.serve?, if_pos held] at answered
    cases answered
    intro nothing
    have isFull := List.length_take_of_le held
    rw [RingOutcome.taken] at nothing
    rw [nothing, List.length_nil] at isFull
    omega

private theorem nears_of_received {length : Nat} {bytes : List UInt8} {phase : RingPhase}
    (holds : transport.Holds number) (nonempty : bytes ≠ []) (fits : bytes.length ≤ length)
    (decided : phase.decided? = some (.consumed bytes))
    (isParty : party = .consuming config limit chunk (.update .empty taken)
      (.receiving length) (some transport) output
      (some (.ring (.region number) ⟨.consume length true, phase⟩))) :
    party.Nears Call.took (Party.consumeRank others) host := by
  subst isParty
  have positive : length ≠ 0 := by
    have := List.length_pos_iff.mpr nonempty
    omega
  refine (pursues_of_receiving holds positive (by simp)).nears_of_decided carries isCalled alone
    ((ConsumePhase.receiving length).rank others) (fun _ => rfl) rfl decided ?_
  rintro rfl
  refine Party.nears_of_lt rfl ?_
  simp only [Consumption.received_ofList _ nonempty fits]
  exact (by decide : 8 + 13 < 0 + 22)

end

/-- While there are bytes in the ring, and when nobody else has a handle, a consumer without
a limit comes closer to its next bytes or to its end. -/
theorem nears (consuming : Consuming config none chunk number queue gone late party taken)
    (carries : host.Carries number founding (others + party.handles) calls queue)
    (isCalled : calls caller = Call.onRing? party.call)
    (alone : ∀ other call, other ≠ caller → calls other = some call →
      call.phase.holds = false) (few : others ≤ 1) (useful : others = 0 ∨ queue ≠ [])
    (moderate : chunk ≤ GuardedRing.greatestSize) (unfinished : party.hasEnded = false) :
    party.Nears Call.took (Party.consumeRank others) host := by
  cases consuming with
  | ended party taken consumed => cases consumed <;> cases unfinished
  | attached written phase transport call taken holds stands =>
      cases stands with
      | creatingOutput => exact Party.nears_of_lt rfl (by decide : 8 + 13 < 8 + 14)
      | allocating =>
          have stepped := (Party.step_consume rfl rfl rfl).trans
            (Party.serve_allocate moderate host (.consuming config none chunk
              (.update .empty taken) .allocating (some transport) taken none)
              fun _ => .consume (Consumption.begin ⟨config, none, none, chunk,
                .update .empty taken, .allocating⟩))
          exact Party.nears_of_lt stepped (by decide : 8 + 12 < 8 + 13)
      | counting want call positive undecided =>
          exact nears_of_counting carries isCalled alone holds undecided useful rfl
      | counted want pending phase positive decided held =>
          exact nears_of_counted carries isCalled alone holds decided rfl
      | observing want positive =>
          refine Party.nears_of_lt rfl ?_
          simp only [Party.references?, Party.consuming, Option.bind_some,
            Consumption.referencesCounted, showsEnd_references carries holds few]
          by_cases deserted : others = 0
          · subst deserted
            exact (by decide : 8 + 2 < 8 + 3)
          · simp only [deserted, decide_false]
            change 8 + 13 < 8 + if others = 0 then 3 else 14
            rw [if_neg deserted]
            decide
      | resting want positive => exact Party.nears_of_lt rfl (by decide : 8 + 12 < 8 + 13)
      | receiving length call positive held undecided =>
          exact nears_of_receiving carries isCalled alone holds positive held undecided rfl
      | received length bytes phase nonempty fits decided =>
          exact nears_of_received carries isCalled alone holds nonempty fits decided rfl
      | writing bytes => exact Party.nears_of_lt rfl (by decide : 8 + 12 < 8 + 13)
      | flushing ended => exact Party.nears_of_lt rfl (by decide : 8 + 1 < 8 + 2)
      | leaving ended => exact Party.nears_of_lt rfl (by decide : 8 + 0 < 8 + 1)

omit [DecidableEq Caller] in
theorem release (consuming : Consuming config limit chunk number queue gone late party taken)
    {handles : Nat} (carries : host.Carries number founding handles calls queue)
    {call : RingCall} (running : Call.onRing? party.call = some call)
    (inside : call.phase.holds = true) :
    ∃ host' party', party.step host = some (host', party') ∧ party'.grip < party.grip := by
  cases consuming with
  | ended party taken consumed => simp [consumed.call_eq, Call.onRing?] at running
  | attached written phase transport isCall taken holds stands =>
      cases stands with
      | counting want _ positive undecided =>
          exact (pursues_of_counting holds undecided.onRequest).release carries running inside
      | counted want pending phase positive decided held =>
          exact (pursues_of_counting holds (by simp)).release carries running inside
      | receiving length _ positive held undecided =>
          exact (pursues_of_receiving holds (Nat.ne_of_gt positive)
            undecided.onRequest).release carries running inside
      | received length bytes phase nonempty fits decided =>
          have positive : length ≠ 0 := by
            have := List.length_pos_iff.mpr nonempty
            omega
          exact (pursues_of_receiving holds positive (by simp)).release carries running inside
      | _ => cases running

end Consuming

/-! ## Producers -/

/-- How far a producer is from its next bytes, or from its end if there are none, once all
that it sent was taken and a consumer is there; a call in progress is not counted. -/
def ProducePhase.rank : ProducePhase → Option RingOutcome → Nat
  | .allocating _, _ => 13
  | .reading _, _ | .resting _, _ => 12
  | .sending .., none => 0
  | .sending .., some _ => 21
  | .draining _, none => 11
  | .draining _, some (.measured 0) => 11
  | .draining _, some _ => 22
  | .observing _ 0, _ => 2
  | .observing _ _, _ => 13
  | .leaving _, _ => 1
  | _, _ => 0

/-- How far a producer has come. -/
def Party.producePhase? (party : Party) : Option ProducePhase :=
  match party.program with
  | .produce production => some production.phase
  | _ => none

/-- How far a producer is in its phase and in its call. -/
def Party.produceRank (party : Party) : Nat :=
  Call.distance party.call +
    party.producePhase?.elim 0 fun phase => phase.rank (Call.verdict? party.call)

namespace Producing

variable {Caller : Type} [DecidableEq Caller] {config : Config} {chunk number : Nat}
  {founding : Founding} {calls : Caller → Option RingCall} {caller : Caller}
  {queue : List UInt8} {met : Prop} {host host' : Host} {party party' : Party}
  {sent rest : List UInt8}

section

variable {summary : Summary} {transport : Transport} {input : List UInt8}
  {call : Option Call} (holds : transport.Holds number)

include holds

theorem pursues_of_sending {size : Nat} {data : List UInt8} (nonempty : data ≠ [])
    (onRing : ∀ other, call = some other →
      ∃ phase, other = .ring (.region number) ⟨.produce data true, phase⟩) :
    (Party.producing config chunk summary (.sending size data data) (some transport) input
      call).Pursues host number (.produce data true) := by
  have isStep : (Party.producing config chunk summary (.sending size data data)
      (some transport) input call).step host = _ := Party.step_produce rfl rfl rfl
  simp only [Party.serve] at isStep
  exact Party.pursues_of_step isStep rfl (holds.produceCall?_eq nonempty) onRing

theorem pursues_of_draining {seen : Bool}
    (onRing : ∀ other, call = some other →
      ∃ phase, other = .ring (.region number) ⟨.measure, phase⟩) :
    (Party.producing config chunk summary (.draining seen) (some transport) input
      call).Pursues host number .measure := by
  have isStep : (Party.producing config chunk summary (.draining seen) (some transport) input
      call).step host = _ := Party.step_produce rfl rfl rfl
  simp only [Party.serve] at isStep
  exact Party.pursues_of_step isStep rfl holds.pendingCall?_eq onRing

end

section

variable (carries : host.Carries number founding (1 + party.handles) calls [])
  (isCalled : calls caller = Call.onRing? party.call)
  (alone : ∀ other call, other ≠ caller → calls other = some call → call.phase.holds = false)

include carries isCalled alone

variable {transport : Transport} {input : List UInt8} {call : Option Call}

private theorem nears_of_sending {size : Nat} {data : List UInt8}
    (holds : transport.Holds number) (small : size ≤ founding.capacity) (nonempty : data ≠ [])
    (fits : data.length ≤ size)
    (undecided : Call.Undecided number (.produce data true) call)
    (isParty : party = .producing config chunk (.update .empty sent) (.sending size data data)
      (some transport) input call) : party.Nears Call.put Party.produceRank host := by
  subst isParty
  have room : ([] : List UInt8).length + data.length ≤ founding.capacity := by
    simp only [List.length_nil]
    omega
  refine (pursues_of_sending holds nonempty undecided.onRequest).nears carries isCalled alone
    (ProducePhase.sending size data data).rank (fun _ => rfl)
    (fun outcome => (RingRequest.produce data true).acknowledged outcome ≠ []) ?_ ?_ ?_ ?_
  · intro later outcome use effect
    rwa [Call.put, effect]
  · intro location outcome
    exact undecided.not_finished
  · rw [RingRequest.serve?, if_pos room]
    simp
  · intro _ outcome queue' answered
    left
    have admitted : (RingRequest.produce data true).rejection? founding.capacity = none :=
      RingRequest.rejection?_eq_none (List.length_pos_iff.mpr nonempty) (Nat.le_trans fits small)
    rw [RingRequest.answer?, admitted] at answered
    simp only [RingRequest.serve?, if_pos room] at answered
    cases answered
    exact nonempty

private theorem nears_of_sent {size : Nat} {data : List UInt8} {phase : RingPhase}
    (holds : transport.Holds number) (nonempty : data ≠ [])
    (decided : phase.decided? = some (.produced data.length))
    (isParty : party = .producing config chunk (.update .empty sent) (.sending size data data)
      (some transport) input (some (.ring (.region number) ⟨.produce data true, phase⟩))) :
    party.Nears Call.put Party.produceRank host := by
  subst isParty
  refine (pursues_of_sending holds nonempty (by simp)).nears_of_decided carries isCalled alone
    (ProducePhase.sending size data data).rank (fun _ => rfl) rfl decided ?_
  rintro rfl
  refine Party.nears_of_lt rfl ?_
  simp only [Production.deliver_answered _ size nonempty]
  exact (by decide : 8 + 12 < 0 + 21)

private theorem nears_of_draining {seen : Bool} (holds : transport.Holds number)
    (undecided : Call.Undecided number .measure call)
    (isParty : party = .producing config chunk (.update .empty sent) (.draining seen)
      (some transport) [] call) : party.Nears Call.put Party.produceRank host := by
  subst isParty
  refine (pursues_of_draining holds undecided.onRequest).nears carries isCalled alone
    (ProducePhase.draining seen).rank (fun _ => rfl) (fun _ => False)
    (fun _ _ useless => useless.elim) ?_ ?_ ?_
  · intro location outcome
    exact undecided.not_finished
  · simp [RingRequest.serve?]
  · rintro - outcome queue' ⟨⟩
    exact .inr (Nat.le_refl 11)

private theorem nears_of_drained {seen : Bool} {phase : RingPhase} {pending : Nat}
    (holds : transport.Holds number) (decided : phase.decided? = some (.measured pending))
    (isParty : party = .producing config chunk (.update .empty sent) (.draining seen)
      (some transport) [] (some (.ring (.region number) ⟨.measure, phase⟩))) :
    party.Nears Call.put Party.produceRank host := by
  subst isParty
  refine (pursues_of_draining holds (by simp)).nears_of_decided carries isCalled alone
    (ProducePhase.draining seen).rank (fun _ => rfl) rfl decided ?_
  rintro rfl
  cases pending with
  | zero => exact Party.nears_of_lt rfl (by decide : 8 + 2 < 0 + 11)
  | succ pending => exact Party.nears_of_lt rfl (by decide : 8 + 13 < 0 + 22)

end

/-- While the ring is empty and a consumer is there, a producer comes closer to its next
bytes, or to its end if there are none. -/
theorem nears
    (producing : Producing config chunk number founding.capacity [] met party sent rest)
    (carries : host.Carries number founding (1 + party.handles) calls [])
    (isCalled : calls caller = Call.onRing? party.call)
    (alone : ∀ other call, other ≠ caller → calls other = some call →
      call.phase.holds = false) (unfinished : party.hasEnded = false) :
    party.Nears Call.put Party.produceRank host := by
  cases producing with
  | left sent peer empty => cases unfinished
  | attached acknowledged phase transport input call sent rest holds stands =>
      cases stands with
      | allocating size input positive small moderate =>
          have stepped := (Party.step_produce rfl rfl rfl).trans
            (Party.serve_allocate moderate host (.producing config chunk (.update .empty sent)
              (.allocating size) (some transport) rest none)
              fun _ => .produce ⟨config, none, chunk, .update .empty sent, .reading size⟩)
          exact Party.nears_of_lt stepped (by decide : 8 + 12 < 8 + 13)
      | reading size input positive small =>
          refine Party.nears_of_lt rfl ?_
          simp only [Party.producing]
          generalize Chunk.ofList size rest = piece
          obtain ⟨data, fits⟩ := piece
          cases data with
          | nil => exact (by decide : 8 + 11 < 8 + 12)
          | cons byte rest => exact (by decide : 8 + 0 < 8 + 12)
      | sending size data input rest call positive small nonempty fits whole undecided =>
          exact nears_of_sending carries isCalled alone holds small nonempty fits undecided rfl
      | sent size data input phase positive small nonempty decided =>
          exact nears_of_sent carries isCalled alone holds nonempty decided rfl
      | draining seen call seenPeer undecided =>
          exact nears_of_draining carries isCalled alone holds undecided rfl
      | drained seen phase pending seenPeer decided empty =>
          exact nears_of_drained carries isCalled alone holds decided rfl
      | observing seen pending seenPeer empty =>
          refine Party.nears_of_lt rfl ?_
          simp only [Party.references?, Party.producing, Option.bind_some,
            Production.referencesCounted, showsPeer_references carries holds (Nat.le_refl 1),
            Nat.zero_lt_one, decide_true, Bool.or_true, and_true]
          cases pending with
          | zero => exact (by decide : 8 + 1 < 8 + 2)
          | succ pending => exact (by decide : 8 + 12 < 8 + 13)
      | resting seen seenPeer => exact Party.nears_of_lt rfl (by decide : 8 + 11 < 8 + 12)
      | leaving seenPeer empty => exact Party.nears_of_lt rfl (by decide : 8 + 0 < 8 + 1)

omit [DecidableEq Caller] in
theorem release {capacity : Nat}
    (producing : Producing config chunk number capacity queue met party sent rest)
    {handles : Nat} (carries : host.Carries number founding handles calls queue)
    {call : RingCall} (running : Call.onRing? party.call = some call)
    (inside : call.phase.holds = true) :
    ∃ host' party', party.step host = some (host', party') ∧ party'.grip < party.grip := by
  cases producing with
  | left sent peer empty => cases running
  | attached acknowledged phase transport input isCall sent rest holds stands =>
      cases stands with
      | sending size data input rest _ positive small nonempty fits whole undecided =>
          exact (pursues_of_sending holds nonempty
            undecided.onRequest).release carries running inside
      | sent size data input phase positive small nonempty decided =>
          exact (pursues_of_sending holds nonempty (by simp)).release carries running inside
      | draining seen _ seenPeer undecided =>
          exact (pursues_of_draining holds undecided.onRequest).release carries running inside
      | drained seen phase pending seenPeer decided empty =>
          exact (pursues_of_draining holds (by simp)).release carries running inside
      | _ => cases running

end Producing

end BoundedStream
