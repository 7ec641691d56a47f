import BoundedStream.Proofs.Host.Holding
import BoundedStream.Proofs.Party.Replies

/-!
# The outlet of a stream

A producer of a stream asks its ring only for transfers that the ring can serve, whatever
others do with the ring meanwhile, and even if the ring fails.  It learns the capacity when
its endpoint is opened, and no transfer of it ends in a crash.
-/

namespace BoundedStream

/-! ## Calls that a ring accepts -/

def RingPhase.outcome? : RingPhase → Option RingOutcome
  | updating outcome | notifying outcome | unlocking outcome | finished outcome => some outcome
  | arriving | locking | testing | asleep _ | relocking | copying => none

/-- A call that a ring of the capacity accepts, and has not rejected. -/
structure RingCall.Accepted (capacity : Nat) (call : RingCall) : Prop where
  admitted : call.request.rejection? capacity = none
  unrejected : ∀ text, call.phase.outcome? ≠ some (.rejected text)

theorem RingCall.Accepted.step {guarded guarded' : GuardedRing} {call call' : RingCall}
    (accepted : call.Accepted guarded.ring.capacity)
    (stepped : call.step guarded = some (guarded', call')) :
    call'.request = call.request ∧ call'.Accepted guarded.ring.capacity := by
  obtain ⟨sameRequest, step⟩ := RingCall.step_cases stepped
  obtain ⟨request, phase⟩ := call
  obtain ⟨_, phase'⟩ := call'
  cases sameRequest
  obtain ⟨admitted, unrejected⟩ := accepted
  refine ⟨rfl, admitted, ?_⟩
  cases step with
  | reject text rejected =>
      rw [admitted] at rejected
      cases rejected
  | copy => cases request <;> simp [RingPhase.outcome?, RingRequest.copy]
  | update outcome => exact unrejected
  | notify outcome => exact unrejected
  | unlock outcome => exact unrejected
  | _ => simp [RingPhase.outcome?]

namespace Party

/-- The transfer in progress is on the ring of a region, and the ring accepts it. -/
def Undertakes (party : Party) (number capacity : Nat) (kind : RingRequest → Prop) : Prop :=
  ∀ call, party.call = some call → ∃ ringCall, call = .ring (.region number) ringCall ∧
    ringCall.Accepted capacity ∧ kind ringCall.request

/-- A transfer that the ring accepts goes on, or is answered; it never ends in a crash. -/
theorem Pursuit.accepted {Answer : Type} {host host' : Host} {party party' : Party}
    {number capacity : Nat} {request : RingRequest}
    {settle : TransportOutcome → Settled Answer} {resume : Answer → Program}
    {kind : RingRequest → Prop}
    (pursuit : Pursuit host party (.region number) request settle resume host' party')
    (accepted : (RingCall.start request).Accepted capacity) (isKind : kind request)
    (undertakes : party.Undertakes number capacity kind)
    (fits : ∀ guarded, host.guarded? (.region number) = some guarded →
      guarded.ring.capacity = capacity)
    (settles : ∀ outcome text, settle (Outcome.ring outcome).onTransport = .crash text →
      outcome = .rejected text) :
    party'.crash = party.crash ∧ party'.transport = party.transport ∧
      party'.Undertakes number capacity kind ∧
      (party'.program = party.program ∨ ∃ answer, party'.program = resume answer) := by
  cases pursuit with
  | begin idle =>
      refine ⟨rfl, rfl, ?_, .inl rfl⟩
      rintro call ⟨⟩
      exact ⟨_, rfl, accepted, isKind⟩
  | advance call call' guarded guarded' running present stepped =>
      obtain ⟨_, isCall, isAccepted, wasKind⟩ := undertakes _ running
      cases isCall
      rw [← fits guarded present] at isAccepted
      obtain ⟨sameRequest, stillAccepted⟩ := isAccepted.step stepped
      rw [fits guarded present] at stillAccepted
      refine ⟨rfl, rfl, ?_, .inl rfl⟩
      rintro later ⟨⟩
      exact ⟨call', rfl, stillAccepted, by rwa [sameRequest]⟩
  | answer request' outcome answer running settled =>
      refine ⟨rfl, rfl, ?_, .inr ⟨answer, rfl⟩⟩
      rintro later ⟨⟩
  | crash request' outcome text running settled =>
      obtain ⟨_, isCall, isAccepted, -⟩ := undertakes _ running
      cases isCall
      have isOutcome := settles outcome text settled
      exact absurd (congrArg some isOutcome) (isAccepted.unrejected text)

end Party

/-! ## Producers -/

/-- What a producer of a stream asks a ring of the capacity for. -/
def RingRequest.Supplies (capacity : Nat) : RingRequest → Prop
  | produce data _ => 1 ≤ data.length ∧ data.length ≤ max 1 (capacity / 2)
  | consume _ _ => False
  | measure => True

structure Outlet where
  host : Host
  producer : Party

namespace Outlet

/-- A region has a ring of the capacity, if it is there. -/
def Fits (host : Host) (number capacity : Nat) : Prop :=
  ∀ guarded, host.guarded? (.region number) = some guarded → guarded.ring.capacity = capacity

/-- The producer takes a step, and the endpoint that it opens is one of a region; or whatever
else happens on the host. -/
inductive Step (number capacity : Nat) : Outlet → Outlet → Prop
  | produce {outlet : Outlet} (host : Host) (producer : Party)
      (stepped : outlet.producer.step outlet.host = some (host, producer))
      (fits : Fits host number capacity)
      (joins : ∀ transport, producer.transport = some transport →
        transport.Holds number ∧ (host.guarded? (.region number)).isSome = true) :
      Step number capacity outlet ⟨host, producer⟩
  | change {outlet : Outlet} (host : Host) (fits : Fits host number capacity) :
      Step number capacity outlet { outlet with host }

/-- A producer that has opened its endpoint has slices to send that the ring accepts. -/
structure Sound (outlet : Outlet) (number capacity : Nat) : Prop where
  fits : Fits outlet.host number capacity
  producer : ∃ production, outlet.producer.program = .produce production ∧
    (production.phase = .openingInput ∨ production.phase = .connecting ∨
      production.phase.Slices (max 1 (capacity / 2)))
  sturdy : outlet.producer.Sturdy
  joined : ∀ transport, outlet.producer.transport = some transport → transport.Holds number
  undertakes : outlet.producer.Undertakes number capacity (RingRequest.Supplies capacity)

variable {outlet later : Outlet} {number capacity : Nat}

theorem accepted_of_supplies (positive : 1 ≤ capacity) {request : RingRequest}
    (supplies : request.Supplies capacity) : (RingCall.start request).Accepted capacity := by
  refine ⟨?_, by simp [RingCall.start, RingPhase.outcome?]⟩
  cases request with
  | produce data wait =>
      obtain ⟨some, few⟩ := supplies
      refine RingRequest.rejection?_eq_none some ?_
      simp only [RingCall.start, RingRequest.length]
      omega
  | consume length wait => exact supplies.elim
  | measure => rfl

theorem capacity?_eq {host : Host} {transport : Transport} (fits : Fits host number capacity)
    (holds : transport.Holds number)
    (present : (host.guarded? (.region number)).isSome = true) :
    transport.capacity? host = some capacity := by
  obtain ⟨guarded, isRing⟩ := Option.isSome_iff_exists.mp present
  have sameCapacity := fits guarded isRing
  simp only [Host.guarded?, Option.map_eq_some_iff] at isRing
  obtain ⟨region, found, rfl⟩ := isRing
  rw [holds.capacity?_eq found]
  exact congrArg some sameCapacity

private theorem Sound.pursue (sound : outlet.Sound number capacity) (positive : 1 ≤ capacity)
    (alive : outlet.producer.crash = none) {production : Production} (isProgram : outlet.producer.program = .produce production)
    (slices : production.phase.Slices (max 1 (capacity / 2)))
    {Answer : Type} {begin? : Transport → Option Call} {idle : Answer} {request : RingRequest}
    {settle : TransportOutcome → Party.Settled Answer} {resume : Answer → Production}
    (begins : ∀ transport : Transport, transport.Holds number →
      begin? transport = some (.ring (.region number) (.start request)))
    (supplies : request.Supplies capacity)
    (settles : ∀ outcome text, settle (Outcome.ring outcome).onTransport = .crash text →
      outcome = .rejected text)
    (resumes : ∀ answer, (resume answer).phase.Slices (max 1 (capacity / 2)))
    {host : Host} {producer : Party} (fits : Fits host number capacity)
    (pursued : outlet.producer.pursue outlet.host begin? idle settle
      (fun answer => .produce (resume answer)) = some (host, producer)) :
    (⟨host, producer⟩ : Outlet).Sound number capacity := by
  obtain ⟨transport, opened⟩ := Party.opened_of_pursue pursued
  have onRing : ∀ call, outlet.producer.call = some call →
      ∃ ringCall, call = .ring (.region number) ringCall := by
    intro call running
    obtain ⟨ringCall, isCall, -⟩ := sound.undertakes call running
    exact ⟨ringCall, isCall⟩
  have pursuit := Party.pursuit_of_pursue opened
    (begins transport (sound.joined transport opened)) onRing pursued
  obtain ⟨sameCrash, sameTransport, undertakes, isProgram'⟩ := pursuit.accepted
    (accepted_of_supplies positive supplies) supplies sound.undertakes sound.fits settles
  refine ⟨fits, ?_, Party.sturdy_of_alive (sameCrash.trans alive), ?_, undertakes⟩
  · rcases isProgram' with same | ⟨answer, isNext⟩
    · exact ⟨production, same.trans isProgram, .inr (.inr slices)⟩
    · exact ⟨resume answer, isNext, .inr (.inr (resumes answer))⟩
  · intro other has
    rw [sameTransport] at has
    exact sound.joined other has

/-- A producer that is answered at once has slices to send, or has not opened its endpoint. -/
private theorem sound_of_reply (alive : outlet.producer.crash = none) {production : Production}
    (isProgram : outlet.producer.program = .produce production)
    (paced : production.phase = .openingInput ∨ production.phase = .connecting ∨
      production.phase.Slices (max 1 (capacity / 2)))
    {request : ProgramRequest} {resume : ProgramReply request → Production}
    (asks : production.turn = .ask request resume) (quick : request.isTransfer = false)
    {host : Host} {producer : Party} (fits : Fits host number capacity)
    (joins : ∀ transport, producer.transport = some transport →
      transport.Holds number ∧ (host.guarded? (.region number)).isSome = true)
    (served : outlet.producer.serve outlet.host request (fun reply => .produce (resume reply)) =
      some (host, producer)) :
    (⟨host, producer⟩ : Outlet).Sound number capacity := by
  have joined := fun transport has => (joins transport has).1
  have turn : outlet.producer.program.turn =
      .ask request fun reply => .produce (resume reply) := by
    simp only [isProgram, Program.turn, asks, Turn.map]
  rcases Party.replied_of_serve quick served with replied | collapses
  swap
  · refine ⟨fits, ⟨production, collapses.program_eq.trans isProgram, paced⟩,
      collapses.sturdy turn, joined, ?_⟩
    intro call running
    rw [collapses.call_eq] at running
    cases running
  refine ⟨fits, ?_, Party.sturdy_of_alive (replied.crash_eq.trans alive), joined, ?_⟩
  · obtain ⟨reply, isNext⟩ := replied.program
    rcases paced with opens | connects | slices
    · simp only [Production.turn, opens] at asks
      cases asks
      cases reply with
      | ok _ => exact ⟨_, isNext, .inr (.inl rfl)⟩
      | error error => exact ⟨_, isNext, .inr (.inr trivial)⟩
    · simp only [Production.turn, connects] at asks
      cases asks
      obtain ⟨-, ⟨error, rfl⟩ | ⟨transport, rfl⟩ | collapses⟩ := Party.opened_of_connect served
      · exact ⟨_, rfl, .inr (.inr trivial)⟩
      · -- The chunks are chosen for the ring that was opened.
        obtain ⟨holds, present⟩ := joins transport rfl
        have told := capacity?_eq fits holds present
        refine ⟨_, rfl, .inr (.inr ?_)⟩
        rw [told]
        exact Production.chunkFor_le production.chunk capacity
      · exact ⟨_, collapses.program_eq.trans isProgram, .inr (.inl connects)⟩
    · exact ⟨_, isNext, .inr (.inr
        (Production.slices_goesOn (.answer request resume asks reply) slices))⟩
  · intro call running
    rw [replied.idle] at running
    cases running

theorem Sound.step (sound : outlet.Sound number capacity) (positive : 1 ≤ capacity)
    (step : Step number capacity outlet later) : later.Sound number capacity := by
  cases step with
  | change host fits =>
      exact ⟨fits, sound.producer, sound.sturdy, sound.joined, sound.undertakes⟩
  | produce host producer stepped fits joins =>
      have alive := Party.alive_of_step stepped
      obtain ⟨production, isProgram, paced⟩ := sound.producer
      cases asks : production.turn with
      | finished result =>
          simp [Party.step, alive, isProgram, Program.turn, asks, Turn.map] at stepped
      | ask request resume =>
          rw [Party.step_produce isProgram alive asks] at stepped
          by_cases sends : ∃ chunk data rest, production.phase = .sending chunk data rest
          · obtain ⟨chunk, data, rest, isPhase⟩ := sends
            have slices : production.phase.Slices (max 1 (capacity / 2)) := by
              simpa [isPhase] using paced
            have goes := fun reply => Production.slices_goesOn
              (.answer request resume asks reply) slices
            rw [isPhase] at slices
            simp only [Production.turn, isPhase] at asks
            cases asks
            have nonempty : rest ≠ [] := List.length_pos_iff.mp slices.2.1
            exact sound.pursue positive alive isProgram (by rw [isPhase]; exact slices)
              (fun transport holds => holds.produceCall?_eq nonempty) slices.2
              (by rintro (_ | _ | _ | _ | _) text settled <;> cases settled; rfl) goes fits
              stepped
          by_cases counts : ∃ peerSeen, production.phase = .draining peerSeen
          · obtain ⟨peerSeen, isPhase⟩ := counts
            have slices : production.phase.Slices (max 1 (capacity / 2)) := by
              simpa [isPhase] using paced
            have goes := fun reply => Production.slices_goesOn
              (.answer request resume asks reply) slices
            simp only [Production.turn, isPhase] at asks
            cases asks
            exact sound.pursue positive alive isProgram slices
              (fun transport holds => holds.pendingCall?_eq) trivial
              (by rintro (_ | _ | _ | _ | _) text settled <;> cases settled; rfl) goes fits
              stepped
          push Not at sends counts
          exact sound_of_reply alive isProgram paced asks (Production.quick_of_asks asks sends counts)
            fits joins stepped

/-- There are buffers for the slices of a ring that is itself no greater than any object. -/
theorem Sound.alive (sound : outlet.Sound number capacity)
    (moderate : capacity ≤ GuardedRing.greatestSize) : outlet.producer.crash = none := by
  obtain ⟨production, isProgram, paced⟩ := sound.producer
  have asked : outlet.producer.program.turn.request? = production.turn.request? := by
    rw [isProgram, Program.turn]
    cases production.turn <;> rfl
  by_contra crashed
  obtain ⟨text, crashed⟩ := Option.ne_none_iff_exists'.mp crashed
  obtain ⟨request, asks, wrecks⟩ := sound.sturdy text crashed
  rw [asked] at asks
  rcases paced with opens | connects | slices
  · simp only [Production.turn, opens] at asks
    cases asks
    cases wrecks
  · simp only [Production.turn, connects] at asks
    cases asks
    cases wrecks
  · cases wrecks with
    | endpoint config => exact Production.Slices.not_connect slices asks
    | buffer length great =>
        have small := Production.Slices.length_of_allocate slices asks
        have positive : 1 ≤ GuardedRing.greatestSize := by decide
        omega

theorem Sound.steps (sound : outlet.Sound number capacity) (positive : 1 ≤ capacity)
    (goesOn : Relation.ReflTransGen (Step number capacity) outlet later) :
    later.Sound number capacity := by
  induction goesOn with
  | refl => exact sound
  | tail _ step hypothesis => exact hypothesis.step positive step

theorem sound_produce {host : Host} (fits : Fits host number capacity) (config : Config)
    (input : Option String) {chunk : Nat} (some : 1 ≤ chunk) (standardInput : List UInt8) :
    (⟨host, .produce config input chunk standardInput⟩ : Outlet).Sound number capacity := by
  have nonzero : chunk ≠ 0 := Nat.ne_of_gt some
  refine ⟨fits, ⟨_, rfl, .inl ?_⟩, Party.sturdy_of_alive rfl, ?_, ?_⟩
  · simp [Production.start, nonzero]
  · rintro transport ⟨⟩
  · rintro call ⟨⟩

end Outlet

end BoundedStream
