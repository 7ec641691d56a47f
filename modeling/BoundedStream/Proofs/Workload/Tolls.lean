import BoundedStream.Proofs.Workload.Copies

/-!
# Tolls

Every call has a toll, which its steps pay down.  A broadcast raises the toll of whoever it
wakes, and it costs its caller more than that.  So the tolls of both sides together fall with
every step of a round, and only a waking out of turn raises them.
-/

namespace BoundedStream

namespace RingCall

/-- How many steps a call pays for until its answer is known, if the conditions were signalled
so often: its own ones, and those that its broadcast costs another call. -/
def toll (signals : Condition → Nat) (call : RingCall) : Nat :=
  match call.phase with
  | .arriving => 11
  | .locking | .relocking => 10
  | .testing => 9
  | .asleep seen => if signals call.request.condition = seen then 8 else 11
  | .copying => 8
  | .updating _ => 7
  | .notifying _ => 6
  | .unlocking _ => 2
  | .finished _ => 1

/-- Signals raise the toll of a sleeper alone. -/
theorem toll_le (signals signals' : Condition → Nat) (call : RingCall) :
    call.toll signals' ≤ call.toll signals + 3 := by
  obtain ⟨request, phase⟩ := call
  cases phase with
  | asleep seen =>
      simp only [toll]
      split <;> split <;> omega
  | _ => simp [toll]

namespace Step

variable {guarded guarded' : GuardedRing} {request : RingRequest} {phase phase' : RingPhase}
  (step : Step guarded request phase guarded' phase') (healthy : guarded.monitor.Healthy)

include step healthy

/-- Only a broadcast signals. -/
theorem signals_eq (quiet : ∀ outcome, phase ≠ .notifying outcome) :
    guarded'.monitor.signals = guarded.monitor.signals := by
  funext condition
  cases step with
  | lose phase wanting monitor error lost => exact (healthy.not_lost lost).elim
  | notify outcome => exact absurd rfl (quiet outcome)
  | _ => cases condition <;> rfl

theorem toll_lt_of_quiet (quiet : ∀ outcome, phase ≠ .notifying outcome) :
    toll guarded.monitor.signals ⟨request, phase'⟩ <
      toll guarded.monitor.signals ⟨request, phase⟩ := by
  cases step with
  | acquire phase wanting free => rcases wanting with rfl | rfl <;> simp [toll]
  | lose phase wanting monitor error lost => exact (healthy.not_lost lost).elim
  | wake seen changed => simp [toll, changed]
  | notify outcome => exact absurd rfl (quiet outcome)
  | _ => simp [toll]

/-- A call pays for its step, and for what the step costs others. -/
theorem toll_lt :
    ∃ cost, toll guarded'.monitor.signals ⟨request, phase'⟩ + cost <
        toll guarded.monitor.signals ⟨request, phase⟩ ∧
      ∀ other : RingCall,
        other.toll guarded'.monitor.signals ≤ other.toll guarded.monitor.signals + cost := by
  by_cases notifies : ∃ outcome, phase = .notifying outcome
  · obtain ⟨outcome, rfl⟩ := notifies
    cases step with
    | acquire phase wanting free => rcases wanting with same | same <;> cases same
    | lose phase wanting monitor error lost => exact (healthy.not_lost lost).elim
    | notify outcome => exact ⟨3, by simp [toll], toll_le _ _⟩
  · have quiet : ∀ outcome, phase ≠ .notifying outcome := not_exists.mp notifies
    rw [step.signals_eq healthy quiet]
    exact ⟨0, step.toll_lt_of_quiet healthy quiet, fun other => Nat.le_refl _⟩

end Step

end RingCall

/-- How often a condition of the ring of a region was signalled. -/
def Host.signals (host : Host) (number : Nat) (condition : Condition) : Nat :=
  (host.guarded? (.region number)).elim 0 fun guarded => guarded.monitor.signals condition

theorem Host.signals_eq {host : Host} {number : Nat} {guarded : GuardedRing}
    (present : host.guarded? (.region number) = some guarded) :
    host.signals number = guarded.monitor.signals := by
  funext condition
  rw [signals, present, Option.elim_some]

namespace Workload

/-- The toll of a side with so many copies to go. -/
def tollOf (signals : Condition → Nat) (call : Option RingCall) : Nat → Nat
  | 0 => 0
  | left + 1 => 12 * left + call.elim 12 (RingCall.toll signals)

theorem tollOf_none (signals : Condition → Nat) (left : Nat) :
    tollOf signals none left = 12 * left := by
  cases left <;> rfl

theorem tollOf_le {signals signals' : Condition → Nat} {cost : Nat}
    (charged : ∀ call : RingCall, call.toll signals' ≤ call.toll signals + cost)
    (call : Option RingCall) (left : Nat) :
    tollOf signals' call left ≤ tollOf signals call left + cost := by
  cases left with
  | zero => exact Nat.zero_le _
  | succ left =>
      cases call with
      | none => exact Nat.le_add_right _ _
      | some call =>
          have := charged call
          simp only [tollOf, Option.elim_some]
          omega

namespace Round

variable {payload : List UInt8} {number copies : Nat} {founding : Founding}
  {answered effected : Role → Nat} {round later : Round} {role : Role}

/-- The tolls of both sides. -/
def toll (round : Round) (number copies : Nat) (answered : Role → Nat) : Nat :=
  let toll role := tollOf (round.host.signals number) (round.calls role) (copies - answered role)
  toll .producer + toll .consumer

/-- What a side pays or comes to owe, beyond what it costs the other one, both pay or come to
owe together. -/
theorem toll_update_le {host : Host} {party : Party} {answered' : Role → Nat}
    (cost paid owed : Nat)
    (elsewhere : ∀ other, other ≠ role → answered' other = answered other)
    (charged : ∀ call : RingCall,
      call.toll (host.signals number) ≤ call.toll (round.host.signals number) + cost)
    (pays : tollOf (host.signals number) (Call.onRing? party.call) (copies - answered' role) +
        cost + paid ≤
      tollOf (round.host.signals number) (round.calls role) (copies - answered role) + owed) :
    (⟨host, Function.update round.parties role party⟩ : Round).toll number copies answered' +
      paid ≤ round.toll number copies answered + owed := by
  have others : ∀ other, other ≠ role →
      tollOf (host.signals number)
          (Function.update round.calls role (Call.onRing? party.call) other)
          (copies - answered' other) ≤
        tollOf (round.host.signals number) (round.calls other) (copies - answered other) +
          cost := fun other distinct => by
    rw [Function.update_of_ne distinct, elsewhere other distinct]
    exact tollOf_le charged _ _
  simp only [toll, calls_update]
  cases role with
  | producer =>
      have := others .consumer (by decide)
      rw [Function.update_self]
      omega
  | consumer =>
      have := others .producer (by decide)
      rw [Function.update_self]
      omega

namespace Sound

variable (sound : round.Sound payload copies number founding answered effected)

include sound

theorem healthy {guarded : GuardedRing}
    (present : round.host.guarded? (.region number) = some guarded) :
    guarded.monitor.Healthy := by
  obtain ⟨region, found, -, attended⟩ := sound.carries
  rw [Host.guarded?_region found] at present
  cases present
  exact attended.healthy

/-- A step keeps a round sound, and pays. -/
theorem step (nonempty : copies ≠ 0 → payload ≠ []) (fits : payload.length ≤ founding.capacity)
    (step : round.Step role later) :
    ∃ answered' effected', later.Sound payload copies number founding answered' effected' ∧
      later.toll number copies answered' + 1 ≤ round.toll number copies answered := by
  obtain ⟨host, party, stepped⟩ := step
  obtain ⟨left, more, move⟩ :=
    (sound.side role).move_of_step (fun more => nonempty (by omega)) stepped
  cases move with
  | begin idle fresh =>
      refine ⟨answered, effected, sound.begin more idle fresh,
        toll_update_le 0 1 0 (fun _ _ => rfl) (fun _ => Nat.le_refl _) ?_⟩
      have none : round.calls role = none := by simp only [calls, idle, Call.onRing?]
      rw [none, tollOf_none, more]
      simp only [Call.onRing?, tollOf, Option.elim_some, RingCall.toll, RingCall.start]
      omega
  | advance phase call guarded guarded' running present ringStep =>
      obtain ⟨effected', sound'⟩ :=
        sound.advance (nonempty (by omega)) fits running present ringStep
      obtain ⟨sameRequest, step⟩ := RingCall.step_cases ringStep
      obtain ⟨request', phase'⟩ := call
      obtain rfl : request' = request payload role := sameRequest
      obtain ⟨cost, pays, charged⟩ := step.toll_lt (sound.healthy present)
      dsimp only at pays
      have signals := Host.signals_eq present
      have signals' := Host.signals_eq (Host.guarded?_setGuarded_self present guarded')
      refine ⟨answered, effected', sound', toll_update_le cost 1 0 (fun _ _ => rfl) ?_ ?_⟩
      · rw [signals, signals']
        exact charged
      · rw [signals, signals', calls_eq running, more]
        simp only [Call.onRing?, tollOf, Option.elim_some]
        omega
  | answer running counted =>
      refine ⟨_, effected, sound.answer more running counted,
        toll_update_le 0 1 0 (fun other distinct => Function.update_of_ne distinct _ _)
          (fun _ => Nat.le_refl _) ?_⟩
      have rest : copies - (answered role + 1) = left := by omega
      have idle : ∀ signals, tollOf signals (Call.onRing? none) left = 12 * left :=
        fun signals => tollOf_none signals left
      rw [calls_eq running, Function.update_self, rest, more, Party.goOn, idle]
      exact Nat.le_refl _

/-- A waking out of turn keeps a round sound, and costs no more than two steps. -/
theorem rouse (rouse : round.Rouse role later) :
    later.Sound payload copies number founding answered effected ∧
      later.toll number copies answered ≤ round.toll number copies answered + 2 := by
  obtain ⟨location, request', seen, sleeps⟩ := rouse
  have standing := (sound.side role).standing
  rw [sleeps] at standing
  obtain ⟨phase, isCall⟩ := (sound.side role).onRing _ sleeps
  cases isCall
  refine ⟨⟨carries_update _ ?_, fun other => ?_, sound.within, sound.order⟩, ?_⟩
  · obtain ⟨region, found, accords, attended⟩ := sound.carries
    exact ⟨region, found, accords, attended.rouse (calls_eq sleeps)⟩
  · have undecided : RingPhase.relocking.decided? = (RingPhase.asleep seen).decided? := rfl
    simpa only [Function.update_eq_self] using
      sound.side_call round.host _ (standing.of_same undecided) other
  · refine toll_update_le 0 0 2 (fun _ _ => rfl) (fun _ => Nat.le_refl _) ?_
    rw [calls_eq sleeps]
    cases copies - answered role with
    | zero => exact Nat.zero_le _
    | succ left =>
        simp only [Call.onRing?, tollOf, Option.elim_some, RingCall.toll]
        split <;> omega

/-- However both sides take turns, the round stays sound, and the steps are paid for. -/
theorem runs (nonempty : copies ≠ 0 → payload ≠ []) (fits : payload.length ≤ founding.capacity)
    {steps wakings : Nat} (runs : round.Runs steps wakings later) :
    ∃ answered' effected', later.Sound payload copies number founding answered' effected' ∧
      steps + later.toll number copies answered' ≤
        round.toll number copies answered + 2 * wakings := by
  induction runs with
  | start => exact ⟨answered, effected, sound, by omega⟩
  | step _ step hypothesis =>
      obtain ⟨answered', effected', sound', few⟩ := hypothesis
      obtain ⟨answered'', effected'', sound'', pays⟩ := sound'.step nonempty fits step
      exact ⟨answered'', effected'', sound'', by omega⟩
  | rouse _ rouse hypothesis =>
      obtain ⟨answered', effected', sound', few⟩ := hypothesis
      obtain ⟨sound'', owes⟩ := sound'.rouse rouse
      exact ⟨answered', effected', sound'', by omega⟩

end Sound

end Round

end Workload

end BoundedStream
