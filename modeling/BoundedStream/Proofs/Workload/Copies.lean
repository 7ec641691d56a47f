import BoundedStream.Proofs.Workload.Round

/-!
# Whole copies

At every moment of a round the ring holds whole copies of the payload: as many as were sent
and not received yet.  So the fill level is a multiple of the length of the payload, whatever
the capacity is and wherever the cursors stand.
-/

namespace BoundedStream

namespace Workload

/-- So many copies of a payload, one after another. -/
def copiesOf (payload : List UInt8) (count : Nat) : List UInt8 :=
  (List.replicate count payload).flatten

section Copies

variable {payload : List UInt8} {count : Nat}

@[simp]
theorem copiesOf_zero (payload : List UInt8) : copiesOf payload 0 = [] := rfl

theorem copiesOf_succ (payload : List UInt8) (count : Nat) :
    copiesOf payload (count + 1) = payload ++ copiesOf payload count := rfl

theorem copiesOf_succ' (payload : List UInt8) (count : Nat) :
    copiesOf payload (count + 1) = copiesOf payload count ++ payload := by
  simp [copiesOf, List.replicate_succ']

@[simp]
theorem length_copiesOf (payload : List UInt8) (count : Nat) :
    (copiesOf payload count).length = payload.length * count := by
  simp [copiesOf, Nat.mul_comm]

theorem length_le_copiesOf_iff (nonempty : payload ≠ []) :
    payload.length ≤ (copiesOf payload count).length ↔ 0 < count := by
  have positive : 0 < payload.length := List.length_pos_iff.mpr nonempty
  rw [length_copiesOf]
  refine ⟨fun enough => Nat.pos_of_ne_zero ?_, Nat.le_mul_of_pos_right _⟩
  rintro rfl
  omega

end Copies

/-! ## What the calls of the sides do -/

variable {payload : List UInt8} {number capacity : Nat} {role : Role}

theorem admitted_request (nonempty : payload ≠ []) (fits : payload.length ≤ capacity)
    (role : Role) : (request payload role).rejection? capacity = none := by
  have positive : 1 ≤ payload.length := List.length_pos_iff.mpr nonempty
  cases role <;> exact RingRequest.rejection?_eq_none positive fits

/-- What a side does to the number of copies that the ring holds. -/
inductive Shift : Role → Nat → Nat → Prop
  | put (count : Nat) : Shift .producer count (count + 1)
  | take (count : Nat) : Shift .consumer (count + 1) count

theorem Shift.counted {effected : Role → Nat} {count : Nat}
    (order : effected .consumer ≤ effected .producer)
    (shift : Shift role (effected .producer - effected .consumer) count) :
    Function.update effected role (effected role + 1) .producer -
        Function.update effected role (effected role + 1) .consumer = count ∧
      Function.update effected role (effected role + 1) .consumer ≤
        Function.update effected role (effected role + 1) .producer := by
  generalize held : effected .producer - effected .consumer = before at shift
  cases shift with
  | put count =>
      rw [Function.update_self, Function.update_of_ne (by decide)]
      omega
  | take count =>
      rw [Function.update_self, Function.update_of_ne (by decide)]
      omega

/-- A step of a call does nothing to the queue, or puts one copy in, or takes one out. -/
theorem took_request (nonempty : payload ≠ []) (fits : payload.length ≤ capacity)
    {before after : RingPhase} {count : Nat} {queue : List UInt8}
    (took : GuardedRing.Took capacity (request payload role) before after
      (copiesOf payload count) queue) :
    queue = copiesOf payload count ∧ after.decided? = before.decided? ∨
      before.decided? = none ∧ after.decided? = some (reply payload role) ∧
        ∃ count', Shift role count count' ∧ queue = copiesOf payload count' := by
  have admitted := admitted_request nonempty fits role
  cases role with
  | producer =>
      rcases took.of_produce admitted with same | ⟨undecided, decided, isQueue⟩
      · exact .inl same
      · refine .inr ⟨undecided, decided, count + 1, .put count, ?_⟩
        rw [isQueue, copiesOf_succ']
  | consumer =>
      rcases took.of_consume admitted with same | ⟨undecided, decided, enough, isQueue⟩
      · exact .inl same
      · rw [length_le_copiesOf_iff nonempty] at enough
        obtain ⟨rest, rfl⟩ : ∃ rest, count = rest + 1 := ⟨count - 1, by omega⟩
        rw [copiesOf_succ] at decided isQueue
        rw [List.take_left] at decided
        rw [List.drop_left] at isQueue
        exact .inr ⟨undecided, decided, rest, .take rest, isQueue⟩

section Standing

variable {answered left effected : Nat} {before after : RingPhase}
  (standing : Standing payload number role answered left
    (some (.ring (.region number) ⟨request payload role, before⟩)) effected)

include standing

theorem Standing.of_same (same : after.decided? = before.decided?) :
    Standing payload number role answered left
      (some (.ring (.region number) ⟨request payload role, after⟩)) effected := by
  cases standing with
  | pending left _ undecided =>
      obtain ⟨phase, isCall, undecided⟩ := undecided _ rfl
      cases isCall
      exact .pending left _ (Call.undecided_of_same same undecided)
  | effected left phase decided => exact .effected left after (same.trans decided)

theorem Standing.of_decided (undecided : before.decided? = none)
    (decided : after.decided? = some (reply payload role)) :
    Standing payload number role answered left
        (some (.ring (.region number) ⟨request payload role, after⟩)) (answered + 1) ∧
      effected = answered := by
  cases standing with
  | pending left _ _ => exact ⟨.effected left after decided, rfl⟩
  | effected left phase decided' =>
      rw [undecided] at decided'
      cases decided'

end Standing

/-! ## Rounds over a ring -/

namespace Round

variable {founding : Founding} {copies : Nat} {answered effected : Role → Nat}
  {round later : Round}

/-- The calls of the sides. -/
def calls (round : Round) (role : Role) : Option RingCall :=
  Call.onRing? (round.parties role).call

/-- What holds at every moment of a round over the ring of a region, after the answers to some
calls of each side and after some of its calls took effect. -/
structure Sound (round : Round) (payload : List UInt8) (copies number : Nat)
    (founding : Founding) (answered effected : Role → Nat) : Prop where
  carries : round.host.Carries number founding 2 round.calls
    (copiesOf payload (effected .producer - effected .consumer))
  side : ∀ role, Side (round.parties role) payload number role (answered role)
    (copies - answered role) (effected role)
  within : ∀ role, answered role ≤ copies
  order : effected .consumer ≤ effected .producer

theorem calls_update (round : Round) (host : Host) (role : Role) (party : Party) :
    (⟨host, Function.update round.parties role party⟩ : Round).calls =
      Function.update round.calls role (Call.onRing? party.call) := by
  funext other
  by_cases same : other = role
  · subst same
    simp only [calls, Function.update_self]
  · simp only [calls, Function.update_of_ne same]

theorem carries_update {host : Host} {queue : List UInt8} (party : Party)
    (carries : host.Carries number founding 2
      (Function.update round.calls role (Call.onRing? party.call)) queue) :
    host.Carries number founding 2
      (⟨host, Function.update round.parties role party⟩ : Round).calls queue := by
  rw [calls_update]
  exact carries

namespace Sound

variable (sound : round.Sound payload copies number founding answered effected)

include sound

theorem side_update (host : Host) {party : Party} {answered' effected' : Nat}
    (own : Side party payload number role answered' (copies - answered') effected')
    (other : Role) :
    Side ((⟨host, Function.update round.parties role party⟩ : Round).parties other) payload
      number other (Function.update answered role answered' other)
      (copies - Function.update answered role answered' other)
      (Function.update effected role effected' other) := by
  by_cases same : other = role
  · subst same
    simpa only [Function.update_self] using own
  · simpa only [Function.update_of_ne same] using sound.side other

/-- A side that goes on with another call. -/
theorem side_call (host : Host) (call : Option Call) {effected' : Nat}
    (standing : Standing payload number role (answered role) (copies - answered role) call
      effected') (other : Role) :
    Side ((⟨host, Function.update round.parties role { round.parties role with call }⟩ :
        Round).parties other) payload number other (answered other) (copies - answered other)
      (Function.update effected role effected' other) := by
  obtain ⟨sane, opened, isProgram, -⟩ := sound.side role
  have own : Side { round.parties role with call } payload number role (answered role)
      (copies - answered role) effected' := ⟨sane, opened, isProgram, standing⟩
  simpa only [Function.update_eq_self] using sound.side_update host own other

omit sound in
theorem calls_eq {phase : RingPhase} (running : (round.parties role).call =
    some (.ring (.region number) ⟨request payload role, phase⟩)) :
    round.calls role = some ⟨request payload role, phase⟩ := by
  simp only [calls, running, Call.onRing?]

theorem within_update {answered' : Nat} (few : answered' ≤ copies) (other : Role) :
    Function.update answered role answered' other ≤ copies := by
  by_cases same : other = role
  · subst same
    rwa [Function.update_self]
  · rw [Function.update_of_ne same]
    exact sound.within other

/-- A side begins a call. -/
theorem begin {left : Nat} (more : copies - answered role = left + 1)
    (idle : (round.parties role).call = none) (fresh : effected role = answered role) :
    (⟨round.host, Function.update round.parties role
        { round.parties role with
          call := some (.ring (.region number) (.start (request payload role))) }⟩ : Round).Sound
      payload copies number founding answered effected := by
  refine ⟨carries_update _ (sound.carries.replace role _ ?_ ?_), ?_, sound.within, sound.order⟩
  · intro call running
    simp [calls, idle, Call.onRing?] at running
  · rintro call ⟨⟩
    rfl
  · intro other
    have standing : Standing payload number role (answered role) (copies - answered role)
        (some (.ring (.region number) (.start (request payload role)))) (effected role) := by
      rw [more, fresh]
      exact .pending left _ (Call.undecided_start number _)
    simpa only [Function.update_eq_self] using sound.side_call round.host _ standing other

/-- A side learns that its call took effect, and goes on to the next copy. -/
theorem answer {left : Nat} (more : copies - answered role = left + 1)
    (running : (round.parties role).call =
      some (.ring (.region number) ⟨request payload role, .finished (reply payload role)⟩))
    (counted : effected role = answered role + 1) :
    (⟨round.host, Function.update round.parties role
        ((round.parties role).goOn (programOf payload (answered role + 1) left role))⟩ :
        Round).Sound payload copies number founding
      (Function.update answered role (answered role + 1)) effected := by
  obtain ⟨sane, opened, isProgram, standing⟩ := sound.side role
  refine ⟨carries_update _ (sound.carries.replace role none ?_ nofun), ?_, ?_, sound.order⟩
  · intro call isCall
    rw [calls_eq running] at isCall
    cases isCall
    rfl
  · intro other
    have rest : copies - (answered role + 1) = left := by omega
    have own : Side ((round.parties role).goOn (programOf payload (answered role + 1) left role))
        payload number role (answered role + 1) (copies - (answered role + 1))
        (effected role) := by
      refine ⟨sane, opened, by rw [rest]; rfl, ?_⟩
      rw [rest, counted]
      cases left with
      | zero => exact .done
      | succ left => exact .pending left _ (Call.undecided_none number _)
    simpa only [Function.update_eq_self] using sound.side_update round.host own other
  · exact sound.within_update (by omega)

/-- The call of a side takes a step, in which it may take effect. -/
theorem advance (nonempty : payload ≠ []) (fits : payload.length ≤ founding.capacity)
    {phase : RingPhase} {call : RingCall} {guarded guarded' : GuardedRing}
    (running : (round.parties role).call =
      some (.ring (.region number) ⟨request payload role, phase⟩))
    (present : round.host.guarded? (.region number) = some guarded)
    (stepped : RingCall.step guarded ⟨request payload role, phase⟩ = some (guarded', call)) :
    ∃ effected', (⟨round.host.setGuarded (.region number) guarded',
        Function.update round.parties role
          { round.parties role with call := some (.ring (.region number) call) }⟩ : Round).Sound
      payload copies number founding answered effected' := by
  have standing := (sound.side role).standing
  rw [running] at standing
  obtain ⟨-, phase', queue, rfl, carries, took⟩ :=
    sound.carries.advance (calls_eq running) present stepped
  have carried := carries_update { round.parties role with
    call := some (.ring (.region number) ⟨request payload role, phase'⟩) } carries
  rcases took_request nonempty fits took with ⟨rfl, same⟩ | ⟨undecided, decided, count, shift, rfl⟩
  · refine ⟨effected, carried, fun other => ?_, sound.within, sound.order⟩
    simpa only [Function.update_eq_self] using
      sound.side_call (round.host.setGuarded (.region number) guarded') _
        (standing.of_same same) other
  · obtain ⟨standing', fresh⟩ := standing.of_decided undecided decided
    obtain ⟨counted, order⟩ := shift.counted sound.order
    rw [fresh] at counted order
    refine ⟨Function.update effected role (answered role + 1), ?_,
      sound.side_call _ _ standing', sound.within, order⟩
    rw [counted]
    exact carried

end Sound

end Round

end Workload

end BoundedStream
