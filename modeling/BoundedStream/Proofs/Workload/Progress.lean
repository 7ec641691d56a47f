import BoundedStream.Proofs.Ring.Progress
import BoundedStream.Proofs.Workload.Tolls

/-!
# Progress of rounds

While a copy is in the ring the reader can go on, and else the sender, since a payload is no
longer than the ring: however long the payload is, the two never block each other.  A round
over a ring without bytes comes to its end after so many steps, and then both sides have done
their part and the ring holds no bytes again.
-/

namespace BoundedStream

namespace Workload

variable {payload : List UInt8} {number copies answered left effected : Nat}
  {founding : Founding} {role : Role} {party : Party}

theorem result?_programOf_succ (nonempty : payload ≠ []) (answered left : Nat) (role : Role) :
    (programOf payload answered (left + 1) role).result? = none := by
  rcases transfers_programOf_succ nonempty answered left role with
    ⟨data, resume, turn⟩ | ⟨length, resume, turn⟩ <;>
  · rw [Program.result?, turn]
    rfl

/-- Calls take effect one at a time, and before they are answered. -/
theorem Standing.bounds {call : Option Call}
    (standing : Standing payload number role answered left call effected) :
    answered ≤ effected ∧ effected ≤ answered + left := by
  cases standing <;> omega

theorem Standing.of_zero {call : Option Call}
    (standing : Standing payload number role answered 0 call effected) :
    call = none ∧ effected = answered := by
  cases standing
  exact ⟨rfl, rfl⟩

theorem Standing.fresh_of_undecided {phase : RingPhase}
    (standing : Standing payload number role answered left
      (some (.ring (.region number) ⟨request payload role, phase⟩)) effected)
    (undecided : phase.decided? = none) : effected = answered := by
  cases standing with
  | pending left _ _ => rfl
  | effected left _ decided =>
      rw [undecided] at decided
      cases decided

namespace Side

variable (side : Side party payload number role answered left effected)

include side

theorem hasEnded_iff (nonempty : left ≠ 0 → payload ≠ []) : party.hasEnded = true ↔ left = 0 := by
  rw [Party.hasEnded, side.sane, Party.result?, side.isProgram]
  cases left with
  | zero => simp
  | succ left => simp [result?_programOf_succ (nonempty (Nat.succ_ne_zero left))]

theorem conclude_eq (finished : left = 0) : Pair.conclude party = .ok () := by
  subst finished
  rw [Pair.conclude, side.sane, Party.result?, side.isProgram, result?_programOf_zero]

end Side

namespace Round

variable {answered effected : Role → Nat} {round later : Round}

/-- What the reader received, piece by piece, once it received everything. -/
def reads? (round : Round) : Option (List (List UInt8)) :=
  match (round.parties .consumer).program with
  | .collect (.finished (.ok pieces)) => some pieces.reverse
  | _ => none

namespace Sound

variable (sound : round.Sound payload copies number founding answered effected)

include sound

theorem bounds (role : Role) : answered role ≤ effected role ∧ effected role ≤ copies := by
  have within := sound.within role
  obtain ⟨least, most⟩ := (sound.side role).standing.bounds
  omega

/-- A side that is done has no call, and all of its calls took effect. -/
theorem of_done (done : copies - answered role = 0) :
    (round.parties role).call = none ∧ effected role = copies := by
  have standing := (sound.side role).standing
  rw [done] at standing
  obtain ⟨idle, same⟩ := standing.of_zero
  have within := sound.within role
  exact ⟨idle, by omega⟩

/-- There is a side that has copies to go and whose call, if it did not take effect yet, the
ring can answer: the reader while the ring holds a copy, and else the sender if it did not send
all copies. -/
theorem exists_served (nonempty : payload ≠ []) (fits : payload.length ≤ founding.capacity)
    (unfinished : ∃ role, copies - answered role ≠ 0) :
    ∃ role, copies - answered role ≠ 0 ∧ (effected role = answered role →
      (request payload role).serve? founding.capacity
        (copiesOf payload (effected .producer - effected .consumer)) ≠ none) := by
  have order := sound.order
  obtain ⟨-, mostSent⟩ := sound.bounds .producer
  obtain ⟨leastRead, -⟩ := sound.bounds .consumer
  by_cases empty : effected .producer - effected .consumer = 0
  · by_cases sent : copies - answered .producer = 0
    · -- All copies were sent and read, so that the last call of the reader took effect.
      obtain ⟨role, more⟩ := unfinished
      cases role with
      | producer => exact absurd sent more
      | consumer =>
          have within := sound.bounds .producer
          exact ⟨.consumer, more, fun fresh => by omega⟩
    · refine ⟨.producer, sent, fun _ lacks => ?_⟩
      rw [empty, RingRequest.serve?_eq_none_iff] at lacks
      simp only [request, copiesOf_zero, List.length_nil] at lacks
      omega
  · refine ⟨.consumer, by omega, fun _ lacks => ?_⟩
    rw [RingRequest.serve?_eq_none_iff] at lacks
    exact absurd ((length_le_copiesOf_iff nonempty).mpr (Nat.pos_of_ne_zero empty))
      (Nat.not_le.mpr lacks.2)

theorem isOver_iff (nonempty : copies ≠ 0 → payload ≠ []) :
    round.IsOver ↔ ∀ role, copies - answered role = 0 :=
  forall_congr' fun role => (sound.side role).hasEnded_iff fun more => nonempty (by omega)

/-- Whoever has the mutex can go on. -/
theorem exists_step_of_holds (nonempty : payload ≠ []) {call : RingCall}
    (running : round.calls role = some call) (holds : call.phase.holds = true) :
    ∃ later, round.Step role later := by
  obtain ⟨region, found, -, -⟩ := sound.carries
  have side := sound.side role
  cases left : copies - answered role with
  | zero =>
      rw [calls, (sound.of_done left).1] at running
      cases running
  | succ rest =>
      rw [left] at side
      obtain ⟨host, party, stepped⟩ := side.exists_step round.host nonempty
        fun phase isCall open? => by
          rw [calls_eq isCall] at running
          cases running
          obtain ⟨result, stepped⟩ :=
            RingCall.exists_step_of_holds region.guarded (request payload role) holds
          exact ⟨region.guarded, result, Host.guarded?_region found, stepped⟩
      exact ⟨_, .advance host party stepped⟩

/-- A side whose call the ring can answer goes on while nobody has the mutex. -/
theorem exists_step_of_served (nonempty : payload ≠ []) (more : copies - answered role ≠ 0)
    (unlocked : ∀ other call, round.calls other = some call → call.phase.holds = false)
    (served : effected role = answered role → (request payload role).serve? founding.capacity
      (copiesOf payload (effected .producer - effected .consumer)) ≠ none) :
    ∃ later, round.Step role later := by
  obtain ⟨region, found, accords, attended⟩ := sound.carries
  have side := sound.side role
  obtain ⟨rest, left⟩ := Nat.exists_eq_succ_of_ne_zero more
  rw [left] at side
  obtain ⟨host, party, stepped⟩ := side.exists_step round.host nonempty
    fun phase isCall open? => by
      have standing := side.standing
      rw [isCall] at standing
      have capacity : region.guarded.ring.capacity = founding.capacity := accords.capacity_eq
      obtain ⟨result, stepped⟩ := attended.exists_step (calls_eq isCall)
        (fun other call _ present => unlocked other call present) open?
        (fun undecided => by
          rw [capacity]
          exact served (standing.fresh_of_undecided undecided))
      exact ⟨region.guarded, result, Host.guarded?_region found, stepped⟩
  exact ⟨_, .advance host party stepped⟩

/-- As long as a round is not over, one of the sides can go on. -/
theorem exists_step (nonempty : copies ≠ 0 → payload ≠ [])
    (fits : payload.length ≤ founding.capacity) (unfinished : ¬ round.IsOver) :
    ∃ role later, round.Step role later := by
  rw [sound.isOver_iff nonempty, not_forall] at unfinished
  have nonempty : payload ≠ [] := nonempty fun none => by
    obtain ⟨role, more⟩ := unfinished
    omega
  by_cases locked : ∃ role call, round.calls role = some call ∧ call.phase.holds = true
  · obtain ⟨role, call, running, holds⟩ := locked
    exact ⟨role, sound.exists_step_of_holds nonempty running holds⟩
  · obtain ⟨role, more, served⟩ := sound.exists_served nonempty fits unfinished
    refine ⟨role, sound.exists_step_of_served nonempty more (fun other call running => ?_) served⟩
    by_contra holds
    exact locked ⟨other, call, running, by simpa using holds⟩

/-- A side that sleeps and was not woken has to wait. -/
theorem not_step_of_asleep (nonempty : copies ≠ 0 → payload ≠ []) (asleep : round.Asleep role) :
    ¬ round.Step role later := by
  rintro ⟨host, party, stepped⟩
  obtain ⟨location, request', seen, guarded, sleeps, present, unsignalled⟩ := asleep
  obtain ⟨left, more, move⟩ :=
    (sound.side role).move_of_step (fun more => nonempty (by omega)) stepped
  cases move with
  | begin idle fresh =>
      rw [sleeps] at idle
      cases idle
  | advance phase call guarded' later running present' ringStep =>
      rw [sleeps] at running
      cases running
      rw [present] at present'
      cases present'
      simp [RingCall.step, unsignalled] at ringStep
  | answer running counted =>
      rw [sleeps] at running
      cases running

/-- The two sides never sleep at the same time. -/
theorem awake (nonempty : copies ≠ 0 → payload ≠ []) (fits : payload.length ≤ founding.capacity) :
    ¬ ∀ role, round.Asleep role := by
  intro asleep
  have unfinished : ¬ round.IsOver := fun ended => by
    obtain ⟨location, request', seen, guarded, sleeps, -⟩ := asleep .producer
    rw [(sound.of_done ((sound.isOver_iff nonempty).mp ended .producer)).1] at sleeps
    cases sleeps
  obtain ⟨role, later, step⟩ := sound.exists_step nonempty fits unfinished
  exact sound.not_step_of_asleep nonempty (asleep role) step

variable (nonempty : copies ≠ 0 → payload ≠ []) (ended : round.IsOver)

include nonempty ended

/-- Once a round is over, nothing is left of it in the ring. -/
theorem carries_of_isOver : round.host.Carries number founding 2 (fun _ : Role => none) [] := by
  have done := (sound.isOver_iff nonempty).mp ended
  have carries := sound.carries
  rw [(sound.of_done (done .producer)).2, (sound.of_done (done .consumer)).2, Nat.sub_self,
    copiesOf_zero] at carries
  refine carries.of_calls fun role => ?_
  simp only [calls, (sound.of_done (done role)).1, Call.onRing?]

theorem conclude_of_isOver (role : Role) : Pair.conclude (round.parties role) = .ok () :=
  (sound.side role).conclude_eq ((sound.isOver_iff nonempty).mp ended role)

/-- Once a round is over, the reader has received every copy on its own. -/
theorem reads?_of_isOver : round.reads? = some (List.replicate copies payload) := by
  have done := (sound.isOver_iff nonempty).mp ended .consumer
  have within := sound.within .consumer
  have all : answered .consumer = copies := by omega
  rw [reads?, (sound.side .consumer).isProgram, done, all]
  simp [programOf, Reader.resume]

end Sound

end Round

end Workload

end BoundedStream
