import BoundedStream.Proofs.Workload.Progress

/-!
# The schedule of a workload

A workload lets each side go on as long as it can, one after the other, and again until both
have ended.  That is one of the runs of a round, and patience enough for its tolls brings it to
the end.
-/

namespace BoundedStream

namespace Workload

/-- A side with copies to go waits for its transfers, and for nothing else. -/
theorem Side.transfers {payload : List UInt8} {number answered left effected : Nat} {role : Role}
    {party : Party} (side : Side party payload number role answered (left + 1) effected)
    (nonempty : payload ≠ []) : party.isPausing = false ∧ party.isObserving = false := by
  rw [Party.isPausing, Party.isObserving, side.isProgram]
  rcases transfers_programOf_succ nonempty answered left role with
    ⟨data, resume, turn⟩ | ⟨length, resume, turn⟩ <;> simp [turn]

namespace Round

variable {first middle last : Round} {steps steps' wakings wakings' : Nat}

theorem Runs.trans (runs : first.Runs steps wakings middle)
    (runs' : middle.Runs steps' wakings' last) :
    first.Runs (steps + steps') (wakings + wakings') last := by
  induction runs' with
  | start => exact runs
  | step _ step hypothesis => exact .step hypothesis step
  | rouse _ rouse hypothesis => exact .rouse hypothesis rouse

theorem Runs.eq_of_zero (runs : first.Runs 0 0 last) : last = first := by
  cases runs
  rfl

/-- A round as a machine, on which the sender comes before the reader. -/
def machine (round : Round) : Machine :=
  ⟨round.host, [round.parties .producer, round.parties .consumer]⟩

theorem isOver_machine_iff (round : Round) : round.machine.isOver = true ↔ round.IsOver := by
  simp only [Machine.isOver, machine, List.all_cons, List.all_nil, Bool.and_true,
    Bool.and_eq_true]
  refine ⟨fun ended role => ?_, fun ended => ⟨ended _, ended _⟩⟩
  cases role with
  | producer => exact ended.1
  | consumer => exact ended.2

namespace Sound

variable {payload : List UInt8} {number copies : Nat} {founding : Founding}
  {answered effected : Role → Nat} {round : Round}
  (sound : round.Sound payload copies number founding answered effected)
  (nonempty : copies ≠ 0 → payload ≠ []) (fits : payload.length ≤ founding.capacity)

include sound nonempty fits

/-- A side that goes on as long as it can makes a run, and it makes no step only if it has to
wait. -/
theorem runs_advance (role : Role) (fuel : Nat) (moved : Bool) :
    ∃ steps host party,
      Machine.advance fuel round.host (round.parties role) moved =
          (moved || decide (0 < steps), host, party) ∧
        round.Runs steps 0 ⟨host, Function.update round.parties role party⟩ ∧
        (0 < fuel → steps = 0 → ∀ later, ¬ round.Step role later) := by
  induction fuel generalizing round answered effected moved with
  | zero =>
      refine ⟨0, round.host, round.parties role, by simp [Machine.advance], ?_, nofun⟩
      rw [Function.update_eq_self]
      exact .start
  | succ fuel hypothesis =>
      cases stepped : (round.parties role).step round.host with
      | none =>
          refine ⟨0, round.host, round.parties role, by simp [Machine.advance, stepped], ?_, ?_⟩
          · rw [Function.update_eq_self]
            exact .start
          · rintro - - later ⟨host, party, goesOn⟩
            rw [stepped] at goesOn
            cases goesOn
      | some result =>
          obtain ⟨host, party⟩ := result
          have step : round.Step role _ := .advance host party stepped
          obtain ⟨answered', effected', sound', -⟩ := sound.step nonempty fits step
          have side := sound.side role
          obtain ⟨left, more, -⟩ := side.move_of_step (fun more => nonempty (by omega)) stepped
          rw [more] at side
          obtain ⟨unpausing, transferring⟩ := side.transfers (nonempty (by omega))
          obtain ⟨steps, host', party', advanced, runs, -⟩ := hypothesis sound' true
          dsimp only at advanced runs
          rw [Function.update_self] at advanced
          rw [Function.update_idem] at runs
          refine ⟨1 + steps, host', party', ?_, (Runs.step .start step).trans runs, by omega⟩
          have positive : 0 < 1 + steps := by omega
          simp [Machine.advance, stepped, unpausing, transferring, advanced, positive]

/-- Both sides in turn make a run, and they make no step only if the round is over. -/
theorem runs_round : ∃ steps later,
    Machine.round round.machine.host round.machine.parties =
        (decide (0 < steps), later.host, later.machine.parties) ∧
      round.Runs steps 0 later ∧ (steps = 0 → round.IsOver) := by
  have patient : 0 < Machine.patience := by decide
  obtain ⟨sent, host, sender, advanced, runs, waits⟩ :=
    sound.runs_advance nonempty fits .producer Machine.patience false
  obtain ⟨answered', effected', sound', -⟩ := sound.runs nonempty fits runs
  obtain ⟨received, host', reader, advanced', runs', waits'⟩ :=
    sound'.runs_advance nonempty fits .consumer Machine.patience false
  dsimp only at advanced'
  rw [Function.update_of_ne (by decide)] at advanced'
  refine ⟨sent + received, _, ?_, runs.trans runs', fun still => ?_⟩
  · have either : (0 < sent ∨ 0 < received) ↔ 0 < sent + received := by omega
    have moved : (decide (0 < sent) || decide (0 < received)) = decide (0 < sent + received) := by
      rw [← Bool.decide_or]
      exact decide_eq_decide.mpr either
    have others : Role.producer ≠ Role.consumer := by decide
    simp only [Machine.round, machine, advanced, advanced', Bool.false_or, Bool.or_false, moved,
      Function.update_self, Function.update_of_ne others]
  · obtain rfl : sent = 0 := by omega
    obtain rfl : received = 0 := by omega
    by_contra unfinished
    obtain ⟨role, later, step⟩ := sound.exists_step nonempty fits unfinished
    cases role with
    | producer => exact waits patient rfl later step
    | consumer =>
        rw [runs.eq_of_zero] at waits'
        exact waits' patient rfl later step

/-- Patience that is enough for the tolls brings a round to its end. -/
theorem runs_runFor (fuel quiet : Nat) (enough : round.toll number copies answered ≤ fuel)
    (hopeful : quiet ≠ 0) : ∃ steps later,
    Machine.runFor Machine.isOver fuel quiet round.machine = later.machine ∧
      round.Runs steps 0 later ∧ later.IsOver := by
  induction fuel generalizing round answered effected quiet with
  | zero =>
      refine ⟨0, round, rfl, .start, ?_⟩
      by_contra unfinished
      obtain ⟨role, later, step⟩ := sound.exists_step nonempty fits unfinished
      obtain ⟨answered', effected', sound', pays⟩ := sound.step nonempty fits step
      omega
  | succ fuel hypothesis =>
      by_cases ended : round.IsOver
      · refine ⟨0, round, ?_, .start, ended⟩
        simp [Machine.runFor, (isOver_machine_iff round).mpr ended]
      · obtain ⟨steps, later, turns, runs, still⟩ := sound.runs_round nonempty fits
        have moved : 0 < steps := Nat.pos_of_ne_zero fun none => ended (still none)
        obtain ⟨answered', effected', sound', few⟩ := sound.runs nonempty fits runs
        obtain ⟨steps', last, finished, runs', ended'⟩ :=
          hypothesis sound' Machine.quietLimit (by omega) (by decide)
        refine ⟨steps + steps', last, ?_, runs.trans runs', ended'⟩
        have unfinished : round.machine.isOver = false := by
          simpa using mt (isOver_machine_iff round).mp ended
        rw [Machine.runFor, if_neg (by simp [unfinished, hopeful]), turns]
        dsimp only
        rw [if_pos (by simpa using moved)]
        exact finished

end Sound

end Round

end Workload

end BoundedStream
