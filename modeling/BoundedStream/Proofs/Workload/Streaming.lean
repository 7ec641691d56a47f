import BoundedStream.Proofs.FileSystem.Paths
import BoundedStream.Proofs.Ring.Solo
import BoundedStream.Proofs.Stream.Carrier
import BoundedStream.Proofs.Workload.Schedule

/-!
# Rounds over one ring

Rounds with payloads of any lengths that the ring has room for are streamed one after another
over one pair of endpoints.  Each of them finds the ring empty and leaves it so, and however
its sides take turns, the reader receives the copies one by one.
-/

namespace BoundedStream

namespace Workload

/-! ## Pairs between rounds -/

/-- Both endpoints of a pair hold a region whose ring nobody uses and which has no bytes. -/
structure Pair.Rests (pair : Pair) (number : Nat) (founding : Founding) : Prop where
  producer : pair.producer.Holds number
  consumer : pair.consumer.Holds number
  carries : pair.host.Carries number founding 2 (fun _ : Role => none) []

namespace Pair

variable {pair : Pair} {number : Nat} {founding : Founding}

/-- A configuration that leads both endpoints to a place where no region is connects them. -/
theorem exists_connected {host : Host} {config : Config} {key : Nat}
    (leads : ∀ role, config.LeadsTo host.memory role key)
    (nowhere : host.memory.regions.find? key = none) :
    ∃ pair number, connect host config = .ok pair ∧
      pair.Rests number ⟨key, config.capacity, false⟩ := by
  obtain ⟨producer, host', founded, produces, carries, sole, sameFiles⟩ :=
    Host.connect_producer (fun _ : Role => none) (leads .producer) nowhere fun _ => rfl
  obtain ⟨deserted, -⟩ | ⟨-, consumer, host'', joined, consumes, carries', -⟩ :=
    carries.connect ((leads .consumer).of_files sameFiles) sole rfl (by decide)
  · cases deserted
  · refine ⟨⟨host'', producer, consumer⟩, _, ?_, produces, consumes, carries'⟩
    simp only [connect, founded, joined]

/-! ### The key of a ring -/

/-- The host on which a pair over shared memory is connected. -/
def quayside : Host := Host.fresh.place "ring.key" (.file [])

theorem leadsTo_quayside {capacity : Nat} (positive : 1 ≤ capacity)
    (bounded : capacity ≤ 1 <<< 30) (role : Role) :
    (Config.sharedMemory "ring.key" capacity).LeadsTo quayside.memory role 2 := by
  have inside : Config.leastCapacity ≤ capacity ∧ capacity ≤ Config.greatestCapacity :=
    ⟨positive, bounded⟩
  have found : quayside.memory.files.lookup true "ring.key" = .ok (.found 2) := rfl
  have valid : (Config.sharedMemory "ring.key" capacity).checkFor role = .ok () := by
    simp [Config.checkFor, Config.checkBackend, Config.sharedMemory, inside, Config.defaultMode,
      Config.greatestMode]
  have derived : quayside.memory.deriveKey "ring.key" = .ok 2 := by
    rw [SharedMemory.deriveKey, FileSystem.resolve, found]
  exact ⟨rfl, valid, derived⟩

theorem exists_sharedMemory {capacity : Nat} (positive : 1 ≤ capacity)
    (bounded : capacity ≤ 1 <<< 30) :
    ∃ pair number, sharedMemory capacity = .ok pair ∧
      pair.Rests number ⟨2, capacity, false⟩ := by
  have nowhere : quayside.memory.regions.find? 2 = none := rfl
  exact exists_connected (leadsTo_quayside positive bounded) nowhere

namespace Rests

variable (rests : pair.Rests number founding)

include rests

theorem pending?_eq : pair.pending? = .ok (some 0) := by
  obtain ⟨region, found, -, attended⟩ := rests.carries
  have present := Host.guarded?_region found
  have free : region.guarded.monitor.lock = .free :=
    attended.lock_free fun caller call running => by cases running
  have settles : (RingCall.start .measure).Settles region.guarded [] :=
    RingCall.settles_start attended.represents free rfl
  obtain ⟨moved, host, guarded, advanced, -, -⟩ := Call.advance_of_settles settles present
  simp only [pending?, rests.consumer.pendingCall?_eq, Call.complete, advanced]
  rfl

theorem references?_eq : pair.references? = some 2 :=
  rests.carries.references?_eq rests.consumer

end Rests

end Pair

/-! ## Rounds between rests -/

/-- The number of copies that are sent: those of nothing are none. -/
def copiesSent (payload : List UInt8) (copies : Nat) : Nat := if payload = [] then 0 else copies

variable {payload : List UInt8} {copies number : Nat} {founding : Founding} {pair : Pair}

theorem nonempty_of_copiesSent (sent : copiesSent payload copies ≠ 0) : payload ≠ [] := by
  rintro rfl
  exact sent rfl

theorem copiesSent_le (payload : List UInt8) (copies : Nat) :
    copiesSent payload copies ≤ copies := by
  unfold copiesSent
  split <;> omega

/-- What both sides of a round and the ring are like in all of its runs. -/
structure Round.Delivers (first : Round) (payload : List UInt8) (copies : Nat) : Prop where
  /-- The two sides never sleep at the same time. -/
  awake : ∀ steps wakings round, first.Runs steps wakings round → ¬ ∀ role, round.Asleep role
  /-- One of them can go on until both have ended. -/
  goesOn : ∀ steps wakings round, first.Runs steps wakings round →
    round.IsOver ∨ ∃ role later, round.Step role later
  /-- They do not go on for ever, unless they are woken for ever out of turn. -/
  bounded : ∀ steps wakings round, first.Runs steps wakings round →
    steps ≤ 24 * copies + 2 * wakings
  /-- Both end well. -/
  concludes : ∀ steps wakings round, first.Runs steps wakings round → round.IsOver →
    ∀ role, Pair.conclude (round.parties role) = .ok ()
  /-- The reader has received the copies, one at a time. -/
  reads : ∀ steps wakings round, first.Runs steps wakings round → round.IsOver →
    round.reads? = some (List.replicate (copiesSent payload copies) payload)

theorem program_round (pair : Pair) (payload : List UInt8) (copies : Nat) (role : Role) :
    ((pair.round payload copies).parties role).program =
      programOf payload 0 (copiesSent payload copies) role := by
  unfold copiesSent
  split
  · rename_i empty
    subst empty
    cases role with
    | producer => cases copies <;> rfl
    | consumer => simp [Pair.round, Party.start, programOf, Reader.start]
  · cases role <;> rfl

theorem toll_round (pair : Pair) (payload : List UInt8) (copies number sent : Nat) :
    (pair.round payload copies).toll number sent (fun _ => 0) = 24 * sent := by
  have idle : ∀ role, (pair.round payload copies).calls role = none := by
    intro role
    cases role <;> rfl
  simp only [Round.toll, idle, tollOf_none]
  omega

namespace Pair.Rests

variable (rests : pair.Rests number founding)

include rests

theorem sound_round (payload : List UInt8) (copies : Nat) :
    (pair.round payload copies).Sound payload (copiesSent payload copies) number founding
      (fun _ => 0) (fun _ => 0) where
  carries := rests.carries.of_calls fun role => by cases role <;> rfl
  side role := by
    have standing : Standing payload number role 0 (copiesSent payload copies) none 0 := by
      cases copiesSent payload copies with
      | zero => exact .done
      | succ left => exact .pending left none (Call.undecided_none number _)
    have isProgram := program_round pair payload copies role
    cases role with
    | producer => exact ⟨rfl, ⟨_, rfl, rests.producer⟩, isProgram, standing⟩
    | consumer => exact ⟨rfl, ⟨_, rfl, rests.consumer⟩, isProgram, standing⟩
  within _ := Nat.zero_le _
  order := Nat.le_refl 0

variable (fits : payload.length ≤ founding.capacity)

include fits

theorem delivers (copies : Nat) : (pair.round payload copies).Delivers payload copies := by
  have sound := rests.sound_round payload copies
  have nonempty : copiesSent payload copies ≠ 0 → payload ≠ [] := nonempty_of_copiesSent
  refine ⟨?_, ?_, ?_, ?_, ?_⟩
  all_goals intro steps wakings round runs
  all_goals obtain ⟨answered, effected, sound', few⟩ := sound.runs nonempty fits runs
  · exact sound'.awake nonempty fits
  · exact or_iff_not_imp_left.mpr (sound'.exists_step nonempty fits)
  · have := copiesSent_le payload copies
    rw [toll_round] at few
    omega
  · exact sound'.conclude_of_isOver nonempty
  · exact sound'.reads?_of_isOver nonempty

/-- Once a round is over, the pair is as it was before. -/
theorem of_round {steps wakings : Nat} {round : Round}
    (runs : (pair.round payload copies).Runs steps wakings round) (ended : round.IsOver) :
    Rests { pair with host := round.host } number founding := by
  have nonempty : copiesSent payload copies ≠ 0 → payload ≠ [] := nonempty_of_copiesSent
  obtain ⟨answered, effected, sound, -⟩ :=
    (rests.sound_round payload copies).runs nonempty fits runs
  exact ⟨rests.producer, rests.consumer, sound.carries_of_isOver nonempty ended⟩

/-- The schedule of a workload is one of the runs, and it comes to the end if there is patience
enough. -/
theorem exists_runs_stream (patient : 24 * copies ≤ Machine.patience) :
    ∃ steps later, (pair.round payload copies).Runs steps 0 later ∧ later.IsOver ∧
      pair.stream payload copies = .ok { pair with host := later.host } := by
  have sound := rests.sound_round payload copies
  have nonempty : copiesSent payload copies ≠ 0 → payload ≠ [] := nonempty_of_copiesSent
  have few := copiesSent_le payload copies
  have tolls := toll_round pair payload copies number (copiesSent payload copies)
  obtain ⟨steps, later, finished, runs, ended⟩ :=
    sound.runs_runFor nonempty fits Machine.patience Machine.quietLimit (by omega) (by decide)
  obtain ⟨answered, effected, sound', -⟩ := sound.runs nonempty fits runs
  have concludes := sound'.conclude_of_isOver nonempty ended
  have streamed : Machine.finish ⟨pair.host,
      [Party.start (.send (.start payload copies)) (some pair.producer) [],
        Party.start (.collect (.start payload.length (payload.length * copies)))
          (some pair.consumer) []]⟩ = later.machine := finished
  have both : later.machine.parties.forM Pair.conclude = .ok () := by
    simp only [Round.machine, List.forM, concludes]
    rfl
  refine ⟨steps, later, runs, ended, ?_⟩
  simp only [Pair.stream, streamed, both]
  rfl

end Pair.Rests

/-- Rounds that were streamed over a pair of endpoints one after another, each of them to its
end, and the host that they left. -/
inductive Streamed (pair : Pair) (capacity : Nat) : List (List UInt8 × Nat) → Host → Prop
  | none : Streamed pair capacity [] pair.host
  | round {rounds : List (List UInt8 × Nat)} {host : Host} {payload : List UInt8}
      {copies steps wakings : Nat} {last : Round} (earlier : Streamed pair capacity rounds host)
      (fits : payload.length ≤ capacity) (countable : payload.length * copies < 1 <<< 64)
      (runs : (({ pair with host } : Pair).round payload copies).Runs steps wakings last)
      (ended : last.IsOver) :
      Streamed pair capacity (rounds ++ [(payload, copies)]) last.host

theorem Pair.Rests.of_streamed {rounds : List (List UInt8 × Nat)} {host : Host}
    (rests : pair.Rests number founding) (streamed : Streamed pair founding.capacity rounds host) :
    Pair.Rests { pair with host } number founding := by
  induction streamed with
  | none => exact rests
  | round _ fits _ runs ended hypothesis => exact hypothesis.of_round fits runs ended

/-- A pair over shared memory streams any rounds whose payloads the ring has room for, one after
another.  However the two sides take turns in a round, and even if they wake up out of turn, they
never sleep at the same time, and they go on until both end well, and the reader has received
the copies of the payload one at a time.  Before the first round and after each one the ring is
empty, and its region has the two handles of the pair.  The schedule of `Pair.stream` is one of
the ways to take turns, and it has the patience for more than 2 ^ 35 copies. -/
theorem streams_any_rounds (capacity : Nat) (positive : 1 ≤ capacity)
    (bounded : capacity ≤ 1 <<< 30) :
    ∃ pair, Pair.sharedMemory capacity = .ok pair ∧
      ∀ rounds host, Streamed pair capacity rounds host →
        ({ pair with host } : Pair).pending? = .ok (some 0) ∧
        ({ pair with host } : Pair).references? = some 2 ∧
        ∀ payload copies, payload.length ≤ capacity → payload.length * copies < 1 <<< 64 →
          (({ pair with host } : Pair).round payload copies).Delivers payload copies ∧
          (24 * copies ≤ Machine.patience → ∃ steps later,
            (({ pair with host } : Pair).round payload copies).Runs steps 0 later ∧
              later.IsOver ∧ ({ pair with host } : Pair).stream payload copies =
                .ok { pair with host := later.host }) := by
  obtain ⟨pair, number, connected, rests⟩ := Pair.exists_sharedMemory positive bounded
  refine ⟨pair, connected, fun rounds host streamed => ?_⟩
  have rests' := rests.of_streamed streamed
  exact ⟨rests'.pending?_eq, rests'.references?_eq, fun payload copies fits _ =>
    ⟨rests'.delivers fits copies, rests'.exists_runs_stream fits⟩⟩

/-- On a ring of four bytes two copies of three bytes are streamed, although it cannot hold both
of them, and then one of a single byte. -/
theorem streams_any_rounds_of_four_bytes : ∃ pair steps last host,
    Pair.sharedMemory 4 = .ok pair ∧ (pair.round [1, 2, 3] 2).Runs steps 0 last ∧
      last.IsOver ∧ last.reads? = some [[1, 2, 3], [1, 2, 3]] ∧
      Streamed pair 4 [([1, 2, 3], 2), ([4], 1)] host ∧
      ({ pair with host } : Pair).pending? = .ok (some 0) ∧
      ({ pair with host } : Pair).references? = some 2 := by
  obtain ⟨pair, connected, streams⟩ := streams_any_rounds 4 (by decide) (by decide)
  obtain ⟨-, -, first⟩ := streams [] pair.host .none
  obtain ⟨delivers, completes⟩ := first [1, 2, 3] 2 (by decide) (by decide)
  obtain ⟨steps, last, runs, ended, -⟩ := completes (by decide)
  have once : Streamed pair 4 [([1, 2, 3], 2)] last.host :=
    .round .none (by decide) (by decide) runs ended
  obtain ⟨-, -, second⟩ := streams _ _ once
  obtain ⟨-, completes'⟩ := second [4] 1 (by decide) (by decide)
  obtain ⟨steps', last', runs', ended', -⟩ := completes' (by decide)
  have twice : Streamed pair 4 [([1, 2, 3], 2), ([4], 1)] last'.host :=
    .round once (by decide) (by decide) runs' ended'
  obtain ⟨empty, held, -⟩ := streams _ _ twice
  exact ⟨pair, steps, last, last'.host, connected, runs, ended,
    delivers.reads steps 0 last runs ended, twice, empty, held⟩

end Workload

end BoundedStream
