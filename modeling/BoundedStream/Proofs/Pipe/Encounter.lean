import BoundedStream.Proofs.Party.Turns
import BoundedStream.Proofs.Pipe.Catching
import BoundedStream.Proofs.Pipe.Pouring
import Mathlib.Data.Prod.Lex

/-!
# Encounters

A producer and a consumer without a limit use one FIFO, each at its own pace.  As long as the
consumer has not opened its end it is its turn to go on.  From then on it is the producer's turn
when the FIFO is empty, and the consumer's when there are bytes or the producer has ended.
-/

namespace BoundedStream

/-- A producer and a consumer of one FIFO. -/
structure Encounter where
  host : Host
  producer : Party
  /-- The consumer, once it was started. -/
  consumer : Option Party

namespace Encounter

/-- A producer at its beginning. -/
def start (host : Host) (config : Config) (chunk : Nat) (input : List UInt8) : Encounter :=
  ⟨host, .produce config none chunk input, none⟩

/-- Everything that may happen.  The input may come in pieces of any size, and a consumer is
started once there is a FIFO where it looks for one. -/
inductive Step (settings : Config) (size : Nat) : Role → Encounter → Encounter → Prop
  | produce {encounter : Encounter} (host : Host) (producer : Party)
      (stepped : encounter.producer.step encounter.host = some (host, producer)) :
      Step settings size .producer encounter { encounter with host, producer }
  | read {encounter : Encounter} (production : Production) (length : Nat)
      (data : Chunk length) (later : List UInt8)
      (isProgram : encounter.producer.program = .produce production)
      (isPhase : production.phase = .reading length) (nonempty : data.val ≠ [])
      (whole : data.val ++ later = encounter.producer.standardInput) :
      Step settings size .producer encounter
        { encounter with
          producer := { encounter.producer with standardInput := later }.goOn
            (.produce (production.inputRead length (.ok data))) }
  | start {encounter : Encounter} (nobody : encounter.consumer = none)
      (present : Pipe.leadsToFifo encounter.host.files settings.path = true) :
      Step settings size .consumer encounter
        { encounter with consumer := some (.consume settings none none size) }
  | consume {encounter : Encounter} (host : Host) (consumer consumer' : Party)
      (running : encounter.consumer = some consumer)
      (stepped : consumer.step encounter.host = some (host, consumer')) :
      Step settings size .consumer encounter { encounter with host, consumer := some consumer' }

/-- Both have ended well, and the consumer has written all of the input. -/
def Complete (encounter : Encounter) (input : List UInt8) : Prop :=
  (∃ report, encounter.producer.result? = some (.reported (.ok report))) ∧
    ∃ consumer report, encounter.consumer = some consumer ∧
      consumer.result? = some (.reported (.ok report)) ∧ consumer.standardOutput = input

/-- The consumer waits in an attempt to open the FIFO. -/
def Awaits (encounter : Encounter) : Prop :=
  ∃ consumer number request file opens, encounter.consumer = some consumer ∧
    consumer.call = some (.pipe number ⟨request, .awaitingPeer file opens⟩)

/-- The producer has ended well, and whatever happens, the consumer waits in an attempt to open
the FIFO. -/
def Stranded (settings : Config) (size : Nat) (encounter : Encounter) : Prop :=
  (∃ report, encounter.producer.result? = some (.reported (.ok report))) ∧
    ∀ later, Reaches (Step settings size) encounter later → later.Awaits

end Encounter

/-! ## What is to come -/

/-- What there is to come of an encounter. -/
structure Prospect where
  gathering : Gathering
  /-- What the FIFO has not accepted of the input. -/
  unsent : List UInt8
  /-- How far each party is from its end, if no more bytes are put in or taken out. -/
  distance : Role → Nat

namespace Prospect

/-- Every byte is to be put in the FIFO and to be taken out of it. -/
def load (prospect : Prospect) : Nat :=
  2 * prospect.unsent.length + prospect.gathering.fifo.contents.length

/-- What the next bytes depend on: the consumer that has not opened its end, else the producer
that finds the FIFO empty, else the consumer. -/
def stage (prospect : Prospect) : Nat :=
  if prospect.gathering.presence .consumer = .away then 2
  else if prospect.gathering.fifo.contents = [] ∧ prospect.distance .producer ≠ 0 then 1
  else 0

def turn (prospect : Prospect) : Role :=
  if prospect.stage = 1 then .producer else .consumer

/-- A party has gone on. -/
def change (prospect : Prospect) (role : Role) (gathering : Gathering) (unsent : List UInt8)
    (distance : Nat) : Prospect :=
  ⟨gathering, unsent, Function.update prospect.distance role distance⟩

@[simp]
theorem distance_change_self (prospect : Prospect) (role : Role) (gathering : Gathering)
    (unsent : List UInt8) (distance : Nat) :
    (prospect.change role gathering unsent distance).distance role = distance :=
  Function.update_self ..

@[simp]
theorem distance_change_peer (prospect : Prospect) (role : Role) (gathering : Gathering)
    (unsent : List UInt8) (distance : Nat) :
    (prospect.change role gathering unsent distance).distance role.peer =
      prospect.distance role.peer :=
  Function.update_of_ne (Role.peer_ne role) ..

variable {prospect later : Prospect}

theorem turn_eq_of_stage (same : later.stage = prospect.stage) :
    later.turn = prospect.turn := by
  rw [turn, turn, same]

theorem stage_eq_one_iff : prospect.stage = 1 ↔ prospect.gathering.presence .consumer ≠ .away ∧
    prospect.gathering.fifo.contents = [] ∧ prospect.distance .producer ≠ 0 := by
  unfold stage
  split
  · simp_all
  · split <;> simp_all

/-- Where it is not the producer's turn though the FIFO is empty and the consumer has opened its
end, the producer has ended. -/
theorem ended_of_stage (turn : prospect.stage ≠ 1)
    (come : prospect.gathering.presence .consumer ≠ .away)
    (empty : prospect.gathering.fifo.contents = []) : prospect.distance .producer = 0 := by
  by_contra unfinished
  exact turn (stage_eq_one_iff.mpr ⟨come, empty, unfinished⟩)

theorem stage_of_remaining (remains : prospect.gathering.fifo.contents ≠ []) : prospect.stage =
    if prospect.gathering.presence .consumer = .away then 2 else 0 := by
  simp [stage, remains]

theorem stage_le (away : later.gathering.presence .consumer = .away →
      prospect.gathering.presence .consumer = .away)
    (same : later.gathering.fifo.contents = prospect.gathering.fifo.contents)
    (le : later.distance .producer ≤ prospect.distance .producer) :
    later.stage ≤ prospect.stage := by
  unfold stage
  rw [same]
  by_cases isAway : prospect.gathering.presence .consumer = .away
  · rw [if_pos isAway]
    split <;> [exact Nat.le_refl 2; (split <;> decide)]
  · rw [if_neg isAway, if_neg (mt away isAway)]
    split
    · rename_i now
      rw [if_pos ⟨now.1, by omega⟩]
    · exact Nat.zero_le _

section Rank

variable (hasty : Role → Bool) (prospect : Prospect)

/-- The distance of a party, which does not count if the party can try in vain. -/
def counted (role : Role) : Nat :=
  if role = prospect.turn ∨ hasty role = false then prospect.distance role else 0

/-- What falls whenever the party goes on whose turn it is. -/
def rank : Nat ×ₗ Nat ×ₗ Nat :=
  toLex (prospect.load,
    toLex (prospect.stage, prospect.counted hasty .producer + prospect.counted hasty .consumer))

/-- What comes after a step of a party: there are fewer bytes to move, or the party comes closer
to its end, or it tries in vain out of turn. -/
structure Next (role : Role) (prospect later : Prospect) : Prop where
  untouched : later.distance role.peer = prospect.distance role.peer
  goes : later.load < prospect.load ∨ later.load = prospect.load ∧
    (later.stage ≤ prospect.stage ∧ later.distance role < prospect.distance role ∨
      hasty role = true ∧ role ≠ prospect.turn ∧ later.stage = prospect.stage)

variable {hasty} {prospect} {role : Role}

theorem counted_add (prospect : Prospect) (role : Role) :
    prospect.counted hasty .producer + prospect.counted hasty .consumer =
      prospect.counted hasty role + prospect.counted hasty role.peer := by
  cases role with
  | producer => rfl
  | consumer => exact Nat.add_comm _ _

theorem rank_lt_iff (role : Role) : later.rank hasty < prospect.rank hasty ↔
    later.load < prospect.load ∨ later.load = prospect.load ∧
      (later.stage < prospect.stage ∨ later.stage = prospect.stage ∧
        later.counted hasty role + later.counted hasty role.peer <
          prospect.counted hasty role + prospect.counted hasty role.peer) := by
  rw [rank, rank, Prod.Lex.toLex_lt_toLex, Prod.Lex.toLex_lt_toLex, counted_add later role,
    counted_add prospect role]

namespace Next

variable (next : Next hasty role prospect later)

include next

theorem counted_peer (same : later.stage = prospect.stage) :
    later.counted hasty role.peer = prospect.counted hasty role.peer := by
  rw [counted, counted, turn_eq_of_stage same, next.untouched]

/-- A party that does not count leaves the rank as it is at the same stage. -/
theorem rank_eq (sameLoad : later.load = prospect.load) (same : later.stage = prospect.stage)
    (free : ¬ (role = prospect.turn ∨ hasty role = false)) :
    later.rank hasty = prospect.rank hasty := by
  have counted_eq : later.counted hasty role = prospect.counted hasty role := by
    rw [counted, counted, turn_eq_of_stage same, if_neg free, if_neg free]
  rw [rank, rank, sameLoad, same, counted_add later role, counted_add prospect role,
    counted_eq, next.counted_peer same]

theorem lowers : later.rank hasty < prospect.rank hasty ∨
    hasty role = true ∧ role ≠ prospect.turn ∧ later.rank hasty = prospect.rank hasty ∧
      later.turn = prospect.turn := by
  rcases next.goes with fewer | ⟨sameLoad, ⟨le, closer⟩ | ⟨isHasty, outOfTurn, same⟩⟩
  · exact .inl ((rank_lt_iff role).mpr (.inl fewer))
  · rcases Nat.lt_or_eq_of_le le with nearer | same
    · exact .inl ((rank_lt_iff role).mpr (.inr ⟨sameLoad, .inl nearer⟩))
    · by_cases counts : role = prospect.turn ∨ hasty role = false
      · refine .inl ((rank_lt_iff role).mpr (.inr ⟨sameLoad, .inr ⟨same, ?_⟩⟩))
        have now : prospect.counted hasty role = prospect.distance role := if_pos counts
        have later_eq : later.counted hasty role = later.distance role := by
          rw [counted, turn_eq_of_stage same, if_pos counts]
        rw [next.counted_peer same, now, later_eq]
        exact Nat.add_lt_add_right closer _
      · have free := counts
        rw [not_or, Bool.not_eq_false] at free
        exact .inr ⟨free.2, free.1, next.rank_eq sameLoad same counts, turn_eq_of_stage same⟩
  · refine .inr ⟨isHasty, outOfTurn, next.rank_eq sameLoad same ?_, turn_eq_of_stage same⟩
    rw [not_or, Bool.not_eq_false]
    exact ⟨outOfTurn, isHasty⟩

end Next

section Change

variable (prospect : Prospect) (fifo : Fifo) (presence : Presence) (seat : Option (Nat × Pipe))

/-- A producer puts a part of what is unsent in the FIFO, comes closer to its end, or tries in vain
while bytes are in its way. -/
theorem next_of_pours {part unsent : List UInt8} {distance : Nat}
    (contents_eq : fifo.contents = prospect.gathering.fifo.contents ++ part)
    (whole : prospect.unsent = part ++ unsent)
    (closer : part = [] → distance < prospect.distance .producer ∨
      hasty .producer = true ∧ prospect.gathering.fifo.contents ≠ []) :
    Next hasty .producer prospect (prospect.change .producer
      (prospect.gathering.change .producer fifo presence seat prospect.gathering.taken) unsent
      distance) := by
  refine ⟨distance_change_peer .., ?_⟩
  by_cases nothing : part = []
  · subst nothing
    rw [List.append_nil] at contents_eq
    rw [List.nil_append] at whole
    refine .inr ⟨?_, ?_⟩
    · change 2 * unsent.length + fifo.contents.length = _
      rw [contents_eq, ← whole, load]
    · rw [distance_change_self]
      rcases closer rfl with nearer | ⟨isHasty, remains⟩
      · refine .inl ⟨stage_le id contents_eq ?_, nearer⟩
        rw [distance_change_self]
        exact Nat.le_of_lt nearer
      · have remains' : fifo.contents ≠ [] := contents_eq ▸ remains
        refine .inr ⟨isHasty, ?_, ?_⟩
        · rw [turn, stage_of_remaining remains]
          split <;> decide
        · rw [stage_of_remaining remains, stage_of_remaining remains']
          rfl
  · have more := List.length_pos_iff.mpr nothing
    left
    change 2 * unsent.length + fifo.contents.length < _
    rw [contents_eq, load, whole]
    simp only [List.length_append]
    omega

/-- A consumer takes bytes out of the FIFO, comes closer to its end, or tries in vain while it is
the producer's turn. -/
theorem next_of_catches (taken : List UInt8) (distance : Nat)
    (come : prospect.gathering.presence .consumer ≠ .away → presence ≠ .away)
    (closer : fifo.contents.length < prospect.gathering.fifo.contents.length ∨
      fifo.contents = prospect.gathering.fifo.contents ∧
        (distance < prospect.distance .consumer ∨
          hasty .consumer = true ∧ prospect.stage = 1)) :
    Next hasty .consumer prospect (prospect.change .consumer
      (prospect.gathering.change .consumer fifo presence seat taken) prospect.unsent
      distance) := by
  refine ⟨distance_change_peer .., ?_⟩
  rcases closer with fewer | ⟨same, closer⟩
  · left
    change 2 * prospect.unsent.length + fifo.contents.length < _
    rw [load]
    omega
  · refine .inr ⟨?_, ?_⟩
    · change 2 * prospect.unsent.length + fifo.contents.length = _
      rw [same, load]
    · rw [distance_change_self]
      rcases closer with nearer | ⟨isHasty, now⟩
      · refine .inl ⟨stage_le ?_ same (Nat.le_refl _), nearer⟩
        intro isAway
        rw [change, Gathering.presence_change_self] at isAway
        exact not_not.mp fun come' => come come' isAway
      · obtain ⟨come', empty, unfinished⟩ := stage_eq_one_iff.mp now
        refine .inr ⟨isHasty, ?_, ?_⟩
        · rw [turn, if_pos now]
          decide
        · rw [now, stage_eq_one_iff]
          refine ⟨?_, same.trans empty, unfinished⟩
          rw [change, Gathering.presence_change_self]
          exact come come'

end Change

end Rank

end Prospect

end BoundedStream
