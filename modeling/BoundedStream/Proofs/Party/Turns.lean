import Mathlib.Logic.Relation
import Mathlib.Order.WellFounded

/-!
# Taking turns

Several actors take steps in any order.  Suppose that as long as somebody can go on there is one
whose turn it is: it can go on, which brings the end closer, and what the others do either brings
it closer too or leaves the turn and the way to go as they are.  Then the end can always be
reached, and no run goes on for ever, unless it leaves somebody out who could go on.
-/

namespace BoundedStream

variable {Actor State Rank : Type} {Step : Actor → State → State → Prop} {state later : State}

/-- What may come about by the steps of all actors. -/
def Reaches (Step : Actor → State → State → Prop) : State → State → Prop :=
  Relation.ReflTransGen fun state later => ∃ actor, Step actor state later

/-- Nobody can go on. -/
def AtRest (Step : Actor → State → State → Prop) (state : State) : Prop :=
  ∀ actor later, ¬ Step actor state later

/-- A run without an end. -/
structure EndlessRun (Step : Actor → State → State → Prop) where
  state : Nat → State
  /-- Who goes on at each time. -/
  actor : Nat → Actor
  steps : ∀ time, Step (actor time) (state time) (state (time + 1))

/-- From any time on, everybody goes on at some time, or cannot. -/
def EndlessRun.Fair (run : EndlessRun Step) : Prop :=
  ∀ actor time, ∃ wait, run.actor (time + wait) = actor ∨
    ∀ later, ¬ Step actor (run.state (time + wait)) later

theorem AtRest.eq_of_reaches (rests : AtRest Step state) (reaches : Reaches Step state later) :
    later = state := by
  cases Relation.ReflTransGen.cases_head reaches with
  | inl same => exact same.symm
  | inr next =>
      obtain ⟨_, ⟨actor, step⟩, -⟩ := next
      exact absurd step (rests actor _)

/-- In a state that stands at a rank it is somebody's turn, whose step lowers the rank.  The
others leave rank and turn as they are, or lower the rank too, which they always do if all are
patient. -/
structure TakesTurns [LT Rank] (Step : Actor → State → State → Prop)
    (Stands : State → Rank → Actor → Prop) (patient : Prop) : Prop where
  goes : ∀ {state rank turn}, Stands state rank turn →
    (∃ later, Step turn state later) ∨ AtRest Step state
  lowers : ∀ {state rank turn actor later}, Stands state rank turn → Step actor state later →
    ∃ rank' turn', Stands later rank' turn' ∧
      (rank' < rank ∨ ¬ patient ∧ actor ≠ turn ∧ rank' = rank ∧ turn' = turn)

namespace TakesTurns

variable [LT Rank] {Stands : State → Rank → Actor → Prop} {patient : Prop} {rank : Rank}
  {turn : Actor} (takes : TakesTurns Step Stands patient)

include takes

theorem reaches (stands : Stands state rank turn) (reaches : Reaches Step state later) :
    ∃ rank turn, Stands later rank turn := by
  induction reaches with
  | refl => exact ⟨rank, turn, stands⟩
  | tail _ step ih =>
      obtain ⟨rank, turn, stands⟩ := ih
      obtain ⟨actor, step⟩ := step
      obtain ⟨rank', turn', stands', -⟩ := takes.lowers stands step
      exact ⟨rank', turn', stands'⟩

variable [WellFoundedLT Rank]

/-- The end is reached when everybody goes on whose turn it is. -/
theorem comes_to_rest (stands : Stands state rank turn) :
    ∃ last, Reaches Step state last ∧ AtRest Step last := by
  induction rank using WellFoundedLT.induction generalizing state turn with
  | ind rank ih =>
      rcases takes.goes stands with ⟨next, step⟩ | rests
      · obtain ⟨rank', turn', stands', closer | ⟨-, other, -⟩⟩ := takes.lowers stands step
        · obtain ⟨last, reaches, rests⟩ := ih rank' closer stands'
          exact ⟨last, .head ⟨turn, step⟩ reaches, rests⟩
        · exact absurd rfl other
      · exact ⟨state, .refl, rests⟩

/-- A run in which it is somebody's turn and nobody is left out ends, and any run if nobody is
impatient. -/
theorem not_endless (run : EndlessRun Step) {time : Nat}
    (stands : Stands (run.state time) rank turn) : ¬ (patient ∨ run.Fair) := by
  intro fair
  induction rank using WellFoundedLT.induction generalizing time turn with
  | ind rank ih =>
      have soon : patient ∨ ∃ wait, run.actor (time + wait) = turn ∨
          ∀ later, ¬ Step turn (run.state (time + wait)) later :=
        fair.imp_right fun fair => fair turn time
      rcases soon with isPatient | ⟨wait, soon⟩
      · obtain ⟨rank', turn', stands', closer | ⟨impatient, -⟩⟩ :=
          takes.lowers stands (run.steps time)
        · exact ih rank' closer stands'
        · exact impatient isPatient
      · -- Until the turn is taken, either the rank falls or everything stays as it is.
        induction wait generalizing time with
        | zero =>
            rcases soon with taken | unable
            · obtain ⟨rank', turn', stands', closer | ⟨-, other, -⟩⟩ :=
                takes.lowers stands (run.steps time)
              · exact ih rank' closer stands'
              · exact other taken
            · rcases takes.goes stands with ⟨later, step⟩ | rests
              · exact unable later step
              · exact rests _ _ (run.steps time)
        | succ wait hypothesis =>
            obtain ⟨rank', turn', stands', closer | ⟨-, -, rfl, rfl⟩⟩ :=
              takes.lowers stands (run.steps time)
            · exact ih rank' closer stands'
            · refine hypothesis stands' ?_
              rwa [Nat.add_assoc, Nat.add_comm 1]

end TakesTurns

end BoundedStream
