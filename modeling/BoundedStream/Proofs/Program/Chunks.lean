import BoundedStream.Program.Consume
import BoundedStream.Program.Produce
import Mathlib.Logic.Relation

/-!
# Chunks of a stream

Whatever its surroundings answer, a producer sends its input in slices that are never empty
and never longer than a chunk.  For a ring a chunk is at most half of the capacity, and one
byte where that would be nothing, so every slice is one that the ring can serve.  A consumer
asks for at least a byte, and for no more than its own chunk and its limit allow.
-/

namespace BoundedStream

/-- A program goes on with some answer to what it asks. -/
inductive Turn.GoesOn {State Result : Type} (turn : State → Turn State Result) :
    State → State → Prop
  | answer {state : State} (request : ProgramRequest)
      (resume : ProgramReply request → State) (asks : turn state = .ask request resume)
      (reply : ProgramReply request) : GoesOn turn state (resume reply)

def ProgramRequest.isTransfer : ProgramRequest → Bool
  | send _ | receive _ | countPending => true
  | _ => false

/-! ## Slices of a producer -/

/-- What a delivery still has to offer is not empty and has at most so many bytes. -/
def Delivery.Within (bound : Nat) : Delivery → Prop
  | .offering rest | .resting rest => 0 < rest.length ∧ rest.length ≤ bound
  | .delivered | .failed _ => True

namespace Delivery

variable {bound : Nat} {data rest : List UInt8}

theorem within_start (short : data.length ≤ bound) : (start data).Within bound := by
  cases data with
  | nil => trivial
  | cons byte data => exact ⟨Nat.succ_pos _, short⟩

theorem within_answered (positive : 0 < rest.length) (short : rest.length ≤ bound)
    (reply : Except StreamError (Fin (rest.length + 1))) :
    (answered rest reply).Within bound := by
  cases reply with
  | ok count =>
      simp only [answered]
      split
      · trivial
      · refine within_start ?_
        rw [List.length_drop]
        omega
  | error error =>
      simp only [answered]
      split
      · exact ⟨positive, short⟩
      · split
        · exact ⟨positive, short⟩
        · trivial

end Delivery

/-- A producer that has opened its endpoint reads chunks of at most so many bytes and has a
slice of one to send. -/
def ProducePhase.Slices (bound : Nat) : ProducePhase → Prop
  | .openingInput | .connecting => False
  | .allocating chunk | .reading chunk => chunk ≤ bound
  | .sending chunk _ rest | .delaying chunk _ rest =>
    chunk ≤ bound ∧ 0 < rest.length ∧ rest.length ≤ bound
  | .draining _ | .observing _ _ | .resting _ | .leaving _ | .finished _ => True

namespace Production

variable {production later : Production} {bound : Nat}

theorem slices_deliver {size : Nat} {data : List UInt8} {delivery : Delivery}
    (small : size ≤ bound) (within : delivery.Within bound) :
    (production.deliver size data delivery).phase.Slices bound := by
  cases delivery with
  | offering rest => exact ⟨small, within⟩
  | resting rest => exact ⟨small, within⟩
  | delivered => exact small
  | failed error => trivial

theorem slices_goesOn (goesOn : Turn.GoesOn turn production later)
    (slices : production.phase.Slices bound) : later.phase.Slices bound := by
  obtain ⟨request, resume, asks, reply⟩ := goesOn
  unfold turn at asks
  split at asks <;> rename_i isPhase <;> rw [isPhase] at slices <;> cases asks
  · exact slices.elim
  · exact slices.elim
  · exact slices
  · rcases reply with error | ⟨_ | ⟨byte, data⟩, short⟩
    · simp only [inputRead]
      split
      · exact slices
      · trivial
    · trivial
    · exact slices_deliver slices (Delivery.within_start (Nat.le_trans short slices))
  · obtain ⟨small, positive, short⟩ := slices
    exact slices_deliver small (Delivery.within_answered positive short reply)
  · obtain ⟨small, positive, short⟩ := slices
    exact slices_deliver small ⟨positive, short⟩
  · rcases reply with error | _ | pending <;> trivial
  · simp only [referencesCounted]
    split <;> trivial
  · trivial
  · trivial

theorem slices_reaches (reaches : Relation.ReflTransGen (Turn.GoesOn turn) production later)
    (slices : production.phase.Slices bound) : later.phase.Slices bound := by
  induction reaches with
  | refl => exact slices
  | tail _ goesOn hypothesis => exact slices_goesOn goesOn hypothesis

theorem quick_of_asks {request : ProgramRequest} {resume : ProgramReply request → Production}
    (asks : production.turn = .ask request resume)
    (sends : ∀ chunk data rest, production.phase ≠ .sending chunk data rest)
    (counts : ∀ peerSeen, production.phase ≠ .draining peerSeen) :
    request.isTransfer = false := by
  unfold turn at asks
  split at asks <;> rename_i isPhase <;> cases asks <;> first
    | rfl
    | exact absurd isPhase (sends _ _ _)
    | exact absurd isPhase (counts _)

theorem chunkFor_le (chunk capacity : Nat) :
    chunkFor chunk (some capacity) ≤ max 1 (capacity / 2) :=
  Nat.min_le_right _ _

/-- Some producer that has opened an endpoint with a ring of the capacity comes to send the
data, whatever it was answered before and since. -/
def Slice (capacity : Nat) (data : List UInt8) : Prop :=
  ∃ config input chunk before later,
    Relation.ReflTransGen (Turn.GoesOn turn) (start config input chunk) before ∧
      before.phase = .connecting ∧
      Relation.ReflTransGen (Turn.GoesOn turn) (before.connected (.ok (some capacity))) later ∧
      later.turn.request? = some (.send data)

theorem Slices.length_of_allocate {length : Nat} (slices : production.phase.Slices bound)
    (asks : production.turn.request? = some (.allocate length)) : length ≤ bound := by
  unfold turn at asks
  split at asks <;> rename_i isPhase <;> cases asks
  rw [isPhase] at slices
  exact slices

theorem Slices.not_connect {config : Config} {role : Role}
    (slices : production.phase.Slices bound) :
    production.turn.request? ≠ some (.connect config role) := by
  intro asks
  unfold turn at asks
  split at asks <;> rename_i isPhase <;> cases asks
  rw [isPhase] at slices
  exact slices

theorem Slices.length_of_send {data : List UInt8} (slices : production.phase.Slices bound)
    (sends : production.turn.request? = some (.send data)) :
    0 < data.length ∧ data.length ≤ bound := by
  unfold turn at sends
  split at sends <;> rename_i isPhase <;> cases sends
  rw [isPhase] at slices
  exact slices.2

/-- The slices for a ring are what has some bytes, and at most half as many as it or one. -/
theorem slice_iff {capacity : Nat} {data : List UInt8} :
    Slice capacity data ↔ 0 < data.length ∧ data.length ≤ max 1 (capacity / 2) := by
  constructor
  · rintro ⟨config, input, chunk, before, later, -, -, reaches, sends⟩
    have opened : (before.connected (.ok (some capacity))).phase.Slices
        (chunkFor before.chunk (some capacity)) := Nat.le_refl _
    obtain ⟨positive, short⟩ :=
      Slices.length_of_send (slices_reaches reaches opened) sends
    exact ⟨positive, Nat.le_trans short (chunkFor_le before.chunk capacity)⟩
  · rintro ⟨positive, short⟩
    -- A producer with chunks of just this size reads the data at once.
    have nonzero : data.length ≠ 0 := Nat.ne_of_gt positive
    have whole : chunkFor data.length (some capacity) = data.length := Nat.min_eq_left short
    let begun : Production := start default none data.length
    have opens : begun.turn = .ask (.openInput none) begun.inputOpened := by
      simp [begun, start, nonzero, turn]
    let before : Production := begun.goTo .connecting
    let reading : Production := before.goTo (.reading data.length)
    have connects :
        before.connected (.ok (some capacity)) = before.goTo (.allocating data.length) := by
      rw [← whole]
      rfl
    have allocates : (before.connected (.ok (some capacity))).turn =
        .ask (.allocate data.length) fun _ => reading := by
      rw [connects]
      rfl
    have reads : reading.turn =
        .ask (.readInput data.length) (reading.inputRead data.length) := rfl
    refine ⟨default, none, data.length, before, _,
      .single (.answer _ _ opens (.ok ())), rfl,
      .head (.answer _ _ allocates ())
        (.single (.answer _ _ reads (.ok ⟨data, Nat.le_refl _⟩))), ?_⟩
    cases data with
    | nil => cases positive
    | cons byte data => rfl

end Production

/-! ## Wants of a consumer -/

def ConsumePhase.isElsewhere : ConsumePhase → Bool
  | counting _ | observing _ | resting _ | receiving _ => false
  | _ => true

namespace Consumption

/-- How a round goes on that wants so many bytes. -/
inductive Leads : ConsumePhase → ConsumePhase → Prop
  | observe (want : Nat) : Leads (.counting want) (.observing want)
  | rest (want : Nat) : Leads (.observing want) (.resting want)
  | recount (want : Nat) : Leads (.resting want) (.counting want)
  | receive (want length : Nat) (some : 1 ≤ want → 1 ≤ length) (few : length ≤ want) :
      Leads (.counting want) (.receiving length)
  | leave (phase phase' : ConsumePhase) (elsewhere : phase'.isElsewhere = true) :
      Leads phase phase'

/-- What becomes of a consumer that is answered: it begins a round, or goes on with it. -/
inductive Next (consumption : Consumption) : Consumption → Prop
  | begin (summary : Summary) : Next consumption { consumption with summary }.begin
  | goTo (phase : ConsumePhase) (leads : Leads consumption.phase phase) :
      Next consumption (consumption.goTo phase)

variable {consumption later : Consumption}

theorem next_of_goesOn (goesOn : Turn.GoesOn turn consumption later) :
    Next consumption later := by
  obtain ⟨request, resume, asks, reply⟩ := goesOn
  have leaves : ∀ phase : ConsumePhase, phase.isElsewhere = true →
      Next consumption (consumption.goTo phase) := fun phase elsewhere =>
    .goTo phase (.leave consumption.phase phase elsewhere)
  have reaches : ∀ phase : ConsumePhase, Leads consumption.phase phase →
      Next consumption (consumption.goTo phase) := .goTo
  unfold turn at asks
  split at asks <;> rename_i isPhase <;> rw [isPhase] at reaches <;> cases asks
  · cases reply <;> exact leaves _ rfl
  · cases reply <;> exact leaves _ rfl
  · exact .begin consumption.summary
  · rcases reply with error | _ | _ | pending
    · exact leaves _ rfl
    · exact reaches _ (.receive _ _ id (Nat.le_refl _))
    · exact reaches _ (.observe _)
    · exact reaches _ (.receive _ _ (by omega) (Nat.min_le_right _ _))
  · simp only [referencesCounted]
    split
    · exact leaves _ rfl
    · exact reaches _ (.rest _)
  · exact reaches _ (.recount _)
  · rcases reply with error | ⟨_ | ⟨byte, data⟩, short⟩
    · simp only [received]
      split
      · exact .begin consumption.summary
      · split <;> exact leaves _ rfl
    · exact leaves _ rfl
    · exact leaves _ rfl
  · exact .begin consumption.summary
  · cases reply
    · exact leaves _ rfl
    · exact .begin _
  · cases reply <;> exact leaves _ rfl
  · exact leaves _ rfl

theorem quick_of_asks {request : ProgramRequest} {resume : ProgramReply request → Consumption}
    (asks : consumption.turn = .ask request resume)
    (counts : ∀ want, consumption.phase ≠ .counting want)
    (receives : ∀ length, consumption.phase ≠ .receiving length) :
    request.isTransfer = false := by
  unfold turn at asks
  split at asks <;> rename_i isPhase <;> cases asks <;> first
    | rfl
    | exact absurd isPhase (counts _)
    | exact absurd isPhase (receives _)

@[simp]
theorem chunk_begin (consumption : Consumption) :
    consumption.begin.chunk = consumption.chunk := by
  unfold begin
  split <;> rfl

theorem Next.chunk_eq (next : Next consumption later) : later.chunk = consumption.chunk := by
  cases next with
  | begin summary => exact chunk_begin _
  | goTo phase leads => rfl

theorem Next.limit_eq (next : Next consumption later) : later.limit = consumption.limit := by
  cases next with
  | begin summary =>
      unfold Consumption.begin
      split <;> rfl
  | goTo phase leads => rfl

/-- What a consumer asks for, or is about to, is at least a byte and no more than it wants. -/
def Aims (consumption : Consumption) : Prop :=
  match consumption.phase with
  | .counting want | .observing want | .resting want => consumption.want? = some want
  | .receiving length =>
    ∃ want, consumption.want? = some want ∧ 1 ≤ length ∧ length ≤ want
  | _ => True

theorem want?_pos (positive : 1 ≤ consumption.chunk) {want : Nat}
    (wanted : consumption.want? = some want) : 1 ≤ want := by
  unfold want? at wanted
  split at wanted
  · cases wanted
    exact positive
  · split at wanted <;> cases wanted
    omega

theorem Next.aims (next : Next consumption later) (positive : 1 ≤ consumption.chunk)
    (aims : consumption.Aims) : later.Aims := by
  cases next with
  | begin summary =>
      unfold Consumption.begin
      split
      · trivial
      · rename_i want wanted
        exact wanted
  | goTo phase leads =>
      obtain ⟨config, output, limit, chunk, summary, _⟩ := consumption
      cases leads with
      | observe want => exact aims
      | rest want => exact aims
      | recount want => exact aims
      | receive want length some few => exact ⟨want, aims, some (want?_pos positive aims), few⟩
      | leave _ _ elsewhere => cases phase <;> trivial

theorem Next.counting_of_receiving (next : Next consumption later) {length : Nat}
    (receives : later.phase = .receiving length) :
    ∃ want, consumption.phase = .counting want := by
  cases next with
  | begin summary =>
      unfold Consumption.begin at receives
      split at receives <;> cases receives
  | goTo phase leads =>
      obtain ⟨config, output, limit, chunk, summary, _⟩ := consumption
      cases receives
      cases leads with
      | receive want length some few => exact ⟨want, rfl⟩
      | leave _ _ elsewhere => cases elsewhere

end Consumption

end BoundedStream
