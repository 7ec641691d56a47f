import BoundedStream.Proofs.Ring.Circular
import BoundedStream.Ring.Call

/-!
# Rings as queues

A ring stands for the queue of the bytes that it holds, oldest first.  Storing bytes at
the head appends them to the queue once they are counted, and giving bytes up at the tail
drops them from its front.  What a bounded queue answers to a request is stated on its
own, without cursors and storage.
-/

namespace BoundedStream

namespace Ring

/-- The ring holds exactly the bytes of a queue, in order from its tail. -/
structure Represents (ring : Ring) (queue : List UInt8) : Prop where
  size_eq : ring.size = queue.length
  size_le : ring.size ≤ ring.capacity
  head_lt : ring.head < ring.capacity
  tail_lt : ring.tail < ring.capacity
  head_eq : ring.head = (ring.tail + ring.size) % ring.capacity
  byte_eq : ∀ (index : Nat) (inside : index < queue.length),
    ring.storage.get ((ring.tail + index) % ring.capacity) = queue[index]

/-- The bytes from the head on are those of the data, whether they count or not. -/
def Stored (ring : Ring) (data : List UInt8) : Prop :=
  ∀ (index : Nat) (inside : index < data.length),
    ring.storage.get ((ring.head + index) % ring.capacity) = data[index]

theorem represents_empty {capacity : Nat} (positive : 0 < capacity) :
    (empty capacity).Represents [] where
  size_eq := rfl
  size_le := Nat.zero_le capacity
  head_lt := positive
  tail_lt := positive
  head_eq := (Nat.zero_mod capacity).symm
  byte_eq index inside := by simp at inside

namespace Represents

variable {ring : Ring} {queue : List UInt8}

theorem capacity_pos (represents : ring.Represents queue) : 0 < ring.capacity :=
  Nat.zero_lt_of_lt represents.tail_lt

theorem length_le (represents : ring.Represents queue) :
    queue.length ≤ ring.capacity := by
  have sizeEq := represents.size_eq
  have sizeLe := represents.size_le
  omega

theorem space_eq (represents : ring.Represents queue) :
    ring.space = ring.capacity - queue.length := by
  rw [space, represents.size_eq]

/-- A free place lies so many bytes behind the head as it lies behind the queue. -/
theorem place_eq (represents : ring.Represents queue) (index : Nat) :
    (ring.head + index) % ring.capacity =
      (ring.tail + (queue.length + index)) % ring.capacity := by
  rw [represents.head_eq, represents.size_eq, Nat.mod_add_mod, Nat.add_assoc]

theorem front_eq (represents : ring.Represents queue) {count : Nat}
    (count_le : count ≤ queue.length) : ring.front count = queue.take count := by
  have fits := represents.length_le
  rw [front, copyOut_eq_map represents.tail_lt (by omega)]
  apply List.ext_getElem
  · simp [count_le]
  · intro index inside _
    rw [List.length_map, List.length_range] at inside
    rw [List.getElem_map, List.getElem_range, List.getElem_take]
    exact represents.byte_eq index (by omega)

theorem contents_eq (represents : ring.Represents queue) : ring.contents = queue := by
  rw [contents, represents.size_eq, represents.front_eq (Nat.le_refl _),
    List.take_length]

/-- Bytes that are stored behind the queue do not touch it. -/
theorem store (represents : ring.Represents queue) {data : List UInt8}
    (fits : queue.length + data.length ≤ ring.capacity) :
    (ring.store data).Represents queue where
  size_eq := represents.size_eq
  size_le := represents.size_le
  head_lt := represents.head_lt
  tail_lt := represents.tail_lt
  head_eq := represents.head_eq
  byte_eq index inside := by
    rw [← represents.byte_eq index inside]
    have apart : ∀ other < data.length,
        (ring.tail + index) % ring.capacity ≠ (ring.head + other) % ring.capacity := by
      intro other otherInside same
      rw [represents.place_eq] at same
      have := place_injective represents.tail_lt (by omega) (by omega) same
      omega
    exact get_copyIn_of_outside represents.head_lt (by omega) apart
      (Nat.mod_lt _ represents.capacity_pos)

theorem stored_store (represents : ring.Represents queue) {data : List UInt8}
    (fits : queue.length + data.length ≤ ring.capacity) :
    (ring.store data).Stored data := by
  intro index inside
  exact get_copyIn represents.head_lt (by omega) inside

theorem commit (represents : ring.Represents queue) {data : List UInt8}
    (fits : queue.length + data.length ≤ ring.capacity) (stored : ring.Stored data) :
    (ring.commit data.length).Represents (queue ++ data) where
  size_eq := by
    rw [List.length_append, ← represents.size_eq]
    rfl
  size_le := by
    have sizeEq := represents.size_eq
    change ring.size + data.length ≤ ring.capacity
    omega
  head_lt := Nat.mod_lt _ represents.capacity_pos
  tail_lt := represents.tail_lt
  head_eq := by
    change (ring.head + data.length) % ring.capacity =
      (ring.tail + (ring.size + data.length)) % ring.capacity
    rw [represents.place_eq, represents.size_eq]
  byte_eq index inside := by
    change ring.storage.get ((ring.tail + index) % ring.capacity) = (queue ++ data)[index]
    by_cases old : index < queue.length
    · rw [List.getElem_append_left old]
      exact represents.byte_eq index old
    · have new : index - queue.length < data.length := by
        rw [List.length_append] at inside
        omega
      rw [List.getElem_append_right (by omega), ← stored _ new, represents.place_eq]
      congr 3
      omega

theorem put (represents : ring.Represents queue) {data : List UInt8}
    (fits : queue.length + data.length ≤ ring.capacity) :
    (ring.put data).Represents (queue ++ data) :=
  (represents.store fits).commit fits (represents.stored_store fits)

theorem discard (represents : ring.Represents queue) {count : Nat}
    (count_le : count ≤ queue.length) :
    (ring.discard count).Represents (queue.drop count) where
  size_eq := by
    rw [List.length_drop, ← represents.size_eq]
    rfl
  size_le := by
    have sizeLe := represents.size_le
    change ring.size - count ≤ ring.capacity
    omega
  head_lt := represents.head_lt
  tail_lt := Nat.mod_lt _ represents.capacity_pos
  head_eq := by
    have sizeEq := represents.size_eq
    change ring.head = ((ring.tail + count) % ring.capacity + (ring.size - count)) %
      ring.capacity
    rw [Nat.mod_add_mod, represents.head_eq]
    congr 1
    omega
  byte_eq index inside := by
    rw [List.length_drop] at inside
    change ring.storage.get
      (((ring.tail + count) % ring.capacity + index) % ring.capacity) = _
    rw [Nat.mod_add_mod, Nat.add_assoc, represents.byte_eq _ (by omega),
      List.getElem_drop]

end Represents

end Ring

/-- The bytes that an outcome hands out. -/
def RingOutcome.taken : RingOutcome → List UInt8
  | consumed bytes => bytes
  | _ => []

namespace RingRequest

/-- What a queue of at most `capacity` bytes answers to a request, and the queue
afterwards; there is no answer as long as the request has to wait. -/
def serve? (capacity : Nat) (queue : List UInt8) :
    RingRequest → Option (RingOutcome × List UInt8)
  | produce data wait =>
    if queue.length + data.length ≤ capacity then
      some (.produced data.length, queue ++ data)
    else if wait then none
    else some (.failed (.ringFull data.length (capacity - queue.length)), queue)
  | consume length wait =>
    if length ≤ queue.length then
      some (.consumed (queue.take length), queue.drop length)
    else if wait then none
    else some (.failed (.insufficientData length queue.length), queue)
  | measure => some (.measured queue.length, queue)

/-- The bytes that an outcome acknowledges to have been put in. -/
def acknowledged : RingRequest → RingOutcome → List UInt8
  | produce _ _, .failed _ | produce _ _, .rejected _ => []
  | produce data _, _ => data
  | _, _ => []

/-- An answer takes the bytes that it hands out from the front of the queue, and adds those
that it acknowledges at its end. -/
theorem serve?_balance {capacity : Nat} {queue queue' : List UInt8} {request : RingRequest}
    {outcome : RingOutcome} (served : request.serve? capacity queue = some (outcome, queue')) :
    outcome.taken ++ queue' = queue ++ request.acknowledged outcome := by
  cases request with
  | produce data wait =>
      by_cases fits : queue.length + data.length ≤ capacity
      · simp only [serve?, if_pos fits] at served
        cases served
        rfl
      · cases wait with
        | true => simp [serve?, fits] at served
        | false =>
            simp only [serve?, if_neg fits] at served
            cases served
            simp [acknowledged, RingOutcome.taken]
  | consume length wait =>
      by_cases fits : length ≤ queue.length
      · simp only [serve?, if_pos fits] at served
        cases served
        simp [acknowledged, RingOutcome.taken]
      · cases wait with
        | true => simp [serve?, fits] at served
        | false =>
            simp only [serve?, if_neg fits] at served
            cases served
            simp [acknowledged, RingOutcome.taken]
  | measure =>
      cases served
      simp [acknowledged, RingOutcome.taken]

/-- A queue has no answer yet to a waiting request for bytes, or places, that it lacks. -/
theorem serve?_eq_none_iff {capacity : Nat} {queue : List UInt8} {request : RingRequest} :
    request.serve? capacity queue = none ↔
      match request with
      | produce data wait => wait = true ∧ capacity < queue.length + data.length
      | consume length wait => wait = true ∧ queue.length < length
      | measure => False := by
  cases request with
  | produce data wait =>
      simp only [serve?]
      split
      · simp
        omega
      · split <;> simp_all
  | consume length wait =>
      simp only [serve?]
      split
      · simp
        omega
      · split <;> simp_all
  | measure => simp [serve?]

/-- A transfer that does not make available what a request waits for leaves it without an
answer. -/
theorem serve?_eq_none_of_served {capacity : Nat} {queue queue' : List UInt8}
    {request other : RingRequest} {outcome : RingOutcome}
    (served : other.serve? capacity queue = some (outcome, queue'))
    (unmoved : other.effect ≠ request.condition)
    (unanswered : request.serve? capacity queue = none) :
    request.serve? capacity queue' = none := by
  rw [serve?_eq_none_iff] at unanswered ⊢
  cases other with
  | measure =>
      cases served
      exact unanswered
  | produce data wait =>
      cases request with
      | consume length wait => exact absurd rfl unmoved
      | measure => exact unanswered
      | produce more patient =>
          refine ⟨unanswered.1, ?_⟩
          have lacks := unanswered.2
          simp only [serve?] at served
          split at served
          · cases served
            rw [List.length_append]
            omega
          · split at served <;> cases served
            exact lacks
  | consume length wait =>
      cases request with
      | produce data wait => exact absurd rfl unmoved
      | measure => exact unanswered
      | consume more patient =>
          refine ⟨unanswered.1, ?_⟩
          have lacks := unanswered.2
          simp only [serve?] at served
          split at served
          · cases served
            rw [List.length_drop]
            omega
          · split at served <;> cases served
            exact lacks

theorem rejection?_eq_none {capacity : Nat} {request : RingRequest}
    (positive : 0 < request.length) (fits : request.length ≤ capacity) :
    request.rejection? capacity = none := by
  have nonzero : request.length ≠ 0 := Nat.ne_of_gt positive
  have small : ¬ capacity < request.length := Nat.not_lt_of_ge fits
  cases request with
  | measure => rfl
  | _ =>
      unfold rejection?
      rw [if_neg nonzero, if_neg small]

theorem length_le_of_rejection?_eq_none {capacity : Nat} {request : RingRequest}
    (admitted : request.rejection? capacity = none) : request.length ≤ capacity := by
  cases request with
  | measure => exact Nat.zero_le capacity
  | _ =>
      simp only [rejection?] at admitted
      split at admitted
      · cases admitted
      · split at admitted
        · cases admitted
        · omega

theorem length_le_available_iff {request : RingRequest} {ring : Ring}
    {queue : List UInt8} (represents : ring.Represents queue) :
    request.length ≤ request.available ring ↔
      match request with
      | produce data _ => queue.length + data.length ≤ ring.capacity
      | consume length _ => length ≤ queue.length
      | measure => True := by
  have fits := represents.length_le
  cases request with
  | produce data wait =>
      simp only [length, available, represents.space_eq]
      omega
  | consume length wait => simp only [RingRequest.length, available, represents.size_eq]
  | measure => simp only [length, Nat.zero_le]

/-- A request that waits has no answer as long as it lacks bytes, or places for them. -/
theorem serve?_eq_none_iff_lacks {request : RingRequest} {ring : Ring} {queue : List UInt8}
    (represents : ring.Represents queue) (moves : request ≠ .measure)
    (waits : request.waits = true) :
    request.serve? ring.capacity queue = none ↔
      ¬ request.length ≤ request.available ring := by
  rw [serve?_eq_none_iff, length_le_available_iff represents]
  cases request with
  | produce data wait =>
      have isWait : wait = true := waits
      simp [isWait]
  | consume length wait =>
      have isWait : wait = true := waits
      simp [isWait]
  | measure => exact absurd rfl moves

end RingRequest

end BoundedStream
