import BoundedStream.Ring
import Mathlib.Tactic.ByContra

/-!
# Circular copies

A copy that reaches the end of the storage goes on at its start.  The two pieces of such
a copy are read and written here as one circular slice: the byte so many places after an
offset lies at the sum modulo the capacity.  A copy into a circular slice leaves every
byte outside of the slice as it was.
-/

namespace BoundedStream

namespace Storage

theorem get_set (storage : Storage) (offset other : Nat) (byte : UInt8) :
    (storage.set offset byte).get other =
      if other = offset then byte else storage.get other := by
  unfold set get
  by_cases inside : offset < storage.bytes.size
  · simp only [inside, if_true, Array.getD_eq_getD_getElem?,
      Array.getElem?_setIfInBounds, eq_comm (a := offset)]
    split <;> simp_all
  · simp only [inside, if_false, Array.getD_eq_getD_getElem?, Array.getElem?_push,
      Array.size_append, Array.size_replicate]
    have filled : storage.bytes.size + (offset - storage.bytes.size) = offset := by omega
    rw [filled]
    split
    · rfl
    · rw [Array.getElem?_append]
      split
      · rfl
      · rename_i beyond
        rw [Array.getElem?_replicate, Array.getElem?_eq_none (by omega)]
        split <;> rfl

theorem get_write_of_outside (storage : Storage) (offset other : Nat)
    (data : List UInt8)
    (outside : other < offset ∨ offset + data.length ≤ other) :
    (storage.write offset data).get other = storage.get other := by
  induction data generalizing storage offset with
  | nil => rfl
  | cons byte data ih =>
      rw [List.length_cons] at outside
      rw [write, ih _ _ (by omega), get_set, if_neg (by omega)]

theorem get_write (storage : Storage) (offset index : Nat) (data : List UInt8)
    (inside : index < data.length) :
    (storage.write offset data).get (offset + index) = data[index] := by
  induction data generalizing storage offset index with
  | nil => simp at inside
  | cons byte data ih =>
      cases index with
      | zero =>
          rw [write, get_write_of_outside _ _ _ _ (by omega), get_set,
            if_pos (by omega)]
          rfl
      | succ index =>
          have tail := ih (storage.set offset byte) (offset + 1) index
            (by simpa using inside)
          rw [write, show offset + (index + 1) = offset + 1 + index by omega, tail]
          rfl

end Storage

namespace Ring

/-- Before the end of the storage a circular place is the plain sum. -/
theorem place_of_lt {capacity offset index : Nat} (before : offset + index < capacity) :
    (offset + index) % capacity = offset + index :=
  Nat.mod_eq_of_lt before

/-- Behind the end of the storage a circular place starts again from zero. -/
theorem place_of_le {capacity offset index : Nat} (offset_lt : offset < capacity)
    (index_le : index ≤ capacity) (behind : capacity ≤ offset + index) :
    (offset + index) % capacity = offset + index - capacity := by
  rw [Nat.mod_eq_sub_mod behind, Nat.mod_eq_of_lt (by omega)]

/-- Places less than a whole round apart are distinct. -/
theorem place_injective {capacity offset first second : Nat}
    (offset_lt : offset < capacity) (first_lt : first < capacity)
    (second_lt : second < capacity)
    (same : (offset + first) % capacity = (offset + second) % capacity) :
    first = second := by
  by_cases firstBefore : offset + first < capacity <;>
    by_cases secondBefore : offset + second < capacity
  · rw [place_of_lt firstBefore, place_of_lt secondBefore] at same
    omega
  · rw [place_of_lt firstBefore,
      place_of_le offset_lt (by omega) (by omega)] at same
    omega
  · rw [place_of_le offset_lt (by omega) (by omega),
      place_of_lt secondBefore] at same
    omega
  · rw [place_of_le offset_lt (by omega) (by omega),
      place_of_le offset_lt (by omega) (by omega)] at same
    omega

section Copies

variable {ring : Ring} {offset : Nat} {data : List UInt8}

theorem get_copyIn (offset_lt : offset < ring.capacity)
    (fits : data.length ≤ ring.capacity) {index : Nat} (inside : index < data.length) :
    (ring.copyIn offset data).get ((offset + index) % ring.capacity) = data[index] := by
  unfold copyIn
  by_cases before : offset + index < ring.capacity
  · rw [place_of_lt before]
    have taken : index < (data.take (min data.length (ring.capacity - offset))).length := by
      rw [List.length_take]
      omega
    have written := Storage.get_write ring.storage offset index _ taken
    rw [List.getElem_take] at written
    dsimp only
    split
    · -- The second piece ends before the offset at which the first one starts.
      rw [Storage.get_write_of_outside _ _ _ _
        (by rw [List.length_drop]; omega), written]
    · exact written
  · rw [place_of_le offset_lt (by omega) (by omega)]
    have wraps : min data.length (ring.capacity - offset) < data.length := by omega
    have rest : index - (ring.capacity - offset) <
        (data.drop (min data.length (ring.capacity - offset))).length := by
      rw [List.length_drop]
      omega
    have written := Storage.get_write
      (ring.storage.write offset
        (data.take (min data.length (ring.capacity - offset)))) 0 _ _ rest
    rw [List.getElem_drop] at written
    dsimp only
    rw [if_pos wraps]
    have place : offset + index - ring.capacity =
        0 + (index - (ring.capacity - offset)) := by omega
    have source : min data.length (ring.capacity - offset) +
        (index - (ring.capacity - offset)) = index := by omega
    rw [place, written]
    simp only [source]

/-- A copy into a circular slice leaves every byte outside of it as it was. -/
theorem get_copyIn_of_outside (offset_lt : offset < ring.capacity)
    (fits : data.length ≤ ring.capacity) {place : Nat}
    (outside : ∀ index < data.length, place ≠ (offset + index) % ring.capacity)
    (place_lt : place < ring.capacity) :
    (ring.copyIn offset data).get place = ring.storage.get place := by
  have beforeOrBehind : place < offset ∨ offset + data.length ≤ place := by
    by_contra within
    have chosen := outside (place - offset) (by omega)
    rw [place_of_lt (by omega)] at chosen
    omega
  have notWrapped : ring.capacity ≤ offset + data.length →
      offset + data.length - ring.capacity ≤ place := by
    intro wraps
    by_contra within
    have chosen := outside (place + ring.capacity - offset) (by omega)
    rw [place_of_le offset_lt (by omega) (by omega)] at chosen
    omega
  unfold copyIn
  dsimp only
  have firstPiece :
      (ring.storage.write offset
        (data.take (min data.length (ring.capacity - offset)))).get place =
        ring.storage.get place := by
    apply Storage.get_write_of_outside
    rw [List.length_take]
    omega
  split
  · rw [Storage.get_write_of_outside, firstPiece]
    rw [List.length_drop]
    omega
  · exact firstPiece

theorem copyOut_eq_map (offset_lt : offset < ring.capacity) {count : Nat}
    (count_le : count ≤ ring.capacity) :
    ring.copyOut offset count =
      (List.range count).map fun index =>
        ring.storage.get ((offset + index) % ring.capacity) := by
  unfold copyOut
  dsimp only
  split
  · rename_i wraps
    have first : min count (ring.capacity - offset) = ring.capacity - offset := by omega
    have parts : List.range count =
        List.range (ring.capacity - offset) ++
          (List.range (count - (ring.capacity - offset))).map
            fun index => ring.capacity - offset + index := by
      rw [← List.range_add]
      congr 1
      omega
    rw [first, parts, List.map_append, List.map_map]
    congr 1
    · apply List.map_congr_left
      intro index member
      rw [place_of_lt (by have := List.mem_range.mp member; omega)]
    · apply List.map_congr_left
      intro index member
      have inside := List.mem_range.mp member
      simp only [Function.comp_apply]
      rw [place_of_le offset_lt (by omega) (by omega)]
      congr 1
      omega
  · rename_i straight
    have first : min count (ring.capacity - offset) = count := by omega
    rw [first]
    apply List.map_congr_left
    intro index member
    rw [place_of_lt (by have := List.mem_range.mp member; omega)]

end Copies

end Ring

end BoundedStream
