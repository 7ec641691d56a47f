import BoundedStream.Proofs.Ring.Queue
import Mathlib.Data.List.Basic

/-!
# Circular slices

The places of a circular slice are those that one comes to from an offset on, going on at
the start after the last place of the storage.  A copy into the storage writes exactly the
places of one slice, in order, and a copy out of it reads them.  Slices that share no place do
not disturb each other.
-/

namespace BoundedStream

namespace Ring

/-- The places of a circular slice, in order. -/
def slice (capacity offset count : Nat) : List Nat :=
  (List.range count).map fun index => (offset + index) % capacity

section Slices

variable {capacity offset count place : Nat}

@[simp]
theorem length_slice (capacity offset count : Nat) :
    (slice capacity offset count).length = count := by
  simp [slice]

theorem mem_slice :
    place ∈ slice capacity offset count ↔
      ∃ index < count, (offset + index) % capacity = place := by
  simp [slice]

end Slices

/-! ## Copies along slices -/

/-- A ring after a copy into its storage. -/
def fill (ring : Ring) (offset : Nat) (data : List UInt8) : Ring :=
  { ring with storage := ring.copyIn offset data }

section Copies

variable {ring : Ring} {offset : Nat} {data : List UInt8}

/-- No copy reaches beyond the end of the storage. -/
theorem get_copyIn_of_le (offset_lt : offset < ring.capacity)
    (fits : data.length ≤ ring.capacity) {place : Nat} (beyond : ring.capacity ≤ place) :
    (ring.copyIn offset data).get place = ring.storage.get place := by
  have firstPiece :
      (ring.storage.write offset
        (data.take (min data.length (ring.capacity - offset)))).get place =
        ring.storage.get place :=
    Storage.get_write_of_outside _ _ _ _ (by rw [List.length_take]; omega)
  unfold copyIn
  dsimp only
  split
  · rw [Storage.get_write_of_outside _ _ _ _ (by rw [List.length_drop]; omega), firstPiece]
  · exact firstPiece

theorem get_fill_of_not_mem (offset_lt : offset < ring.capacity)
    (fits : data.length ≤ ring.capacity) {place : Nat}
    (outside : place ∉ slice ring.capacity offset data.length) :
    (ring.fill offset data).storage.get place = ring.storage.get place := by
  by_cases inside : place < ring.capacity
  · refine get_copyIn_of_outside offset_lt fits ?_ inside
    rintro index index_lt rfl
    exact outside (mem_slice.mpr ⟨index, index_lt, rfl⟩)
  · exact get_copyIn_of_le offset_lt fits (Nat.le_of_not_lt inside)

theorem copyOut_eq_map_slice (offset_lt : offset < ring.capacity) {count : Nat}
    (count_le : count ≤ ring.capacity) :
    ring.copyOut offset count =
      (slice ring.capacity offset count).map ring.storage.get := by
  rw [copyOut_eq_map offset_lt count_le, slice, List.map_map]
  rfl

theorem copyOut_fill {source count : Nat} (source_lt : source < ring.capacity)
    (count_le : count ≤ ring.capacity) :
    (ring.fill offset data).copyOut source count =
      (slice ring.capacity source count).map (ring.fill offset data).storage.get := by
  have inside : source < (ring.fill offset data).capacity := source_lt
  exact copyOut_eq_map_slice inside count_le

/-- What was copied in is what is copied out again. -/
theorem copyOut_fill_self (offset_lt : offset < ring.capacity)
    (fits : data.length ≤ ring.capacity) :
    (ring.fill offset data).copyOut offset data.length = data := by
  rw [copyOut_fill offset_lt fits]
  apply List.ext_getElem
  · simp
  · intro index _ inside
    simp only [slice, List.getElem_map, List.getElem_range]
    exact get_copyIn offset_lt fits inside

/-- A copy into one slice does not change what is copied out of another one that shares no
place with it. -/
theorem copyOut_fill_of_disjoint (offset_lt : offset < ring.capacity)
    (fits : data.length ≤ ring.capacity) {source count : Nat}
    (source_lt : source < ring.capacity) (count_le : count ≤ ring.capacity)
    (disjoint : (slice ring.capacity offset data.length).Disjoint
      (slice ring.capacity source count)) :
    (ring.fill offset data).copyOut source count = ring.copyOut source count := by
  rw [copyOut_fill source_lt count_le, copyOut_eq_map_slice source_lt count_le]
  apply List.map_congr_left
  intro place read
  exact get_fill_of_not_mem offset_lt fits fun written => disjoint written read

/-- The two pieces of a split copy are one circular slice.  A copy in writes the data to its
places and nothing anywhere else, a copy out reads its places and writes nothing; what was
copied in is copied out again, and slices that share no place do not disturb each other.
These are the copies that calls make, at the head and at the tail. -/
theorem copies_along_slices (offset_lt : offset < ring.capacity)
    (fits : data.length ≤ ring.capacity) :
    (∀ index (inside : index < data.length),
        (ring.fill offset data).storage.get ((offset + index) % ring.capacity) =
          data[index]) ∧
      (∀ place, (∀ index < data.length, (offset + index) % ring.capacity ≠ place) →
        (ring.fill offset data).storage.get place = ring.storage.get place) ∧
      (ring.fill offset data).copyOut offset data.length = data ∧
      (∀ wait, (RingRequest.produce data wait).copy { ring with head := offset } =
        ({ ring.fill offset data with head := offset }, .produced data.length)) ∧
      ∀ source count, source < ring.capacity → count ≤ ring.capacity →
        (ring.copyOut source count = (List.range count).map fun index =>
            ring.storage.get ((source + index) % ring.capacity)) ∧
          (∀ wait, (RingRequest.consume count wait).copy { ring with tail := source } =
            ({ ring with tail := source }, .consumed (ring.copyOut source count))) ∧
          ((∀ first < data.length, ∀ second < count,
              (offset + first) % ring.capacity ≠ (source + second) % ring.capacity) →
            (ring.fill offset data).copyOut source count = ring.copyOut source count) := by
  refine ⟨fun index inside => get_copyIn offset_lt fits inside, ?_,
    copyOut_fill_self offset_lt fits, fun wait => rfl, ?_⟩
  · intro place outside
    refine get_fill_of_not_mem offset_lt fits fun member => ?_
    obtain ⟨index, inside, reached⟩ := mem_slice.mp member
    exact outside index inside reached
  · intro source count source_lt count_le
    refine ⟨copyOut_eq_map source_lt count_le, fun wait => rfl, fun apart => ?_⟩
    refine copyOut_fill_of_disjoint offset_lt fits source_lt count_le ?_
    intro place written read
    obtain ⟨first, firstInside, rfl⟩ := mem_slice.mp written
    obtain ⟨second, secondInside, same⟩ := mem_slice.mp read
    exact apart first firstInside second secondInside same.symm

/-- Four bytes that go round the end of a storage of eight leave the four in the middle as
they are. -/
theorem copies_along_slices_of_eight_places :
    let ring : Ring := ⟨8, 0, 0, 8, ⟨#[0, 1, 2, 3, 4, 5, 6, 7]⟩⟩
    let data : List UInt8 := [97, 98, 99, 100]
    6 < ring.capacity ∧ data.length ≤ ring.capacity ∧
      (ring.fill 6 data).copyOut 6 4 = data ∧
      (ring.fill 6 data).copyOut 2 4 = [2, 3, 4, 5] := by
  intro ring data
  have inside : 6 < ring.capacity := by decide
  have fits : data.length ≤ ring.capacity := by decide
  obtain ⟨-, -, again, -, others⟩ := copies_along_slices inside fits
  obtain ⟨middle, -, undisturbed⟩ := others 2 4 (by decide) (by decide)
  exact ⟨inside, fits, again, (undisturbed (by decide)).trans (middle.trans rfl)⟩

end Copies

end Ring

end BoundedStream
