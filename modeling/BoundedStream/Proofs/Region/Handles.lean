import BoundedStream.Proofs.Region.Table

/-!
# Joining and leaving

A region that is joined counts one more handle and is mapped once more, unless it refuses,
and then nothing about it has changed.  A region that is left counts one handle less, and
the last handle to leave destroys the ring and takes the key away.
-/

namespace BoundedStream

namespace Region

/-! ## Counting -/

/-- Few handles are never so many that their number wraps round to zero. -/
theorem ofNat_eq_zero_iff {count : Nat} (few : count < 1 <<< 32) :
    Int32.ofNat count = 0 ↔ count = 0 := by
  constructor
  · intro zero
    have bits : count % (1 <<< 32) = 0 :=
      congrArg (fun number => number.toBitVec.toNat) zero
    rwa [Nat.mod_eq_of_lt few] at bits
  · rintro rfl
    rfl

theorem ofNat_succ_sub_one (count : Nat) :
    Int32.ofNat (count + 1) - 1 = Int32.ofNat count := by
  rw [Int32.ofNat_add]
  exact Int32.add_sub_cancel _ _

/-- When one entry of a list takes the place of another, the number of those that pass a test
changes by the two of them alone. -/
theorem countP_set_add {Entry : Type} {entries : List Entry} {index : Nat} {old : Entry}
    (present : entries[index]? = some old) (new : Entry) (test : Entry → Bool) :
    (entries.set index new).countP test + (test old).toNat =
      entries.countP test + (test new).toNat := by
  obtain ⟨inside, isOld⟩ := List.getElem?_eq_some_iff.mp present
  have member : old ∈ entries := List.mem_of_getElem? present
  have counted : test old = true → 0 < entries.countP test := fun passes =>
    List.countP_pos_iff.mpr ⟨old, member, passes⟩
  rw [List.countP_set inside, isOld]
  cases passes : test old with
  | false => cases test new <;> simp
  | true =>
      have positive := counted passes
      cases test new <;> simp <;> omega

/-! ## Joining and leaving -/

variable (region : Region)

/-- The region with one more handle. -/
def joined : Region :=
  { region with references := region.references + 1, mappings := region.mappings + 1 }

/-- The region with one handle less, which was not the last one. -/
def left : Region :=
  { region with references := region.references - 1, mappings := region.mappings - 1 }

/-- The region without its last handle. -/
def closed : Region :=
  { region.left with destructions := region.destructions + 1, removed := true }

theorem refusal?_eq_none {region : Region} (path : String)
    (size_eq : region.size = headerSize + region.capacity)
    (admitted : RegionTable.capacityRefusal? region.capacity = none) :
    region.refusal? path = none := by
  have bounds : ¬ (region.capacity = 0 ∨
      RegionTable.greatestCapacity < region.capacity) := by
    intro outside
    simp [RegionTable.capacityRefusal?, outside] at admitted
  simp only [RegionTable.greatestCapacity, not_or] at bounds
  obtain ⟨positive, small⟩ := bounds
  have addressed : region.announcedEnd < addressSpace := by
    simp only [announcedEnd, headerSize, addressSpace]
    omega
  have ends : region.announcedEnd = region.size := size_eq.symm
  unfold refusal?
  rw [if_neg (by omega), if_neg positive, if_neg (by omega), if_neg (by omega)]

/-- A refusal leaves the region as it was, the count of its handles included; in a crash only
the mapping stays. -/
theorem join_eq (path : String) :
    region.join path =
      match region.refusal? path with
      | some (.error error) => (.error (.error error), region)
      | some (.crash text) => (.error (.crash text), region.map)
      | none =>
        if region.references = 0 then (.error (.error (.notFound path)), region)
        else (.ok (), region.joined) := by
  unfold join
  rcases region.refusal? path with _ | error | text
  · simp only [addReference, map, dropReference, unmap, Int32.add_sub_cancel,
      Nat.add_sub_cancel]
    rfl
  · rfl
  · rfl

/-- The last handle to leave destroys the ring and takes the key away. -/
theorem leave_eq :
    region.leave =
      (region.references - 1,
        if region.references - 1 = 0 then region.closed else region.left) := by
  change (if region.references - 1 = 0 then (region.references - 1, region.closed)
    else (region.references - 1, region.left)) = _
  split <;> rfl

theorem guarded_join (path : String) : (region.join path).2.guarded = region.guarded := by
  rw [join_eq]
  split
  · rfl
  · rfl
  · split <;> rfl

theorem guarded_leave : region.leave.2.guarded = region.guarded := by
  rw [leave_eq]
  dsimp only
  split <;> rfl

end Region

end BoundedStream
