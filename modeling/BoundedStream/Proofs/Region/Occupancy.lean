import BoundedStream.Proofs.Region.Handles
import BoundedStream.Segment
import Mathlib.Tactic.ByContra

/-!
# Occupancy of regions

Regions are made, joined, left and removed in any order, through any names of any files.
What is known of them from the outside is which of them were made, for which keys, and
which handles hold them.  Every region and the table of keys agree with that at every
moment.
-/

namespace BoundedStream

/-- What is known of a region from the outside. -/
structure Founding where
  /-- The key for which it was made. -/
  key : Nat
  /-- The capacity with which it was made. -/
  capacity : Nat
  /-- Whether its key was removed since. -/
  removed : Bool

/-- Shared memory with what happened in it. -/
structure Occupancy where
  memory : SharedMemory
  /-- All handles that were ever taken, in order. -/
  handles : List Segment
  /-- All regions that were ever made, in order. -/
  founded : List Founding

/-- What may happen next. -/
inductive OccupancyEvent where
  | create (path : String) (capacity mode : Nat)
  | attach (path : String)
  | detach (number : Nat)
  | drop (number : Nat)
  | remove (path : String)
  /-- The files change in some way. -/
  | rearrange (files : FileSystem)

namespace Founding

/-- A region that was made for a key that is removed loses it. -/
def bereave (key : Nat) (founding : Founding) : Founding :=
  if founding.key = key then { founding with removed := true } else founding

end Founding

namespace Occupancy

/-- Nothing was made yet. -/
def start (files : FileSystem) : Occupancy := ⟨⟨files, .empty⟩, [], []⟩

/-- The number of handles that hold a region. -/
def holders (state : Occupancy) (number : Nat) : Nat :=
  state.handles.countP fun handle => handle.attached && handle.region == number

/-- The number of handles that hold any region. -/
def live (state : Occupancy) : Nat := state.handles.countP Segment.attached

/-- A handle of a number that has given its region up. -/
def letGo (state : Occupancy) (number : Nat) (handle : Segment) (memory : SharedMemory) :
    Occupancy :=
  { state with memory, handles := state.handles.set number { handle with attached := false } }

/-- Shared memory after an event. -/
def perform (state : Occupancy) : OccupancyEvent → Occupancy
  | .create path capacity mode =>
    match state.memory.create path capacity mode, state.memory.deriveKey path with
    | (.ok handle, memory), .ok key =>
      ⟨memory, state.handles ++ [handle], state.founded ++ [⟨key, capacity, false⟩]⟩
    | (_, memory), _ => { state with memory }
  | .attach path =>
    match state.memory.attach path with
    | (.ok handle, memory) => { state with memory, handles := state.handles ++ [handle] }
    | (.error _, memory) => { state with memory }
  | .detach number =>
    match state.handles[number]? with
    | some handle => state.letGo number handle (state.memory.detach handle).2
    | none => state
  | .drop number =>
    match state.handles[number]? with
    | some handle => state.letGo number handle (state.memory.drop handle)
    | none => state
  | .remove path =>
    match state.memory.remove path, state.memory.deriveKey path with
    | (.ok (), memory), .ok key =>
      { state with memory, founded := state.founded.map (Founding.bereave key) }
    | (_, memory), _ => { state with memory }
  | .rearrange files => { state with memory := { state.memory with files } }

/-- Shared memory after a sequence of events. -/
def run (state : Occupancy) (events : List OccupancyEvent) : Occupancy :=
  events.foldl perform state

/-- A region was made for a key, nobody removed the key since, and a handle is left. -/
def Stands (state : Occupancy) (key number : Nat) : Prop :=
  ∃ founding, state.founded[number]? = some founding ∧ founding.key = key ∧
    founding.removed = false ∧ 0 < state.holders number

end Occupancy

/-! ## Regions that agree with what is known of them -/

namespace Region

/-- A region is as its founding and the number of its handles say, whatever its ring
holds. -/
structure Accords (region : Region) (founding : Founding) (handles : Nat) : Prop where
  key_eq : region.key = founding.key
  removed_eq : region.removed = (founding.removed || decide (handles = 0))
  references_eq : region.references = Int32.ofNat handles
  mappings_eq : region.mappings = handles
  destructions_eq : region.destructions = if handles = 0 then 1 else 0
  capacity_eq : region.capacity = founding.capacity
  size_eq : region.size = headerSize + founding.capacity
  admitted : RegionTable.capacityRefusal? founding.capacity = none

/-- A region agrees with what is known of it, and nothing was done to its ring. -/
structure Pristine (region : Region) (founding : Founding) (handles : Nat) : Prop
    extends Accords region founding handles where
  guarded_eq : region.guarded = .new founding.capacity true

variable {region : Region} {founding : Founding} {handles : Nat}

theorem pristine_new (key : Nat) {capacity : Nat} (mode : Nat)
    (admitted : RegionTable.capacityRefusal? capacity = none) :
    (new key capacity mode).Pristine ⟨key, capacity, false⟩ 1 :=
  ⟨⟨rfl, rfl, rfl, rfl, rfl, rfl, rfl, admitted⟩, rfl⟩

theorem Accords.join (accords : region.Accords founding handles) (held : 0 < handles)
    (few : handles < 1 <<< 31) (path : String) :
    region.join path = (.ok (), region.joined) ∧
      region.joined.Accords founding (handles + 1) := by
  constructor
  · have admitted := accords.admitted
    rw [← accords.capacity_eq] at admitted
    have fits : region.size = headerSize + region.capacity := by
      rw [accords.capacity_eq, accords.size_eq]
    have counted : region.references ≠ 0 := by
      rw [accords.references_eq, Ne, ofNat_eq_zero_iff (Nat.lt_trans few (by decide))]
      omega
    rw [join_eq, refusal?_eq_none path fits admitted]
    exact if_neg counted
  · refine { accords with
      removed_eq := ?_, references_eq := ?_, mappings_eq := ?_, destructions_eq := ?_ }
    · have isHeld : handles ≠ 0 := by omega
      simpa [isHeld, joined] using accords.removed_eq
    · rw [joined, accords.references_eq, Int32.ofNat_add]
      rfl
    · rw [joined, accords.mappings_eq]
    · have isHeld : handles ≠ 0 := by omega
      simpa [isHeld, joined] using accords.destructions_eq

/-- Leaving a region tells how many handles are left; the last one destroys the ring. -/
theorem Accords.leave (accords : region.Accords founding (handles + 1))
    (few : handles < 1 <<< 31) :
    region.leave.1 = Int32.ofNat handles ∧ region.leave.2.Accords founding handles := by
  have counted : region.references - 1 = Int32.ofNat handles := by
    rw [accords.references_eq, ofNat_succ_sub_one]
  have mapped : region.mappings - 1 = handles := by
    rw [accords.mappings_eq, Nat.add_sub_cancel]
  have intact : region.destructions = 0 := accords.destructions_eq
  have standing : region.removed = founding.removed := by simpa using accords.removed_eq
  have last_iff : Int32.ofNat handles = 0 ↔ handles = 0 :=
    ofNat_eq_zero_iff (Nat.lt_trans few (by decide))
  rw [leave_eq, counted]
  refine ⟨rfl, ?_⟩
  by_cases last : handles = 0
  · rw [if_pos (last_iff.mpr last)]
    exact { accords with
      removed_eq := by simp [closed, last]
      references_eq := counted
      mappings_eq := mapped
      destructions_eq := by simp [closed, left, last, intact] }
  · rw [if_neg (mt last_iff.mp last)]
    exact { accords with
      removed_eq := by simpa [left, last] using standing
      references_eq := counted
      mappings_eq := mapped
      destructions_eq := by simp [left, last, intact] }

theorem Accords.setGuarded (accords : region.Accords founding handles)
    {guarded : GuardedRing}
    (capacity : guarded.ring.capacity = region.guarded.ring.capacity) :
    ({ region with guarded } : Region).Accords founding handles :=
  { accords with capacity_eq := capacity.trans accords.capacity_eq }

theorem Accords.remove (accords : region.Accords founding handles) :
    region.remove.Accords { founding with removed := true } handles :=
  { accords with removed_eq := by simp [Region.remove] }

end Region

end BoundedStream
