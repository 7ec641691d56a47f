import BoundedStream.Monitor
import BoundedStream.Ring

/-!
# Guarded rings

A ring with the monitor that guards it, as it lies on the heap of one process or in a
shared region.  A ring on the heap is refused when its capacity is zero or when header
and data would not fit the address space.
-/

namespace BoundedStream

/-- A ring and its monitor. -/
structure GuardedRing where
  ring : Ring
  /-- Whether other processes reach it. -/
  shared : Bool
  monitor : Monitor
deriving DecidableEq, Repr, Inhabited

namespace GuardedRing

/-- The bytes of a ring header. -/
def headerSize : Nat := 176

/-- The alignment of a ring header. -/
def alignment : Nat := 8

/-- The greatest size of an object. -/
def greatestSize : Nat := (1 <<< 63) - 1

def new (capacity : Nat) (shared : Bool) : GuardedRing :=
  ⟨Ring.empty capacity, shared, .new⟩

/-- The ring that zeroed memory makes once a capacity is written into its header. -/
def zeroed (capacity : Nat) : GuardedRing :=
  ⟨Ring.empty capacity, false, .zeroed⟩

/-- A ring on the heap, unless its capacity is refused. -/
def allocate (capacity : Nat) : Except RegionError GuardedRing :=
  if capacity = 0 then
    .error (.invalidCapacity capacity "capacity must be greater than zero")
  else if greatestSize - (alignment - 1) < headerSize + capacity then
    .error (.invalidCapacity capacity "capacity overflows the address space")
  else .ok (new capacity false)

end GuardedRing

end BoundedStream
