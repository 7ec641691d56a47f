import BoundedStream.Ring.Guarded

/-!
# Shared regions

A region is a piece of memory that several handles map at once.  It starts with the
number of its handles and the header of a ring, and the data of the ring follow.  The
number of handles is a word of 32 bits and the capacity of the ring one of 64 bits; any
party may have written them, so a handle that joins looks at them first.
-/

namespace BoundedStream

/-- A shared region. -/
structure Region where
  /-- The key under which it is found, as long as it is not removed. -/
  key : Nat
  /-- Its permission bits. -/
  mode : Nat
  /-- Its size in bytes. -/
  size : Nat
  /-- The number of handles, as the region itself has it. -/
  references : Int32
  /-- The ring in it; a capacity of zero says that there is none yet. -/
  guarded : GuardedRing
  /-- The number of mappings, as the system has it. -/
  mappings : Nat
  /-- Whether it was marked for removal and lost its key. -/
  removed : Bool
  /-- How many times its ring was destroyed. -/
  destructions : Nat
deriving DecidableEq, Repr, Inhabited

namespace Region

/-- The bytes before the data of the ring. -/
def headerSize : Nat := 184

/-- The number of distinct addresses. -/
def addressSpace : Nat := 1 <<< 64

def capacity (region : Region) : Nat := region.guarded.ring.capacity

/-- A region with an empty ring, mapped by the one handle that created it. -/
def new (key capacity mode : Nat) : Region where
  key := key
  mode := mode % 0o1000
  size := headerSize + capacity
  references := 1
  guarded := .new capacity true
  mappings := 1
  removed := false
  destructions := 0

/-- A region of zeroed memory into which only a number of handles and a capacity were
written. -/
def zeroed (key size capacity : Nat) (references : Int32) : Region where
  key := key
  mode := 0o600
  size := size
  references := references
  guarded := .zeroed capacity
  mappings := 0
  removed := false
  destructions := 0

def map (region : Region) : Region := { region with mappings := region.mappings + 1 }

def unmap (region : Region) : Region := { region with mappings := region.mappings - 1 }

/-- Count one more handle; the answer is the number before. -/
def addReference (region : Region) : Int32 × Region :=
  (region.references, { region with references := region.references + 1 })

/-- Count one handle less; the answer is the number before. -/
def dropReference (region : Region) : Int32 × Region :=
  (region.references, { region with references := region.references - 1 })

/-- Destroy the mutex and the conditions of the ring. -/
def destroy (region : Region) : Region :=
  { region with destructions := region.destructions + 1 }

/-- Mark the region for removal: it loses its key at once. -/
def remove (region : Region) : Region := { region with removed := true }

/-- Where the data of a ring with the announced capacity would end. -/
def announcedEnd (region : Region) : Nat := headerSize + region.capacity

/-- What the computation of an end that is no address crashes with. -/
def overflow : String := "attempt to add with overflow"

/-- Why the header of a region does not describe a ring in it, if so. -/
def refusal? (region : Region) (path : String) : Option (Failure RegionError) :=
  if region.size ≤ headerSize then
    some (.error (.layoutMismatch path ("segment of " ++ toString region.size ++
      " bytes cannot hold the " ++ toString headerSize ++ " byte header")))
  else if region.capacity = 0 then some (.error (.notInitialized path))
  else if addressSpace ≤ region.announcedEnd then some (.crash overflow)
  else if region.size < region.announcedEnd then
    some (.error (.layoutMismatch path ("ring capacity " ++ toString region.capacity ++
      " does not fit a " ++ toString region.size ++ " byte segment")))
  else none

/-- Join a region: map it, look at its header and count one more handle.  A number of zero
says that the last handle is tearing the region down; the count is then taken back.  Whoever
gets an error keeps no mapping, but a crash leaves the region mapped. -/
def join (region : Region) (path : String) :
    Except (Failure RegionError) Unit × Region :=
  match region.refusal? path with
  | some (.error error) => (.error (.error error), region)
  | some (.crash text) => (.error (.crash text), region.map)
  | none =>
    let (before, counted) := region.map.addReference
    if before = 0 then (.error (.error (.notFound path)), counted.dropReference.2.unmap)
    else (.ok (), counted)

/-- Leave a region: the number of handles that remain.  The last handle destroys the ring
and removes the region. -/
def leave (region : Region) : Int32 × Region :=
  let (before, counted) := region.dropReference
  let remaining := before - 1
  if remaining = 0 then (remaining, counted.destroy.unmap.remove)
  else (remaining, counted.unmap)

end Region

end BoundedStream
