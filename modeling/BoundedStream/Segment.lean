import BoundedStream.FileSystem
import BoundedStream.Region.Table

/-!
# Segments

A segment is a handle of a region.  The key of the region is derived from the file at a
path, so that all names of one file lead to one region.  A handle gives its region up
once: it remembers that it did, and giving it up again changes nothing.
-/

namespace BoundedStream

/-- The files of a machine and its table of regions. -/
structure SharedMemory where
  files : FileSystem
  regions : RegionTable
deriving Inhabited

/-- A handle of a region. -/
structure Segment where
  path : String
  /-- The number of the region. -/
  region : Nat
  /-- Whether the handle made the region. -/
  creator : Bool
  /-- Whether the handle still holds the region. -/
  attached : Bool
deriving DecidableEq, Repr, Inhabited

namespace SharedMemory

/-- Derive the key of a region from the file at a path. -/
def deriveKey (memory : SharedMemory) (path : String) : Except RegionError Nat :=
  match memory.files.resolve true path with
  | .ok inode => .ok inode
  | .error (.number errno) => .error (.keyDerivation path errno)
  | .error _ => .error (.keyDerivation path .invalidArgument)

/-- Make a region for a path and take its first handle. -/
def create (memory : SharedMemory) (path : String) (capacity mode : Nat) :
    Except RegionError Segment × SharedMemory :=
  match RegionTable.capacityRefusal? capacity with
  | some error => (.error error, memory)
  | none =>
    match memory.deriveKey path with
    | .error error => (.error error, memory)
    | .ok key =>
      let (result, regions) := memory.regions.create path key capacity mode
      (result.map fun number => ⟨path, number, true, true⟩, { memory with regions })

def attach (memory : SharedMemory) (path : String) :
    Except (Failure RegionError) Segment × SharedMemory :=
  match memory.deriveKey path with
  | .error error => (.error (.error error), memory)
  | .ok key =>
    let (result, regions) := memory.regions.attach path key
    (result.map fun number => ⟨path, number, false, true⟩, { memory with regions })

/-- Mark the region for a path for removal without a handle. -/
def remove (memory : SharedMemory) (path : String) :
    Except RegionError Unit × SharedMemory :=
  match memory.deriveKey path with
  | .error error => (.error error, memory)
  | .ok key =>
    let (result, regions) := memory.regions.remove path key
    (result, { memory with regions })

/-- Give up the region of a handle that holds it: the number of handles that remain, and
the handle, which holds the region no longer. -/
def release (memory : SharedMemory) (segment : Segment) : Int32 × Segment × SharedMemory :=
  if segment.attached then
    let (remaining, regions) := memory.regions.release segment.region
    (remaining, { segment with attached := false }, { memory with regions })
  else (0, segment, memory)

/-- Drop a handle, which gives its region up if it still holds it. -/
def drop (memory : SharedMemory) (segment : Segment) : SharedMemory :=
  (memory.release segment).2.2

/-- Give up the region of a handle for the number of handles that remain, and drop the
handle. -/
def detach (memory : SharedMemory) (segment : Segment) : Int32 × SharedMemory :=
  let (remaining, released, memory) := memory.release segment
  (remaining, memory.drop released)

def regionAt? (memory : SharedMemory) (path : String) : Option Region :=
  match memory.deriveKey path with
  | .error _ => none
  | .ok key => (memory.regions.find? key).bind memory.regions.get?

/-- Put a region of zeroed memory in the place of the one for a path: whether there was
none.  A region too small for a header is left as it is. -/
def plant (memory : SharedMemory) (path : String) (size capacity : Nat)
    (references : Int32) : Bool × SharedMemory :=
  match memory.deriveKey path with
  | .error _ => (false, memory)
  | .ok key =>
    let (planted, regions) :=
      if size < 16 then memory.regions.plant key size 0 0
      else memory.regions.plant key size capacity references
    (planted, { memory with regions })

end SharedMemory

end BoundedStream
