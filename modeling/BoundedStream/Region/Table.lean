import BoundedStream.Region

/-!
# The table of regions

All regions that were ever made, in the order of their making; the place in that order
is the number of a region and is never used again.  A key leads to the region that was
made for it and not removed since.
-/

namespace BoundedStream

/-- All regions, by number. -/
structure RegionTable where
  regions : List Region
deriving Repr, Inhabited

namespace RegionTable

def empty : RegionTable := ⟨[]⟩

def get? (table : RegionTable) (number : Nat) : Option Region := table.regions[number]?

def update (table : RegionTable) (number : Nat) (change : Region → Region) :
    RegionTable :=
  ⟨table.regions.modify number change⟩

def find? (table : RegionTable) (key : Nat) : Option Nat :=
  table.regions.findIdx? fun region => region.key == key && !region.removed

def insert (table : RegionTable) (region : Region) : RegionTable :=
  ⟨table.regions ++ [region]⟩

/-- The greatest capacity of a ring in a region. -/
def greatestCapacity : Nat := 1024 * 1024 * 1024

/-- Why a region of the given capacity is not made, if so. -/
def capacityRefusal? (capacity : Nat) : Option RegionError :=
  if capacity = 0 ∨ greatestCapacity < capacity then
    some (.invalidCapacity capacity
      ("must be between 1 and " ++ toString greatestCapacity ++ " bytes"))
  else none

def create (table : RegionTable) (path : String) (key capacity mode : Nat) :
    Except RegionError Nat × RegionTable :=
  match table.find? key with
  | some _ => (.error (.alreadyExists path), table)
  | none => (.ok table.regions.length, table.insert (.new key capacity mode))

/-- Join the region that a key leads to: its number. -/
def attach (table : RegionTable) (path : String) (key : Nat) :
    Except (Failure RegionError) Nat × RegionTable :=
  match table.find? key with
  | none => (.error (.error (.notFound path)), table)
  | some number =>
    match table.get? number with
    | none => (.error (.error (.notFound path)), table)
    | some region =>
      let (result, joined) := region.join path
      (result.map fun _ => number, table.update number fun _ => joined)

/-- Leave a region: the number of handles that remain. -/
def release (table : RegionTable) (number : Nat) : Int32 × RegionTable :=
  match table.get? number with
  | none => (0, table)
  | some region =>
    let (remaining, left) := region.leave
    (remaining, table.update number fun _ => left)

def remove (table : RegionTable) (path : String) (key : Nat) :
    Except RegionError Unit × RegionTable :=
  match table.find? key with
  | none => (.error (.notFound path), table)
  | some number => (.ok (), table.update number Region.remove)

/-- Put zeroed memory in the place of a region, unless the key leads to one already. -/
def plant (table : RegionTable) (key size capacity : Nat) (references : Int32) :
    Bool × RegionTable :=
  match table.find? key with
  | some _ => (false, table)
  | none => (true, table.insert (.zeroed key size capacity references))

end RegionTable

end BoundedStream
