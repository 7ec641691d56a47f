import BoundedStream.Ring.Storage

/-!
# Circular byte rings

A ring holds up to `capacity` bytes in circular storage.  The bytes that are held start
at `tail`, and the next byte goes to `head`; the number of bytes is kept beside them, so
that equal cursors are never ambiguous.  A copy that reaches the end of the storage goes
on at its start.
-/

namespace BoundedStream

/-- A circular byte store and its cursors. -/
structure Ring where
  capacity : Nat
  /-- The offset of the next byte to be written. -/
  head : Nat
  /-- The offset of the next byte to be read. -/
  tail : Nat
  /-- The number of bytes held. -/
  size : Nat
  storage : Storage
deriving DecidableEq, Repr, Inhabited

namespace Ring

def empty (capacity : Nat) : Ring := ⟨capacity, 0, 0, 0, .empty⟩

/-- The number of bytes that can still be taken in. -/
def space (ring : Ring) : Nat := ring.capacity - ring.size

/-- Copy bytes into the storage from an offset on, going on at the start. -/
def copyIn (ring : Ring) (offset : Nat) (data : List UInt8) : Storage :=
  let first := min data.length (ring.capacity - offset)
  let filled := ring.storage.write offset (data.take first)
  if first < data.length then filled.write 0 (data.drop first) else filled

/-- Copy bytes out of the storage from an offset on, going on at the start. -/
def copyOut (ring : Ring) (offset count : Nat) : List UInt8 :=
  let first := min count (ring.capacity - offset)
  let front := ring.storage.read offset first
  if first < count then front ++ ring.storage.read 0 (count - first) else front

/-- Store bytes at the head, which stays where it is. -/
def store (ring : Ring) (data : List UInt8) : Ring :=
  { ring with storage := ring.copyIn ring.head data }

/-- Count stored bytes as held and move the head behind them. -/
def commit (ring : Ring) (count : Nat) : Ring :=
  { ring with head := (ring.head + count) % ring.capacity, size := ring.size + count }

/-- The first bytes that are held. -/
def front (ring : Ring) (count : Nat) : List UInt8 := ring.copyOut ring.tail count

/-- Give up the first bytes that are held. -/
def discard (ring : Ring) (count : Nat) : Ring :=
  { ring with tail := (ring.tail + count) % ring.capacity, size := ring.size - count }

def put (ring : Ring) (data : List UInt8) : Ring := (ring.store data).commit data.length

/-- The bytes that are held, oldest first. -/
def contents (ring : Ring) : List UInt8 := ring.front ring.size

end Ring

end BoundedStream
