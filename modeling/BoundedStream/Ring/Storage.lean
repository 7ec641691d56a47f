/-!
# Byte storage

Bytes at offsets, all of them zero until they are written.  Only the part up to the
greatest written offset is kept.
-/

namespace BoundedStream

/-- Bytes at offsets; offsets beyond the array hold zero. -/
structure Storage where
  bytes : Array UInt8
deriving DecidableEq, Repr, Inhabited

namespace Storage

def empty : Storage := ⟨#[]⟩

def get (storage : Storage) (offset : Nat) : UInt8 := storage.bytes.getD offset 0

def set (storage : Storage) (offset : Nat) (byte : UInt8) : Storage :=
  if offset < storage.bytes.size then ⟨storage.bytes.setIfInBounds offset byte⟩
  else
    let gap := Array.replicate (offset - storage.bytes.size) 0
    ⟨(storage.bytes ++ gap).push byte⟩

def write (storage : Storage) (offset : Nat) : List UInt8 → Storage
  | [] => storage
  | byte :: bytes => (storage.set offset byte).write (offset + 1) bytes

def read (storage : Storage) (offset count : Nat) : List UInt8 :=
  (List.range count).map fun index => storage.get (offset + index)

end Storage

end BoundedStream
