import BoundedStream.Crc32
import BoundedStream.Numeral

/-!
# Stream summaries

The running length and check value of a transferred stream.
-/

namespace BoundedStream

/-- The length of a stream so far and the register of its check value. -/
structure Summary where
  bytes : Nat
  register : UInt32
deriving DecidableEq, Repr

namespace Summary

def empty : Summary := ⟨0, Crc32.initial⟩

def update (summary : Summary) (data : List UInt8) : Summary :=
  ⟨summary.bytes + data.length, Crc32.steps summary.register data⟩

def checksum (summary : Summary) : UInt32 := Crc32.finish summary.register

def checksumText (summary : Summary) : String :=
  Numeral.printPadded 16 8 summary.checksum.toNat

@[simp]
theorem bytes_update (summary : Summary) (data : List UInt8) :
    (summary.update data).bytes = summary.bytes + data.length := rfl

@[simp]
theorem update_append (summary : Summary) (first second : List UInt8) :
    summary.update (first ++ second) = (summary.update first).update second := by
  simp [update, Nat.add_assoc]

end Summary

end BoundedStream
