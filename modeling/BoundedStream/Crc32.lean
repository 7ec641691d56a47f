/-!
# A cyclic redundancy check

The reflected 32-bit check with polynomial `0xEDB88320`, whose register starts and
ends complemented.  The register takes one byte at a time from a table of 256 words.
-/

namespace BoundedStream

namespace Crc32

/-- The reflected generator polynomial. -/
def polynomial : UInt32 := 0xEDB88320

/-- Divide the register by one more power of the unknown. -/
def shift (register : UInt32) : UInt32 :=
  if register &&& 1 = 1 then (register >>> 1) ^^^ polynomial else register >>> 1

/-- Divide the register by several powers of the unknown. -/
def shiftBy : Nat → UInt32 → UInt32
  | 0, register => register
  | count + 1, register => shiftBy count (shift register)

/-- The register after eight shifts, for each of its low octets. -/
def table : Array UInt32 :=
  Array.ofFn fun octet : Fin 256 => shiftBy 8 octet.val.toUInt32

/-- Take one byte into the register with the help of the table. -/
def step (register : UInt32) (byte : UInt8) : UInt32 :=
  table.getD ((register ^^^ byte.toUInt32) &&& 0xFF).toNat 0 ^^^ (register >>> 8)

def steps (register : UInt32) (bytes : List UInt8) : UInt32 :=
  bytes.foldl step register

/-- The register before any byte. -/
def initial : UInt32 := 0xFFFFFFFF

def finish (register : UInt32) : UInt32 := register ^^^ 0xFFFFFFFF

/-- The check value of a list of bytes, computed with the table. -/
def checksum (bytes : List UInt8) : UInt32 := finish (steps initial bytes)

@[simp]
theorem steps_append (register : UInt32) (first second : List UInt8) :
    steps register (first ++ second) = steps (steps register first) second := by
  simp [steps]

end Crc32

end BoundedStream
