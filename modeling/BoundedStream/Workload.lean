/-!
# Payloads

Payloads of any length whose bytes count up and start again after 251, a prime, so
that no power of two divides their period.
-/

namespace BoundedStream

namespace Workload

def byteAt (index : Nat) : UInt8 := (index % 251).toUInt8

def payload (size : Nat) : List UInt8 := (List.range size).map byteAt

end Workload

end BoundedStream
