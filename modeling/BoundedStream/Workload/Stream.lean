import BoundedStream.Program.Request

/-!
# Streaming a workload

A sender streams copies of a payload through an endpoint while a reader receives as many
bytes as all copies have.  Neither opens or gives up an endpoint.
-/

namespace BoundedStream

namespace Workload

/-- The sender of copies of a payload. -/
inductive Sender where
  /-- About to offer what is left of a copy, with so many copies to follow. -/
  | sending (payload : List UInt8) (copies : Nat) (rest : List UInt8)
  | finished (result : Except StreamError Unit)
deriving Inhabited

namespace Sender

/-- A sender before its copies; copies of nothing are sent at once. -/
def start (payload : List UInt8) : Nat → Sender
  | 0 => .finished (.ok ())
  | copies + 1 =>
    if payload.isEmpty then .finished (.ok ()) else .sending payload copies payload

def answered (payload : List UInt8) (copies : Nat) (rest : List UInt8) :
    Except StreamError (Fin (rest.length + 1)) → Sender
  | .ok count =>
    if rest.length ≤ count.val then start payload copies
    else .sending payload copies (rest.drop count.val)
  | .error error => .finished (.error error)

def turn : Sender → Turn Sender (Except StreamError Unit)
  | .sending payload copies rest => .ask (.send rest) (answered payload copies rest)
  | .finished result => .finished result

end Sender

/-- The reader of a number of bytes. -/
inductive Reader where
  /-- About to receive up to a chunk of what is missing; the pieces that it received are
  kept with the last one first. -/
  | receiving (chunk missing : Nat) (pieces : List (List UInt8))
  | finished (result : Except StreamError (List (List UInt8)))
deriving Inhabited

namespace Reader

def resume (chunk missing : Nat) (pieces : List (List UInt8)) : Reader :=
  if missing = 0 then .finished (.ok pieces) else .receiving chunk missing pieces

def start (chunk total : Nat) : Reader := resume chunk total []

def answered (chunk missing : Nat) (pieces : List (List UInt8)) {length : Nat} :
    Except StreamError (Chunk length) → Reader
  | .ok bytes => resume chunk (missing - bytes.val.length) (bytes.val :: pieces)
  | .error error => .finished (.error error)

def turn : Reader → Turn Reader (Except StreamError (List (List UInt8)))
  | .receiving chunk missing pieces =>
    .ask (.receive (min missing chunk)) (answered chunk missing pieces)
  | .finished result => .finished result

end Reader

end Workload

end BoundedStream
