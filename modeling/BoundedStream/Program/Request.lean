import BoundedStream.Config
import BoundedStream.Error

/-!
# Requests of programs

A program does nothing by itself: it asks its surroundings and goes on with the answer.
What a program does in a state is its turn, so that a statement about a program can range
over every sequence of answers.
-/

namespace BoundedStream

/-- What a program asks of its surroundings. -/
inductive ProgramRequest where
  /-- Open a file for input, or take the standard input. -/
  | openInput (path : Option String)
  /-- Read up to so many bytes of input; no bytes mean its end. -/
  | readInput (length : Nat)
  /-- Open an endpoint of a byte stream. -/
  | connect (config : Config) (role : Role)
  /-- Take a buffer of so many bytes. -/
  | allocate (length : Nat)
  /-- Send data through the endpoint. -/
  | send (data : List UInt8)
  /-- Receive up to so many bytes, or exactly so many from a ring. -/
  | receive (length : Nat)
  /-- Count the bytes that the ring holds; a pipe has no count. -/
  | countPending
  /-- Count the handles of the region; a pipe has no count. -/
  | countReferences
  /-- Open a file for output, or take the standard output. -/
  | createOutput (path : Option String)
  /-- Write data to the output. -/
  | writeOutput (data : List UInt8)
  | flushOutput
  /-- Sleep for a moment before the next attempt. -/
  | pause
  /-- Give the endpoint up. -/
  | disconnect
deriving DecidableEq, Inhabited

/-- Bytes, at most so many. -/
abbrev Chunk (length : Nat) : Type := { data : List UInt8 // data.length ≤ length }

/-- The first bytes of a list, at most so many. -/
def Chunk.ofList (length : Nat) (data : List UInt8) : Chunk length :=
  ⟨data.take length, List.length_take_le length data⟩

/-- The answer to a request.  Nothing takes more than it was offered or gives more than it
was asked for. -/
abbrev ProgramReply : ProgramRequest → Type
  | .openInput _ => Except SystemError Unit
  | .readInput length => Except SystemError (Chunk length)
  | .connect _ _ => Except StreamError (Option Nat)
  | .allocate _ => Unit
  | .send data => Except StreamError (Fin (data.length + 1))
  | .receive length => Except StreamError (Chunk length)
  | .countPending => Except StreamError (Option Nat)
  | .countReferences => Option Int32
  | .createOutput _ => Except SystemError Unit
  | .writeOutput _ => Except SystemError Unit
  | .flushOutput => Except SystemError Unit
  | .pause => Unit
  | .disconnect => Unit

/-- What a program does in a state: it has finished, or it asks and goes on in the state
that depends on the answer. -/
inductive Turn (State Result : Type) where
  | finished (result : Result)
  | ask (request : ProgramRequest) (resume : ProgramReply request → State)

namespace Turn

/-- The turn of a program that is part of a larger one. -/
def map {State State' Result Result' : Type} (embed : State → State')
    (convert : Result → Result') : Turn State Result → Turn State' Result'
  | finished result => finished (convert result)
  | ask request resume => ask request fun reply => embed (resume reply)

def result? {State Result : Type} : Turn State Result → Option Result
  | finished result => some result
  | ask _ _ => none

/-- The request of a program that has not finished. -/
def request? {State Result : Type} : Turn State Result → Option ProgramRequest
  | finished _ => none
  | ask request _ => some request

end Turn

end BoundedStream
