import BoundedStream.Program.Consume
import BoundedStream.Program.Produce
import BoundedStream.Workload.Stream

/-!
# Programs

The programs that work on byte streams: the two commands, and the two sides of a
workload.
-/

namespace BoundedStream

/-- A program in some state. -/
inductive Program where
  | produce (production : Production)
  | consume (consumption : Consumption)
  | send (sender : Workload.Sender)
  | collect (reader : Workload.Reader)

/-- The result of a program. -/
inductive ProgramResult where
  /-- A command streamed to the end or failed. -/
  | reported (result : Except RunError Report)
  /-- A side of a workload did its part or failed. -/
  | streamed (result : Except StreamError Unit)

namespace Program

def turn : Program → Turn Program ProgramResult
  | produce production => production.turn.map produce .reported
  | consume consumption => consumption.turn.map consume .reported
  | send sender => sender.turn.map send .streamed
  | collect reader =>
    reader.turn.map collect fun result => .streamed (result.map fun _ => ())

def result? (program : Program) : Option ProgramResult := program.turn.result?

end Program

end BoundedStream
