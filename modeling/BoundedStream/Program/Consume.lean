import BoundedStream.Program.Report
import BoundedStream.Program.Request

/-!
# Consuming

The consumer of a stream opens its endpoint, opens its output, takes a buffer for a chunk,
and writes what it receives until its limit or the end of the stream.  A pipe tells the end
of the stream itself.  A ring serves exactly what it is asked for, so the consumer of one
asks only for what the ring holds; the stream has ended when the ring is empty and the
producer left.
-/

namespace BoundedStream

/-- How far a consumer has come. -/
inductive ConsumePhase where
  | connecting
  | creatingOutput
  /-- About to take a buffer for a chunk. -/
  | allocating
  /-- About to count what the ring holds, wanting up to so many bytes. -/
  | counting (want : Nat)
  /-- The ring holds nothing, and it is about to count the handles. -/
  | observing (want : Nat)
  /-- About to pause before it counts again. -/
  | resting (want : Nat)
  /-- About to receive up to so many bytes. -/
  | receiving (length : Nat)
  /-- About to pause before it begins anew. -/
  | postponed
  /-- About to write what it received. -/
  | writing (data : List UInt8)
  | flushing
  /-- About to give up its endpoint. -/
  | leaving (result : Except RunError Report)
  | finished (result : Except RunError Report)
deriving Inhabited

/-- The consumer of a stream. -/
structure Consumption where
  config : Config
  output : Option String
  /-- The number of bytes after which it stops. -/
  limit : Option Nat
  /-- The greatest number of bytes that it asks for at once. -/
  chunk : Nat
  /-- The summary of what was written. -/
  summary : Summary
  phase : ConsumePhase

namespace Consumption

/-- A consumer at its beginning; chunks of no bytes are refused. -/
def start (config : Config) (output : Option String) (limit : Option Nat) (chunk : Nat) :
    Consumption :=
  ⟨config, output, limit, chunk, .empty,
    if chunk = 0 then .finished (.error (.command .invalidChunk)) else .connecting⟩

def goTo (consumption : Consumption) (phase : ConsumePhase) : Consumption :=
  { consumption with phase }

def refuse (consumption : Consumption) (error : RunError) : Consumption :=
  consumption.goTo (.finished (.error error))

def fail (consumption : Consumption) (error : RunError) : Consumption :=
  consumption.goTo (.leaving (.error error))

def report (consumption : Consumption) : Report :=
  ⟨.consumer, consumption.config.kind, consumption.summary, consumption.limit⟩

/-- The number of bytes that may be asked for, unless the limit is reached. -/
def want? (consumption : Consumption) : Option Nat :=
  match consumption.limit with
  | none => some consumption.chunk
  | some limit =>
    if limit ≤ consumption.summary.bytes then none
    else some (min (limit - consumption.summary.bytes) consumption.chunk)

/-- Begin a round: end the stream at the limit, and else see what there is. -/
def begin (consumption : Consumption) : Consumption :=
  match consumption.want? with
  | none => consumption.goTo .flushing
  | some want => consumption.goTo (.counting want)

def connected (consumption : Consumption) :
    Except StreamError (Option Nat) → Consumption
  | .ok _ => consumption.goTo .creatingOutput
  | .error error => consumption.refuse (.stream error)

def outputCreated (consumption : Consumption) : Except SystemError Unit → Consumption
  | .ok () => consumption.goTo .allocating
  | .error error => consumption.fail (.command (.system "creating output file" error))

/-- The bytes held were counted: ask for no more than that. -/
def pendingCounted (consumption : Consumption) (want : Nat) :
    Except StreamError (Option Nat) → Consumption
  | .ok none => consumption.goTo (.receiving want)
  | .ok (some 0) => consumption.goTo (.observing want)
  | .ok (some pending) => consumption.goTo (.receiving (min pending want))
  | .error error => consumption.fail (.command (.stream error))

/-- Whether a number of handles shows that there is none but one's own. -/
def showsEnd (references : Option Int32) : Bool :=
  references.any fun count => decide (count ≤ 1)

/-- The handles were counted while the ring held nothing. -/
def referencesCounted (consumption : Consumption) (want : Nat)
    (references : Option Int32) : Consumption :=
  if showsEnd references then consumption.goTo .flushing
  else consumption.goTo (.resting want)

/-- Bytes were received; none are the end of the stream. -/
def received (consumption : Consumption) {length : Nat} :
    Except StreamError (Chunk length) → Consumption
  | .ok ⟨[], _⟩ => consumption.goTo .flushing
  | .ok ⟨data, _⟩ => consumption.goTo (.writing data)
  | .error error =>
    if error.isInterrupted then consumption.begin
    else if error.isWouldBlock then consumption.goTo .postponed
    else consumption.fail (.stream error)

def written (consumption : Consumption) (data : List UInt8) :
    Except SystemError Unit → Consumption
  | .ok () => { consumption with summary := consumption.summary.update data }.begin
  | .error error => consumption.fail (.command (.system "writing output" error))

def flushed (consumption : Consumption) : Except SystemError Unit → Consumption
  | .ok () => consumption.goTo (.leaving (.ok consumption.report))
  | .error error => consumption.fail (.command (.system "flushing output" error))

def turn (consumption : Consumption) : Turn Consumption (Except RunError Report) :=
  match consumption.phase with
  | .connecting => .ask (.connect consumption.config .consumer) consumption.connected
  | .creatingOutput =>
    .ask (.createOutput consumption.output) consumption.outputCreated
  | .allocating => .ask (.allocate consumption.chunk) fun _ => consumption.begin
  | .counting want => .ask .countPending (consumption.pendingCounted want)
  | .observing want => .ask .countReferences (consumption.referencesCounted want)
  | .resting want => .ask .pause fun _ => consumption.goTo (.counting want)
  | .receiving length => .ask (.receive length) consumption.received
  | .postponed => .ask .pause fun _ => consumption.begin
  | .writing data => .ask (.writeOutput data) (consumption.written data)
  | .flushing => .ask .flushOutput consumption.flushed
  | .leaving result => .ask .disconnect fun _ => consumption.goTo (.finished result)
  | .finished result => .finished result

end Consumption

end BoundedStream
