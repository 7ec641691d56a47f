import BoundedStream.Program.Delivery
import BoundedStream.Program.Report

/-!
# Producing

The producer of a stream opens its input, opens its endpoint, takes a buffer for a chunk,
and sends chunk after chunk of the input.  Its chunks are at most half of a ring, since
larger ones could leave both sides waiting for each other.  A ring goes away with its last
handle, so the producer of one stays until everything was taken; if it sent nothing, until a
consumer was seen.
-/

namespace BoundedStream

/-- How far a producer has come. -/
inductive ProducePhase where
  | openingInput
  | connecting
  /-- About to take a buffer for chunks of the given size. -/
  | allocating (chunk : Nat)
  /-- About to read a chunk of the given size. -/
  | reading (chunk : Nat)
  /-- About to offer what is left of a chunk that was read. -/
  | sending (chunk : Nat) (data rest : List UInt8)
  /-- About to pause before it offers what is left of a chunk. -/
  | delaying (chunk : Nat) (data rest : List UInt8)
  /-- About to count what the ring holds. -/
  | draining (peerSeen : Bool)
  /-- It counted what the ring holds and is about to count the handles. -/
  | observing (peerSeen : Bool) (pending : Nat)
  /-- About to pause before it counts again. -/
  | resting (peerSeen : Bool)
  /-- About to give up its endpoint. -/
  | leaving (result : Except RunError Report)
  | finished (result : Except RunError Report)
deriving Inhabited

/-- The producer of a stream. -/
structure Production where
  config : Config
  input : Option String
  /-- The greatest size of a chunk that was asked for. -/
  chunk : Nat
  /-- The summary of what was sent. -/
  summary : Summary
  phase : ProducePhase

namespace Production

/-- A producer at its beginning; chunks of no bytes are refused. -/
def start (config : Config) (input : Option String) (chunk : Nat) : Production :=
  ⟨config, input, chunk, .empty,
    if chunk = 0 then .finished (.error (.command .invalidChunk)) else .openingInput⟩

def goTo (production : Production) (phase : ProducePhase) : Production :=
  { production with phase }

def refuse (production : Production) (error : RunError) : Production :=
  production.goTo (.finished (.error error))

def fail (production : Production) (error : RunError) : Production :=
  production.goTo (.leaving (.error error))

def report (production : Production) : Report :=
  ⟨.producer, production.config.kind, production.summary, none⟩

def complete (production : Production) : Production :=
  production.goTo (.leaving (.ok production.report))

/-- The size of chunks for a ring of the given capacity, or for a pipe. -/
def chunkFor (chunk : Nat) : Option Nat → Nat
  | some capacity => min chunk (max 1 (capacity / 2))
  | none => chunk

/-- Go on with a delivery; once it ended its chunk counts as sent. -/
def deliver (production : Production) (chunk : Nat) (data : List UInt8) :
    Delivery → Production
  | .offering rest => production.goTo (.sending chunk data rest)
  | .resting rest => production.goTo (.delaying chunk data rest)
  | .delivered =>
    { production with summary := production.summary.update data, phase := .reading chunk }
  | .failed error => production.fail (.command error)

def inputOpened (production : Production) : Except SystemError Unit → Production
  | .ok () => production.goTo .connecting
  | .error error => production.refuse (.command (.system "opening input file" error))

def connected (production : Production) : Except StreamError (Option Nat) → Production
  | .ok capacity => production.goTo (.allocating (chunkFor production.chunk capacity))
  | .error error => production.refuse (.stream error)

/-- A chunk was read; an empty one is the end of the input. -/
def inputRead (production : Production) (chunk : Nat) :
    Except SystemError (Chunk chunk) → Production
  | .ok ⟨[], _⟩ => production.goTo (.draining (decide (0 < production.summary.bytes)))
  | .ok ⟨data, _⟩ => production.deliver chunk data (.start data)
  | .error error =>
    if error.kind = .interrupted then production.goTo (.reading chunk)
    else production.fail (.command (.system "reading input" error))

/-- The bytes held were counted; a pipe has none to wait for. -/
def pendingCounted (production : Production) (peerSeen : Bool) :
    Except StreamError (Option Nat) → Production
  | .ok none => production.complete
  | .ok (some pending) => production.goTo (.observing peerSeen pending)
  | .error error => production.fail (.command (.stream error))

/-- Whether a number of handles shows that there is another one than one's own. -/
def showsPeer (references : Option Int32) : Bool :=
  references.any fun count => decide (1 < count)

/-- The handles were counted: leave once nothing is held and a consumer was seen. -/
def referencesCounted (production : Production) (peerSeen : Bool) (pending : Nat)
    (references : Option Int32) : Production :=
  let peerSeen := peerSeen || showsPeer references
  if pending = 0 ∧ peerSeen then production.complete
  else production.goTo (.resting peerSeen)

def turn (production : Production) : Turn Production (Except RunError Report) :=
  match production.phase with
  | .openingInput => .ask (.openInput production.input) production.inputOpened
  | .connecting => .ask (.connect production.config .producer) production.connected
  | .allocating chunk => .ask (.allocate chunk) fun _ => production.goTo (.reading chunk)
  | .reading chunk => .ask (.readInput chunk) (production.inputRead chunk)
  | .sending chunk data rest =>
    .ask (.send rest) fun reply => production.deliver chunk data (.answered rest reply)
  | .delaying chunk data rest =>
    .ask .pause fun _ => production.deliver chunk data (.offering rest)
  | .draining peerSeen => .ask .countPending (production.pendingCounted peerSeen)
  | .observing peerSeen pending =>
    .ask .countReferences (production.referencesCounted peerSeen pending)
  | .resting peerSeen => .ask .pause fun _ => production.goTo (.draining peerSeen)
  | .leaving result => .ask .disconnect fun _ => production.goTo (.finished result)
  | .finished result => .finished result

end Production

end BoundedStream
