import BoundedStream.Party.Schedule
import BoundedStream.Workload

/-!
# Connected pairs

Both endpoints of one byte stream, over which workloads are streamed round by round.
-/

namespace BoundedStream

namespace Workload

/-- Both endpoints of a byte stream on a host. -/
structure Pair where
  host : Host
  producer : Transport
  consumer : Transport

/-- Why a round ended before its time. -/
inductive RoundError where
  | stream (error : StreamError)
  /-- The ring could never have served a request. -/
  | rejected (text : String)
  /-- Nothing more happens, and the round is not over. -/
  | stuck
deriving DecidableEq, Repr, Inhabited

namespace Pair

def connect (host : Host) (config : Config) : Except (Failure StreamError) Pair :=
  match Transport.connect host config .producer with
  | (.error failure, _) => .error failure
  | (.ok producer, host) =>
    match Transport.connect host config .consumer with
    | (.error failure, _) => .error failure
    | (.ok consumer, host) => .ok ⟨host, producer, consumer⟩

def sharedMemory (capacity : Nat) : Except (Failure StreamError) Pair :=
  connect (Host.fresh.place "ring.key" (.file [])) (.sharedMemory "ring.key" capacity)

def namedPipe : Except (Failure StreamError) Pair :=
  connect Host.fresh (.namedPipe "stream.fifo")

def conclude (party : Party) : Except RoundError Unit :=
  match party.crash, party.result? with
  | some text, _ => .error (.rejected text)
  | none, some (.streamed (.ok ())) => .ok ()
  | none, some (.streamed (.error error)) => .error (.stream error)
  | none, _ => .error .stuck

/-- Stream copies of a payload to a reader, who asks for one payload at a time. -/
def stream (pair : Pair) (payload : List UInt8) (copies : Nat) :
    Except RoundError Pair := do
  let sender := Party.start (.send (.start payload copies)) (some pair.producer) []
  let reader :=
    Party.start (.collect (.start payload.length (payload.length * copies)))
      (some pair.consumer) []
  let machine := Machine.finish ⟨pair.host, [sender, reader]⟩
  machine.parties.forM conclude
  pure { pair with host := machine.host }

/-- The number of bytes that the ring holds; a pipe has none. -/
def pending? (pair : Pair) : Except StreamError (Option Nat) :=
  match pair.consumer.pendingCall? with
  | none => .ok none
  | some call =>
    match (call.complete pair.host).1.map Outcome.onTransport with
    | some (.pending count) => .ok (some count)
    | some (.failed error) => .error error
    | _ => .ok none

/-- The number of handles of the region; a pipe has none. -/
def references? (pair : Pair) : Option Int32 := pair.consumer.references? pair.host

end Pair

end Workload

end BoundedStream
