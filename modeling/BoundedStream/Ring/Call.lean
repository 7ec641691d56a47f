import BoundedStream.Ring.Guarded

/-!
# Calls on a guarded ring

A transfer is all or nothing.  It takes the mutex, tests whether the ring can serve it,
and either copies the bytes, moves the cursors and wakes the other side, or fails, or
sleeps until the other side did something and tests again.  Each of these is a step of
its own, between which other parties take theirs.
-/

namespace BoundedStream

/-- What a party asks of a ring. -/
inductive RingRequest where
  /-- Put all of the data in. -/
  | produce (data : List UInt8) (wait : Bool)
  /-- Take exactly so many bytes out. -/
  | consume (length : Nat) (wait : Bool)
  /-- Count the bytes that are held. -/
  | measure
deriving DecidableEq, Repr, Inhabited

/-- The result of a call on a ring. -/
inductive RingOutcome where
  | produced (count : Nat)
  | consumed (bytes : List UInt8)
  | measured (count : Nat)
  | failed (error : RegionError)
  /-- The request was not one that the ring could ever serve. -/
  | rejected (text : String)
deriving DecidableEq, Repr, Inhabited

/-- How far a call on a ring has come. -/
inductive RingPhase where
  /-- The request was not looked at yet. -/
  | arriving
  /-- About to take the mutex. -/
  | locking
  /-- It holds the mutex and tests whether the ring can serve it. -/
  | testing
  /-- It sleeps until the broadcast count is another one. -/
  | asleep (signals : Nat)
  /-- Woken, and about to take the mutex again. -/
  | relocking
  /-- It holds the mutex and copies. -/
  | copying
  /-- It holds the mutex and moves the cursors. -/
  | updating (outcome : RingOutcome)
  /-- It holds the mutex and wakes the other side. -/
  | notifying (outcome : RingOutcome)
  /-- It is about to leave the mutex. -/
  | unlocking (outcome : RingOutcome)
  | finished (outcome : RingOutcome)
deriving Inhabited

/-- A call on a ring in progress. -/
structure RingCall where
  request : RingRequest
  phase : RingPhase
deriving Inhabited

namespace RingRequest

def length : RingRequest → Nat
  | produce data _ => data.length
  | consume length _ => length
  | measure => 0

/-- What the call does, in the words of a rejection. -/
def verb : RingRequest → String
  | produce .. => "produce"
  | consume .. => "consume"
  | measure => "measure"

/-- Why a ring of the given capacity can never serve a request. -/
def rejection? (request : RingRequest) (capacity : Nat) : Option String :=
  match request with
  | measure => none
  | _ =>
    if request.length = 0 then some (request.verb ++ " of zero bytes")
    else if capacity < request.length then
      some (request.verb ++ " of " ++ toString request.length ++
        " bytes exceeds ring capacity " ++ toString capacity)
    else none

/-- What a request that cannot be served has to wait for. -/
def condition : RingRequest → Condition
  | produce .. => .spaceAvailable
  | _ => .dataAvailable

/-- What a request that was served makes available. -/
def effect : RingRequest → Condition
  | consume .. => .spaceAvailable
  | _ => .dataAvailable

/-- Whether a request waits until it can be served. -/
def waits : RingRequest → Bool
  | produce _ wait => wait
  | consume _ wait => wait
  | measure => false

/-- The bytes, or the places for bytes, that a ring has for a request. -/
def available (request : RingRequest) (ring : Ring) : Nat :=
  match request with
  | produce .. => ring.space
  | _ => ring.size

/-- The error of a request that cannot be served and does not wait. -/
def shortage (request : RingRequest) (ring : Ring) : RegionError :=
  match request with
  | produce .. => .ringFull request.length (request.available ring)
  | _ => .insufficientData request.length (request.available ring)

/-- Copy the bytes of a request: the ring afterwards and the result. -/
def copy (request : RingRequest) (ring : Ring) : Ring × RingOutcome :=
  match request with
  | produce data _ => (ring.store data, .produced data.length)
  | consume length _ => (ring, .consumed (ring.front length))
  | measure => (ring, .measured ring.size)

def update (request : RingRequest) (ring : Ring) : Ring :=
  match request with
  | produce data _ => ring.commit data.length
  | consume length _ => ring.discard length
  | measure => ring

end RingRequest

namespace RingCall

/-- A call that has not begun. -/
def start (request : RingRequest) : RingCall := ⟨request, .arriving⟩

def goTo (call : RingCall) (phase : RingPhase) : RingCall := { call with phase }

/-- Look at a request.  The bytes of a private ring are counted without the mutex. -/
def arrive (guarded : GuardedRing) (call : RingCall) : RingCall :=
  match call.request.rejection? guarded.ring.capacity with
  | some text => call.goTo (.finished (.rejected text))
  | none =>
    if call.request = .measure ∧ guarded.shared = false then
      call.goTo (.finished (.measured guarded.ring.size))
    else call.goTo .locking

/-- Test with the mutex held whether the ring can serve a request. -/
def test (guarded : GuardedRing) (call : RingCall) : GuardedRing × RingCall :=
  let request := call.request
  if request = .measure then
    (guarded, call.goTo (.unlocking (.measured guarded.ring.size)))
  else if request.length ≤ request.available guarded.ring then
    (guarded, call.goTo .copying)
  else if request.waits then
    ({ guarded with monitor := guarded.monitor.release },
      call.goTo (.asleep (guarded.monitor.signals request.condition)))
  else (guarded, call.goTo (.unlocking (.failed (request.shortage guarded.ring))))

/-- Take the mutex to test, or finish with the error of the mutex. -/
def acquire? (guarded : GuardedRing) (call : RingCall) : Option (GuardedRing × RingCall) :=
  guarded.monitor.acquire?.map fun (monitor, result) =>
    match result with
    | .ok () => ({ guarded with monitor }, call.goTo .testing)
    | .error error =>
      ({ guarded with monitor }, call.goTo (.finished (.failed (.lock error))))

def step (guarded : GuardedRing) (call : RingCall) : Option (GuardedRing × RingCall) :=
  match call.phase with
  | .arriving => some (guarded, call.arrive guarded)
  | .locking => call.acquire? guarded
  | .testing => some (call.test guarded)
  | .asleep signals =>
    if guarded.monitor.signals call.request.condition = signals then none
    else some (guarded, call.goTo .relocking)
  | .relocking => call.acquire? guarded
  | .copying =>
    let (ring, outcome) := call.request.copy guarded.ring
    some ({ guarded with ring }, call.goTo (.updating outcome))
  | .updating outcome =>
    some ({ guarded with ring := call.request.update guarded.ring },
      call.goTo (.notifying outcome))
  | .notifying outcome =>
    some ({ guarded with monitor := guarded.monitor.broadcast call.request.effect },
      call.goTo (.unlocking outcome))
  | .unlocking outcome =>
    some ({ guarded with monitor := guarded.monitor.release },
      call.goTo (.finished outcome))
  | .finished _ => none

end RingCall

end BoundedStream
