import BoundedStream.Proofs.Ring.Solo
import Mathlib.Data.List.InsertIdx

/-!
# Traffic on a ring

Calls reach a ring through any number of handles, one after another: rings of a process,
segments and transports.  A call that has to wait may go on at any later time, and handles
are opened and given up in between.  All of that is answered as one bounded queue answers
it, and the ring stands for that queue at every moment.
-/

namespace BoundedStream

/-! ## Calls through handles -/

namespace Endpoint

/-- The call for a request through an endpoint. -/
def call? (endpoint : Endpoint) : RingRequest → Option Call
  | .produce data wait => endpoint.produceCall? data wait
  | .consume length wait => endpoint.consumeCall? length wait
  | .measure => endpoint.measureCall?

/-- The ring that is reached through an endpoint. -/
def location? : Endpoint → Option Location
  | .ring number => some (.heap number)
  | .segment handle => some (.region handle.region)
  | .transport ⟨_, _, .segment handle⟩ => some (.region handle.region)
  | _ => none

/-- A request as an endpoint passes it on: a transport waits in any case. -/
def passedOn (endpoint : Endpoint) (request : RingRequest) : RingRequest :=
  match endpoint, request with
  | .transport _, .produce data _ => .produce data true
  | .transport _, .consume length _ => .consume length true
  | _, request => request

variable {endpoint : Endpoint} {location : Location} {request : RingRequest}

theorem rejection?_passedOn (capacity : Nat) :
    (endpoint.passedOn request).rejection? capacity = request.rejection? capacity := by
  cases endpoint <;> cases request <;> rfl

/-- Every endpoint of a ring passes requests on to it that the ring does not reject. -/
theorem call?_eq (reaches : endpoint.location? = some location) {capacity : Nat}
    (admitted : request.rejection? capacity = none) :
    endpoint.call? request =
      some (.ring location (.start (endpoint.passedOn request))) := by
  have nonempty : request ≠ .measure → request.length ≠ 0 := by
    intro moves empty
    cases request with
    | measure => exact moves rfl
    | produce data wait => simp [RingRequest.rejection?, empty] at admitted
    | consume length wait => simp [RingRequest.rejection?, empty] at admitted
  cases endpoint with
  | ring number =>
      cases reaches
      cases request <;> rfl
  | segment handle =>
      cases reaches
      cases request <;> rfl
  | transport opened =>
      obtain ⟨config, role, backend⟩ := opened
      cases backend with
      | pipe number => cases reaches
      | segment handle =>
          cases reaches
          cases request with
          | measure => rfl
          | produce data wait =>
              have isNonempty : data.isEmpty = false := by
                simpa [RingRequest.length] using nonempty (by simp)
              simp [call?, produceCall?, Transport.produceCall?, isNonempty, passedOn]
          | consume length wait =>
              have positive : length ≠ 0 := nonempty (by simp)
              simp [call?, consumeCall?, Transport.consumeCall?, positive, passedOn]
  | pipe number => cases reaches
  | monitor number => cases reaches

end Endpoint

/-! ## Traffic -/

/-- A call that has to wait. -/
structure Waiter where
  endpoint : Endpoint
  request : RingRequest
  call : Call

/-- The answer to a request. -/
structure Reply where
  request : RingRequest
  result : Except CallError CallValue

/-- A host with the calls that have to wait. -/
structure Traffic where
  host : Host
  waiting : List Waiter

/-- What may happen next on a host. -/
inductive TrafficEvent where
  /-- A request is made through an endpoint. -/
  | call (endpoint : Endpoint) (request : RingRequest)
  /-- A call that had to wait goes on. -/
  | resume (number : Nat)
  /-- A process makes a ring. -/
  | allocate (capacity : Nat)
  | create (path : String) (capacity mode : Nat)
  | attach (path : String)
  | connect (config : Config) (role : Role)
  | close (endpoint : Endpoint)

namespace Traffic

/-- Let a call go on until it is answered or has to wait. -/
def pursue (traffic : Traffic) (endpoint : Endpoint) (request : RingRequest) (call : Call) :
    List Reply × Traffic :=
  let (_, host, call) := call.advance Call.patience traffic.host false
  match call.outcome? with
  | some outcome =>
    ([⟨request, Endpoint.resultOf (some endpoint) outcome⟩], { traffic with host })
  | none => ([], ⟨host, traffic.waiting ++ [⟨endpoint, request, call⟩]⟩)

/-- What happens at an event: the answer, if there is one, and the host afterwards. -/
def perform (traffic : Traffic) : TrafficEvent → List Reply × Traffic
  | .call endpoint request =>
    match endpoint.call? request with
    | some call => traffic.pursue endpoint (endpoint.passedOn request) call
    | none => ([], traffic)
  | .resume number =>
    match traffic.waiting[number]? with
    | some waiter =>
      { traffic with waiting := traffic.waiting.eraseIdx number }.pursue waiter.endpoint
        waiter.request waiter.call
    | none => ([], traffic)
  | .allocate capacity =>
    match GuardedRing.allocate capacity with
    | .ok guarded => ([], { traffic with host := (traffic.host.addRing guarded).2 })
    | .error _ => ([], traffic)
  | .create path capacity mode =>
    let memory := (traffic.host.memory.create path capacity mode).2
    ([], { traffic with host := { traffic.host with memory } })
  | .attach path =>
    let memory := (traffic.host.memory.attach path).2
    ([], { traffic with host := { traffic.host with memory } })
  | .connect config role =>
    ([], { traffic with host := (Transport.connect traffic.host config role).2 })
  | .close endpoint => ([], { traffic with host := endpoint.close traffic.host })

/-- A sequence of events: all answers in order, and the host at the end. -/
def run (traffic : Traffic) : List TrafficEvent → List Reply × Traffic
  | [] => ([], traffic)
  | event :: events =>
    let (replies, next) := traffic.perform event
    let (later, last) := next.run events
    (replies ++ later, last)

end Traffic

/-! ## Bounded queues -/

/-- A queue of bytes, with the requests through endpoints that have to wait. -/
structure BoundedQueue where
  bytes : List UInt8
  waiting : List (Endpoint × RingRequest)

namespace BoundedQueue

/-- A queue without bytes, for which nobody waits. -/
def empty : BoundedQueue := ⟨[], []⟩

/-- The words in which a handle tells of an error. -/
def refusal (endpoint : Endpoint) (error : RegionError) : CallError :=
  match endpoint with
  | .transport _ => .stream (.region error)
  | _ => .region error

/-- What a queue of at most so many bytes answers to a request, and its bytes afterwards.  All
of the data is taken in, or exactly so many bytes are given out; there is no answer as long as
the request has to wait. -/
def reply? (capacity : Nat) (bytes : List UInt8) (endpoint : Endpoint) :
    RingRequest → Option (Except CallError CallValue × List UInt8)
  | .produce data wait =>
    if bytes.length + data.length ≤ capacity then
      some (.ok (.count data.length), bytes ++ data)
    else if wait then none
    else some (.error (refusal endpoint (.ringFull data.length (capacity - bytes.length))), bytes)
  | .consume length wait =>
    if length ≤ bytes.length then some (.ok (.bytes (bytes.take length)), bytes.drop length)
    else if wait then none
    else some (.error (refusal endpoint (.insufficientData length bytes.length)), bytes)
  | .measure => some (.ok (.count bytes.length), bytes)

/-- Answer a request, or let it wait. -/
def pursue (capacity : Nat) (queue : BoundedQueue) (endpoint : Endpoint)
    (request : RingRequest) : List Reply × BoundedQueue :=
  match reply? capacity queue.bytes endpoint request with
  | some (result, bytes) => ([⟨request, result⟩], { queue with bytes })
  | none => ([], { queue with waiting := queue.waiting ++ [(endpoint, request)] })

/-- What an event means to a bounded queue; handles mean nothing to it. -/
def perform (capacity : Nat) (queue : BoundedQueue) :
    TrafficEvent → List Reply × BoundedQueue
  | .call endpoint request =>
    queue.pursue capacity endpoint (endpoint.passedOn request)
  | .resume number =>
    match queue.waiting[number]? with
    | some (endpoint, request) =>
      { queue with waiting := queue.waiting.eraseIdx number }.pursue capacity endpoint
        request
    | none => ([], queue)
  | _ => ([], queue)

/-- A sequence of events: all answers in order, and the queue at the end. -/
def run (capacity : Nat) (queue : BoundedQueue) :
    List TrafficEvent → List Reply × BoundedQueue
  | [] => ([], queue)
  | event :: events =>
    let (replies, next) := queue.perform capacity event
    let (later, last) := next.run capacity events
    (replies ++ later, last)

/-- What a handle makes of the outcomes of its ring is what the queue answers. -/
theorem reply?_eq (capacity : Nat) (bytes : List UInt8) (endpoint : Endpoint)
    (request : RingRequest) : reply? capacity bytes endpoint request =
      (request.serve? capacity bytes).map fun answer =>
        (Endpoint.resultOf (some endpoint) (.ring answer.1), answer.2) := by
  cases request with
  | produce data wait =>
      simp only [reply?, RingRequest.serve?]
      split
      · cases endpoint <;> rfl
      · cases wait <;> cases endpoint <;> rfl
  | consume length wait =>
      simp only [reply?, RingRequest.serve?]
      split
      · cases endpoint <;> rfl
      · cases wait <;> cases endpoint <;> rfl
  | measure => cases endpoint <;> rfl

end BoundedQueue

/-! ## One queue for one ring -/

/-- What a sleeping call relies on: as long as it was told of nothing, the queue has no
answer for it. -/
def Waiter.Sleeps (waiter : Waiter) (location : Location) (guarded : GuardedRing)
    (bytes : List UInt8) : Prop :=
  ∃ signals ≤ guarded.monitor.signals waiter.request.condition,
    waiter.call = .ring location ⟨waiter.request, .asleep signals⟩ ∧
      (guarded.monitor.signals waiter.request.condition = signals →
        waiter.request.serve? guarded.ring.capacity bytes = none)

theorem Waiter.Sleeps.follow {waiter : Waiter} {location : Location}
    {guarded guarded' : GuardedRing} {bytes bytes' : List UInt8}
    (sleeps : waiter.Sleeps location guarded bytes)
    (follows : guarded.Follows guarded' bytes bytes') :
    waiter.Sleeps location guarded' bytes' := by
  obtain ⟨signals, before, isCall, untold⟩ := sleeps
  have grows := follows.signals_le waiter.request.condition
  refine ⟨signals, by omega, isCall, fun same => ?_⟩
  rw [follows.capacity_eq]
  exact follows.told _ (untold (by omega)) (by omega)

namespace Traffic

variable {traffic : Traffic} {location : Location} {guarded : GuardedRing}
  {queue : BoundedQueue}

/-- The ring at a location stands for a queue, and the same calls wait for both. -/
structure Refines (traffic : Traffic) (location : Location) (guarded : GuardedRing)
    (queue : BoundedQueue) : Prop where
  present : traffic.host.guarded? location = some guarded
  represents : guarded.ring.Represents queue.bytes
  free : guarded.monitor.lock = .free
  waiting_eq : queue.waiting =
    traffic.waiting.map fun waiter => (waiter.endpoint, waiter.request)
  sleeps : ∀ waiter ∈ traffic.waiting, waiter.Sleeps location guarded queue.bytes

/-- Opening handles and giving them up means nothing to the ring. -/
theorem Refines.keep (refines : traffic.Refines location guarded queue) {host : Host}
    (keeps : traffic.host.KeepsRings host) :
    ({ traffic with host } : Traffic).Refines location guarded queue :=
  { refines with present := keeps location guarded refines.present }

/-- A call that goes on is answered by the ring as it is by the queue. -/
theorem Refines.pursue (refines : traffic.Refines location guarded queue)
    (endpoint : Endpoint) {call : RingCall}
    (settles : call.Settles guarded queue.bytes) :
    ∃ guarded', guarded'.ring.capacity = guarded.ring.capacity ∧
      (traffic.pursue endpoint call.request (.ring location call)).1 =
        (queue.pursue guarded.ring.capacity endpoint call.request).1 ∧
      (traffic.pursue endpoint call.request (.ring location call)).2.Refines location
        guarded' (queue.pursue guarded.ring.capacity endpoint call.request).2 := by
  have advanced := Call.advance_of_settles settles refines.present
  unfold Traffic.pursue BoundedQueue.pursue
  rw [BoundedQueue.reply?_eq]
  cases answered : call.request.serve? guarded.ring.capacity queue.bytes with
  | none =>
      rw [answered] at advanced
      obtain ⟨moved, host, advanced, present⟩ := advanced
      rw [advanced]
      refine ⟨guarded, rfl, rfl, present, refines.represents, refines.free, ?_, ?_⟩
      · change queue.waiting ++ [(endpoint, call.request)] =
          List.map _ (traffic.waiting ++ [_])
        rw [refines.waiting_eq, List.map_append]
        rfl
      · intro waiter member
        rcases List.mem_append.mp member with old | new
        · exact refines.sleeps waiter old
        · rw [List.mem_singleton] at new
          subst new
          exact ⟨_, Nat.le_refl _, rfl, fun _ => answered⟩
  | some answer =>
      obtain ⟨outcome, bytes⟩ := answer
      rw [answered] at advanced
      obtain ⟨moved, host, guarded', advanced, present, follows⟩ := advanced
      rw [advanced]
      exact ⟨guarded', follows.capacity_eq, rfl, present, follows.represents, follows.free,
        refines.waiting_eq,
        fun waiter member => (refines.sleeps waiter member).follow follows⟩

end Traffic

/-- Requests come through endpoints of the ring at a location and could be served by it. -/
def TrafficEvent.Admitted (location : Location) (capacity : Nat) : TrafficEvent → Prop
  | .call endpoint request =>
    endpoint.location? = some location ∧ request.rejection? capacity = none
  | _ => True

namespace Traffic

variable {traffic : Traffic} {location : Location} {guarded : GuardedRing}
  {queue : BoundedQueue}

/-- Whatever happens next, the ring answers it as the queue does. -/
theorem Refines.perform (refines : traffic.Refines location guarded queue)
    {event : TrafficEvent} (admitted : event.Admitted location guarded.ring.capacity) :
    ∃ guarded', guarded'.ring.capacity = guarded.ring.capacity ∧
      (traffic.perform event).1 = (queue.perform guarded.ring.capacity event).1 ∧
      (traffic.perform event).2.Refines location guarded'
        (queue.perform guarded.ring.capacity event).2 := by
  cases event with
  | call endpoint request =>
      obtain ⟨reaches, served⟩ := admitted
      have passed := (endpoint.rejection?_passedOn guarded.ring.capacity).trans served
      simp only [Traffic.perform, BoundedQueue.perform, Endpoint.call?_eq reaches served]
      exact refines.pursue endpoint
        (RingCall.settles_start refines.represents refines.free passed)
  | resume number =>
      simp only [Traffic.perform, BoundedQueue.perform, refines.waiting_eq,
        List.getElem?_map]
      cases found : traffic.waiting[number]? with
      | none => exact ⟨guarded, rfl, rfl, refines⟩
      | some waiter =>
          obtain ⟨signals, -, isCall, untold⟩ :=
            refines.sleeps waiter (List.mem_of_getElem? found)
          have others : ({ traffic with
              waiting := traffic.waiting.eraseIdx number } : Traffic).Refines location guarded
              { queue with waiting := queue.waiting.eraseIdx number } :=
            { refines with
              waiting_eq := by rw [refines.waiting_eq, List.eraseIdx_map]
              sleeps := fun other member =>
                refines.sleeps other (List.mem_of_mem_eraseIdx member) }
          rw [refines.waiting_eq] at others
          simp only [Option.map_some, isCall]
          exact others.pursue waiter.endpoint
            (RingCall.settles_asleep refines.represents refines.free untold)
  | allocate capacity =>
      simp only [Traffic.perform]
      cases GuardedRing.allocate capacity with
      | error error => exact ⟨guarded, rfl, rfl, refines⟩
      | ok ring => exact ⟨guarded, rfl, rfl, refines.keep (Host.keepsRings_addRing ring)⟩
  | create path capacity mode =>
      exact ⟨guarded, rfl, rfl, refines.keep (Host.keepsRings_create path capacity mode)⟩
  | attach path => exact ⟨guarded, rfl, rfl, refines.keep (Host.keepsRings_attach path)⟩
  | connect config role =>
      exact ⟨guarded, rfl, rfl, refines.keep (Host.keepsRings_connect config role)⟩
  | close endpoint =>
      exact ⟨guarded, rfl, rfl, refines.keep (Host.keepsRings_close endpoint)⟩

theorem Refines.run (refines : traffic.Refines location guarded queue)
    {events : List TrafficEvent}
    (admitted : ∀ event ∈ events, event.Admitted location guarded.ring.capacity) :
    ∃ guarded', guarded'.ring.capacity = guarded.ring.capacity ∧
      (traffic.run events).1 = (queue.run guarded.ring.capacity events).1 ∧
      (traffic.run events).2.Refines location guarded'
        (queue.run guarded.ring.capacity events).2 := by
  induction events generalizing traffic guarded queue with
  | nil => exact ⟨guarded, rfl, rfl, refines⟩
  | cons event events hypothesis =>
      obtain ⟨middle, sameCapacity, sameReplies, next⟩ :=
        refines.perform (admitted event List.mem_cons_self)
      obtain ⟨last, lastCapacity, laterReplies, final⟩ := hypothesis next (by
        intro other member
        rw [sameCapacity]
        exact admitted other (List.mem_cons_of_mem event member))
      rw [sameCapacity] at lastCapacity laterReplies final
      refine ⟨last, lastCapacity, ?_, final⟩
      simp only [Traffic.run, BoundedQueue.run, sameReplies, laterReplies]

end Traffic

/-! ## Bytes in order -/

namespace Reply

/-- The bytes that a reply hands out. -/
def taken (reply : Reply) : List UInt8 :=
  match reply.result with
  | .ok (.bytes bytes) => bytes
  | _ => []

/-- The bytes that a reply acknowledges: as many of the data as it counts. -/
def put (reply : Reply) : List UInt8 :=
  match reply.request, reply.result with
  | .produce data _, .ok (.count count) => data.take count
  | _, _ => []

end Reply

namespace BoundedQueue

variable (capacity : Nat) (queue : BoundedQueue)

/-- An answer takes the bytes that it hands out from the front of the queue, and adds those
that it acknowledges at its end. -/
theorem reply?_balance {capacity : Nat} {bytes bytes' : List UInt8} {endpoint : Endpoint}
    {request : RingRequest} {result : Except CallError CallValue}
    (replied : reply? capacity bytes endpoint request = some (result, bytes')) :
    Reply.taken ⟨request, result⟩ ++ bytes' = bytes ++ Reply.put ⟨request, result⟩ := by
  cases request with
  | produce data wait =>
      simp only [reply?] at replied
      split at replied
      · cases replied
        simp [Reply.taken, Reply.put]
      · split at replied <;> cases replied
        simp [Reply.taken, Reply.put]
  | consume length wait =>
      simp only [reply?] at replied
      split at replied
      · cases replied
        simp [Reply.taken, Reply.put]
      · split at replied <;> cases replied
        simp [Reply.taken, Reply.put]
  | measure =>
      cases replied
      simp [Reply.taken, Reply.put]

theorem pursue_balance (endpoint : Endpoint) (request : RingRequest) :
    (queue.pursue capacity endpoint request).1.flatMap Reply.taken ++
        (queue.pursue capacity endpoint request).2.bytes =
      queue.bytes ++ (queue.pursue capacity endpoint request).1.flatMap Reply.put := by
  unfold pursue
  cases replied : reply? capacity queue.bytes endpoint request with
  | none => simp
  | some answer =>
      obtain ⟨result, bytes⟩ := answer
      simpa using reply?_balance replied

theorem perform_balance (event : TrafficEvent) :
    (queue.perform capacity event).1.flatMap Reply.taken ++
        (queue.perform capacity event).2.bytes =
      queue.bytes ++ (queue.perform capacity event).1.flatMap Reply.put := by
  cases event with
  | call endpoint request =>
      exact pursue_balance capacity queue endpoint (endpoint.passedOn request)
  | resume number =>
      simp only [perform]
      cases queue.waiting[number]? with
      | none => simp
      | some waiter => exact pursue_balance capacity _ waiter.1 waiter.2
  | _ => simp [perform]

/-- No byte is lost, doubled or moved. -/
theorem run_balance (events : List TrafficEvent) :
    (queue.run capacity events).1.flatMap Reply.taken ++
        (queue.run capacity events).2.bytes =
      queue.bytes ++ (queue.run capacity events).1.flatMap Reply.put := by
  induction events generalizing queue with
  | nil => simp [run]
  | cons event events hypothesis =>
      have first := perform_balance capacity queue event
      have later := hypothesis (queue.perform capacity event).2
      simp only [run, List.flatMap_append]
      rw [List.append_assoc, later, ← List.append_assoc, first, List.append_assoc]

end BoundedQueue

/-! ## The ring as a bounded queue -/

namespace Traffic

/-- From its first use on, a ring answers every request through every handle as one bounded
queue does, and it stands for that queue: no byte is lost, doubled, moved or overwritten. -/
theorem run_refines_queue {host : Host} {location : Location} {capacity : Nat}
    {shared : Bool} {events : List TrafficEvent}
    (made : host.guarded? location = some (.new capacity shared)) (positive : 0 < capacity)
    (admitted : ∀ event ∈ events, event.Admitted location capacity) :
    let reached := Traffic.run ⟨host, []⟩ events
    let queue := BoundedQueue.empty.run capacity events
    reached.1 = queue.1 ∧
      (∃ guarded, reached.2.host.guarded? location = some guarded ∧
        guarded.ring.capacity = capacity ∧ guarded.ring.Represents queue.2.bytes) ∧
      reached.1.flatMap Reply.taken ++ queue.2.bytes = reached.1.flatMap Reply.put := by
  intro reached queue
  have begins : ({ host, waiting := [] } : Traffic).Refines location
      (.new capacity shared) .empty :=
    ⟨made, Ring.represents_empty positive, rfl, rfl, by simp⟩
  obtain ⟨guarded, sameCapacity, sameReplies, refines⟩ := begins.run admitted
  have replies : reached.1 = queue.1 := sameReplies
  have balance := BoundedQueue.empty.run_balance capacity events
  refine ⟨replies, ⟨guarded, refines.present, sameCapacity, refines.represents⟩, ?_⟩
  rw [replies]
  exact balance

/-- A ring of three bytes is filled to the last place, makes a producer wait, and goes
round. -/
theorem run_refines_queue_of_three_bytes :
    ((Traffic.run ⟨{ Host.fresh with rings := [.new 3 false] }, []⟩
      [.call (.ring 0) (.produce [1, 2, 3] false), .call (.ring 0) (.produce [4, 5] true),
        .call (.ring 0) (.consume 2 false), .resume 0,
        .call (.ring 0) (.consume 3 false)]).1.flatMap Reply.taken) = [1, 2, 3, 4, 5] := by
  have refined := @run_refines_queue { Host.fresh with rings := [.new 3 false] } (.heap 0) 3
    false
    [.call (.ring 0) (.produce [1, 2, 3] false), .call (.ring 0) (.produce [4, 5] true),
      .call (.ring 0) (.consume 2 false), .resume 0, .call (.ring 0) (.consume 3 false)]
    rfl (by decide)
    (by simp [TrafficEvent.Admitted, Endpoint.location?, RingRequest.rejection?,
      RingRequest.length])
  rw [refined.1]
  rfl

end Traffic

end BoundedStream
