import BoundedStream.Pipe.Call
import BoundedStream.Proofs.FileSystem.Paths
import BoundedStream.Proofs.Pipe.Pages
import Mathlib.Logic.Function.Basic

/-!
# Two ends of a FIFO

A producer and a consumer use one FIFO and nobody else does.  Whoever opens its end first
waits for the other one; nobody goes on before both have opened, and the consumer closes its
end last.  Then a transfer can always go on, unless its party waits for one that has not come,
or the bytes of the FIFO are not as it needs them.
-/

namespace BoundedStream

/-- The other one of two roles. -/
def Role.peer : Role → Role
  | producer => consumer
  | consumer => producer

@[simp]
theorem Role.peer_ne (role : Role) : role.peer ≠ role := by cases role <;> decide

@[simp]
theorem Role.peer_peer (role : Role) : role.peer.peer = role := by cases role <;> rfl

/-- How a party stands to its end of a FIFO. -/
inductive Presence where
  /-- It has not opened its end. -/
  | away
  /-- It opened its end before the other party did, and waits for that. -/
  | waiting
  /-- It has opened its end and met the other party. -/
  | met
  /-- It has closed its end. -/
  | gone
deriving DecidableEq

namespace Presence

/-- The number of ends that it has open. -/
def ends : Presence → Nat
  | waiting | met => 1
  | away | gone => 0

/-- The number of times that it has opened its end. -/
def opens : Presence → Nat
  | away => 0
  | waiting | met | gone => 1

/-- Whether a producer and a consumer can stand to their ends so at one moment. -/
def suits : (producer consumer : Presence) → Bool
  | away, away | waiting, away | away, waiting => true
  | waiting, met | met, waiting | met, met => true
  | gone, waiting | gone, met | gone, gone => true
  | _, _ => false

/-- How a party stands that opens its end, which waits if the other one has not come. -/
def arrival (peer : Presence) : Presence := if peer.ends = 0 then waiting else met

@[simp]
theorem ends_arrival (peer : Presence) : peer.arrival.ends = 1 := by cases peer <;> rfl

@[simp]
theorem opens_arrival (peer : Presence) : peer.arrival.opens = 1 := by cases peer <;> rfl

variable {producer consumer : Presence}

theorem suits_of_enter_producer (suits : away.suits consumer = true) :
    consumer.arrival.suits consumer = true := by
  revert suits
  cases consumer <;> decide

theorem suits_arrival (producer : Presence) : producer.suits producer.arrival = true := by
  cases producer <;> decide

theorem suits_of_meet_producer (suits : waiting.suits consumer = true)
    (come : consumer ≠ away) : met.suits consumer = true := by
  revert suits come
  cases consumer <;> decide

theorem suits_of_meet_consumer (suits : producer.suits waiting = true)
    (come : producer ≠ away) : producer.suits met = true := by
  revert suits come
  cases producer <;> decide

theorem suits_of_leave_producer (suits : met.suits consumer = true) :
    gone.suits consumer = true ∧ consumer.ends = 1 := by
  revert suits
  cases consumer <;> decide

/-- What is counted of both parties when one of them changes. -/
theorem count_update (count : Presence → Nat) {presence : Role → Presence} {role : Role}
    {new : Presence} {extra : Nat} (grows : count new = count (presence role) + extra)
    (other : Role) : count (Function.update presence role new other) =
      count (presence other) + if other = role then extra else 0 := by
  by_cases same : other = role
  · rw [same, Function.update_self, if_pos rfl, grows]
  · rw [Function.update_of_ne same, if_neg same, Nat.add_zero]

/-- Whoever has not opened its end finds the other one open, or never opened. -/
theorem away_of_ends_eq_zero {role : Role} {presence : Role → Presence}
    (suits : (presence .producer).suits (presence .consumer) = true)
    (isAway : presence role = away) (none : (presence role.peer).ends = 0) :
    presence role.peer = away := by
  revert none
  cases role with
  | producer =>
      rw [isAway] at suits
      change (presence .consumer).ends = 0 → presence .consumer = away
      revert suits
      cases presence .consumer <;> decide
  | consumer =>
      rw [isAway] at suits
      change (presence .producer).ends = 0 → presence .producer = away
      revert suits
      cases presence .producer <;> decide

end Presence

/-- Where a producer and a consumer meet. -/
structure Venue where
  path : String
  /-- The FIFO that the path leads to. -/
  inode : Nat
  /-- How often each side of the FIFO was opened before. -/
  origin : Role → Nat

/-- Nobody but the two parties has an end of a FIFO.  They stand to it as given, and the given
bytes have been taken out of it. -/
structure Fifo.Attended (fifo : Fifo) (origin : Role → Nat) (presence : Role → Presence)
    (taken : List UInt8) : Prop where
  ends : ∀ role, fifo.ends role = (presence role).ends
  opens : ∀ role, fifo.opens role = origin role + (presence role).opens
  packed : fifo.Packed
  suits : (presence .producer).suits (presence .consumer) = true
  silent : presence .producer = .away ∨ presence .producer = .waiting →
    taken ++ fifo.contents = []

namespace Fifo.Attended

variable {fifo later : Fifo} {origin : Role → Nat} {presence : Role → Presence}
  {taken : List UInt8} {role : Role}

/-- A party opens its end. -/
theorem enter (attended : fifo.Attended origin presence taken) (away : presence role = .away)
    (ends : ∀ other, later.ends other = fifo.ends other + if other = role then 1 else 0)
    (opens : ∀ other, later.opens other = fifo.opens other + if other = role then 1 else 0)
    (pages : later.pages = fifo.pages) :
    later.Attended origin
      (Function.update presence role (presence role.peer).arrival) taken := by
  have suits := attended.suits
  have moreEnds : (presence role.peer).arrival.ends = (presence role).ends + 1 := by
    rw [away, Presence.ends_arrival]
    rfl
  have moreOpens : (presence role.peer).arrival.opens = (presence role).opens + 1 := by
    rw [away, Presence.opens_arrival]
    rfl
  refine ⟨fun other => ?_, fun other => ?_, ?_, ?_, fun early => ?_⟩
  · rw [ends, attended.ends, Presence.count_update Presence.ends moreEnds]
  · rw [opens, attended.opens, Presence.count_update Presence.opens moreOpens, Nat.add_assoc]
  · rw [Fifo.Packed, pages]
    exact attended.packed
  · cases role with
    | producer =>
        rw [away] at suits
        exact Presence.suits_of_enter_producer suits
    | consumer => exact Presence.suits_arrival (presence .producer)
  · rw [Fifo.contents, pages]
    refine attended.silent ?_
    cases role with
    | producer => exact .inl away
    | consumer => exact early

/-- A party that waits learns that the other one has opened its end. -/
theorem meet (attended : fifo.Attended origin presence taken) (waits : presence role = .waiting)
    (come : presence role.peer ≠ .away) :
    fifo.Attended origin (Function.update presence role .met) taken := by
  have suits := attended.suits
  have sameEnds : Presence.met.ends = (presence role).ends + 0 := by rw [waits]; rfl
  have sameOpens : Presence.met.opens = (presence role).opens + 0 := by rw [waits]; rfl
  refine ⟨fun other => ?_, fun other => ?_, attended.packed, ?_, fun early => ?_⟩
  · rw [attended.ends, Presence.count_update Presence.ends sameEnds, ite_self, Nat.add_zero]
  · rw [attended.opens, Presence.count_update Presence.opens sameOpens, ite_self, Nat.add_zero]
  · cases role with
    | producer =>
        rw [waits] at suits
        exact Presence.suits_of_meet_producer suits come
    | consumer =>
        rw [waits] at suits
        exact Presence.suits_of_meet_consumer suits come
  · cases role with
    | producer => simp at early
    | consumer => exact attended.silent early

/-- Bytes are put in or taken out. -/
theorem refill (attended : fifo.Attended origin presence taken) {contents : List UInt8}
    (refilled : Refilled fifo later contents) {taken' : List UInt8}
    (silent : presence .producer = .away ∨ presence .producer = .waiting →
      taken' ++ contents = []) :
    later.Attended origin presence taken' where
  ends role := (refilled.ends role).trans (attended.ends role)
  opens role := (refilled.opens role).trans (attended.opens role)
  packed := refilled.packed
  suits := attended.suits
  silent early := by
    rw [refilled.contents_eq]
    exact silent early

/-- The producer closes its end, while the consumer still has its own. -/
theorem closeWriter (attended : fifo.Attended origin presence taken)
    (met : presence .producer = .met) :
    fifo.closeWriter.Attended origin (Function.update presence .producer .gone) taken ∧
      fifo.closeWriter.contents = fifo.contents := by
  have suits := attended.suits
  rw [met] at suits
  obtain ⟨suits, present⟩ := Presence.suits_of_leave_producer suits
  have writers := attended.ends .producer
  have readers := attended.ends .consumer
  have opens := attended.opens .producer
  rw [met] at writers opens
  rw [present] at readers
  have closed : fifo.closeWriter = { fifo with writers := fifo.writers - 1 } := by
    have some : fifo.readers ≠ 0 := by
      change fifo.readers = 1 at readers
      omega
    simp [Fifo.closeWriter, settle, some]
  rw [closed]
  refine ⟨⟨?_, ?_, attended.packed, suits, ?_⟩, rfl⟩
  · rintro (_ | _)
    · change fifo.writers - 1 = 0
      change fifo.writers = 1 at writers
      omega
    · exact readers.trans present.symm
  · rintro (_ | _)
    · exact opens
    · exact attended.opens .consumer
  · rintro (early | early) <;> cases early

/-- The consumer closes its end, which is the last one, once it has taken everything. -/
theorem closeReader (attended : fifo.Attended origin presence taken)
    (gone : presence .producer = .gone) (met : presence .consumer = .met)
    (empty : fifo.contents = []) :
    fifo.closeReader.Attended origin (Function.update presence .consumer .gone) taken ∧
      fifo.closeReader.contents = [] := by
  have writers := attended.ends .producer
  have readers := attended.ends .consumer
  have opens := attended.opens .consumer
  rw [met] at readers opens
  rw [gone] at writers
  have noPages : fifo.pages = [] := (pages_eq_nil_iff attended.packed).mpr empty
  have closed : fifo.closeReader = { fifo with pages := [], readers := 0 } := by
    change fifo.readers = 1 at readers
    change fifo.writers = 0 at writers
    simp [Fifo.closeReader, settle, readers, writers]
  rw [closed]
  refine ⟨⟨?_, ?_, ?_, ?_, fun early => ?_⟩, rfl⟩
  · rintro (_ | _)
    · exact attended.ends .producer
    · rfl
  · rintro (_ | _)
    · exact attended.opens .producer
    · exact opens
  · intro page member
    cases member
  · simp [gone, Presence.suits]
  · simp [gone] at early

end Fifo.Attended

/-! ## Opening -/

namespace Venue

variable (venue : Venue)

/-- An endpoint whose descriptor is open. -/
def opened (role : Role) (flags : Int32) : Pipe :=
  { Pipe.closed venue.path role flags with
    file := some ((OpenFile.forRole venue.inode role.isProducer).addFlags flags) }

/-- A transfer that is opening its endpoint. -/
def opening (role : Role) (flags : Int32) : Pipe :=
  { Pipe.closed venue.path role flags with opening := true }

/-- The path leads to the FIFO, to which the parties stand as given. -/
structure Hosts (files : FileSystem) (fifo : Fifo) (presence : Role → Presence)
    (taken : List UInt8) : Prop where
  leads : files.resolve true venue.path = .ok venue.inode
  present : files.content? venue.inode = some (.fifo fifo)
  attended : fifo.Attended venue.origin presence taken

/-- An endpoint between two transfers: it is opened with the first one. -/
inductive Idle (role : Role) (flags : Int32) : Pipe → Presence → Prop
  | closed : Idle role flags (.closed venue.path role flags) .away
  | opened : Idle role flags (venue.opened role flags) .met

/-- How far a transfer has come that does not yet read or write, and how many steps it is away
from that. -/
inductive Approach (role : Role) (flags : Int32) : PipePhase → Pipe → Presence → Nat → Prop
  | looking (pipe : Pipe) (presence : Presence) (idle : venue.Idle role flags pipe presence) :
      Approach role flags .looking pipe presence 6
  | queueing : Approach role flags .queueing (.closed venue.path role flags) .away 5
  | rechecking : Approach role flags .rechecking (venue.opening role flags) .away 4
  | opening : Approach role flags .opening (venue.opening role flags) .away 3
  | awaiting : Approach role flags
      (.awaitingPeer (.forRole venue.inode role.isProducer) (venue.origin role.peer))
      (venue.opening role flags) .waiting 2
  | keeping : Approach role flags (.keeping (.forRole venue.inode role.isProducer))
      (venue.opening role flags) .met 1

/-- A transfer that opens its endpoint, or may begin to read or write. -/
inductive Arrives (role : Role) (flags : Int32) (request : PipeRequest) (distance : Nat) :
    PipePhase → Pipe → Presence → Prop
  | nearer (phase : PipePhase) (pipe : Pipe) (presence : Presence) (closer : Nat)
      (approach : venue.Approach role flags phase pipe presence closer)
      (less : closer < distance) :
      Arrives role flags request distance phase pipe presence
  | ready : Arrives role flags request distance (.transferring request.progress)
      (venue.opened role flags) .met

variable {venue} {files : FileSystem} {fifo : Fifo} {presence : Role → Presence}
  {taken : List UInt8} {role : Role} {flags : Int32}

/-- The FIFO changes. -/
theorem Hosts.setContent {presence' : Role → Presence} {taken' : List UInt8} {later : Fifo}
    (hosts : venue.Hosts files fifo presence taken)
    (attended : later.Attended venue.origin presence' taken') :
    venue.Hosts (files.setContent venue.inode (.fifo later)) later presence' taken' where
  leads := by
    rw [(FileSystem.SameTree.setContent hosts.present).resolve_eq]
    exact hosts.leads
  present := FileSystem.content?_setContent_self hosts.present _
  attended := attended

/-- Opening the end of a FIFO counts it, and shows whether the other one has come. -/
theorem openFifo_eq (hosts : venue.Hosts files fifo presence taken) (away : presence role = .away)
    (flags : Int32) (request : PipeRequest) : ∃ later phase,
      PipeCall.openFifo ⟨files, venue.opening role flags⟩ ⟨request, .opening⟩ venue.inode
          fifo =
        (⟨files.setContent venue.inode (.fifo later), venue.opening role flags⟩,
          ⟨request, phase⟩) ∧
      later.Attended venue.origin
        (Function.update presence role (presence role.peer).arrival) taken ∧
      later.contents = fifo.contents ∧
      venue.Arrives role flags request 3 phase (venue.opening role flags)
        (presence role.peer).arrival := by
  have attended := hosts.attended
  have peers := attended.ends role.peer
  have opens := attended.opens role.peer
  refine ⟨if role.isProducer then fifo.openWriter else fifo.openReader,
    if (presence role.peer).ends = 0 then
      .awaitingPeer (.forRole venue.inode role.isProducer) (venue.origin role.peer)
    else .keeping (.forRole venue.inode role.isProducer),
    ?_, attended.enter away ?_ ?_ ?_, ?_, ?_⟩
  · have isPeers : (if role.isProducer = true then fifo.readers else fifo.writers) =
        (presence role.peer).ends := by
      rw [← peers]
      cases role <;> rfl
    have isOpens : (presence role.peer).ends = 0 →
        (if role.isProducer = true then fifo.readerOpens else fifo.writerOpens) =
          venue.origin role.peer := by
      intro none
      rw [Presence.away_of_ends_eq_zero attended.suits away none] at opens
      refine Eq.trans ?_ opens
      cases role <;> rfl
    have isRole : (venue.opening role flags).role = role := rfl
    simp only [PipeCall.openFifo, PipeCall.goTo, isRole, isPeers]
    by_cases alone : (presence role.peer).ends = 0
    · rw [if_pos alone, if_pos alone, isOpens alone]
    · rw [if_neg alone, if_neg alone]
  · intro other
    cases role <;> cases other <;> rfl
  · intro other
    cases role <;> cases other <;> rfl
  · cases role <;> rfl
  · cases role <;> rfl
  · unfold Presence.arrival
    split
    · exact .nearer _ _ _ 2 .awaiting (by decide)
    · exact .nearer _ _ _ 1 .keeping (by decide)

/-- A party that waits sees that the other one has opened its end. -/
theorem peerCame_iff (hosts : venue.Hosts files fifo presence taken) (role : Role) :
    PipeCall.peerCame files (.forRole venue.inode role.isProducer) (venue.origin role.peer) =
      true ↔ presence role.peer ≠ .away := by
  have opens := hosts.attended.opens role.peer
  have isOpens : PipeCall.peerCame files (.forRole venue.inode role.isProducer)
      (venue.origin role.peer) = (fifo.opens role.peer != venue.origin role.peer) := by
    simp only [PipeCall.peerCame, OpenFile.forRole,
      FileSystem.fifo?_eq_some_iff.mpr hosts.present]
    cases role <;> rfl
  rw [isOpens, opens]
  cases presence role.peer <;> simp [Presence.opens]

theorem Idle.not_gone {pipe : Pipe} {here : Presence} (idle : venue.Idle role flags pipe here) :
    here ≠ .gone := by
  cases idle <;> decide

theorem Idle.not_waiting {pipe : Pipe} {here : Presence}
    (idle : venue.Idle role flags pipe here) : here ≠ .waiting := by
  cases idle <;> decide

theorem Approach.not_gone {phase : PipePhase} {pipe : Pipe} {here : Presence} {distance : Nat}
    (approach : venue.Approach role flags phase pipe here distance) : here ≠ .gone := by
  cases approach with
  | looking _ _ idle => exact idle.not_gone
  | _ => decide

theorem Approach.unfinished {phase : PipePhase} {pipe : Pipe} {here : Presence}
    {distance : Nat} (approach : venue.Approach role flags phase pipe here distance) :
    ∀ outcome, phase ≠ .finished outcome := by
  rintro outcome rfl
  cases approach

theorem Approach.distance_pos {phase : PipePhase} {pipe : Pipe} {here : Presence}
    {distance : Nat} (approach : venue.Approach role flags phase pipe here distance) :
    0 < distance := by
  cases approach <;> decide

/-- A transfer comes closer to reading or writing with each step, unless it waits for a party
that has not come. -/
theorem Approach.step {phase : PipePhase} {pipe : Pipe} {distance : Nat}
    (approach : venue.Approach role flags phase pipe (presence role) distance)
    (hosts : venue.Hosts files fifo presence taken) (request : PipeRequest) :
    (presence role = .waiting ∧ presence role.peer = .away ∧
        PipeCall.step ⟨files, pipe⟩ ⟨request, phase⟩ = none) ∨
      ∃ files' pipe' phase' fifo' new,
        PipeCall.step ⟨files, pipe⟩ ⟨request, phase⟩ =
          some (⟨files', pipe'⟩, ⟨request, phase'⟩) ∧
        venue.Hosts files' fifo' (Function.update presence role new) taken ∧
        fifo'.contents = fifo.contents ∧ (presence role ≠ .away → new ≠ .away) ∧
        venue.Arrives role flags request distance phase' pipe' new := by
  have stays : venue.Hosts files fifo (Function.update presence role (presence role)) taken := by
    rwa [Function.update_eq_self]
  generalize isPresence : presence role = here at approach stays
  cases approach with
  | looking pipe _ idle =>
      right
      cases idle with
      | closed =>
          exact ⟨files, _, _, fifo, _, rfl, stays, rfl, id,
            .nearer _ _ _ 5 .queueing (by decide)⟩
      | opened => exact ⟨files, _, _, fifo, _, rfl, stays, rfl, id, .ready⟩
  | queueing =>
      right
      exact ⟨files, _, _, fifo, _, rfl, stays, rfl, id,
        .nearer _ _ _ 4 .rechecking (by decide)⟩
  | rechecking =>
      right
      exact ⟨files, _, _, fifo, _, rfl, stays, rfl, id, .nearer _ _ _ 3 .opening (by decide)⟩
  | opening =>
      right
      obtain ⟨later, phase, opened, attended, contents_eq, arrives⟩ :=
        openFifo_eq hosts isPresence flags request
      refine ⟨_, _, phase, later, _, ?_, hosts.setContent attended, contents_eq,
        fun come => absurd rfl come, arrives⟩
      have path_eq : (venue.opening role flags).path = venue.path := rfl
      simp only [PipeCall.step, PipeCall.openPath, path_eq, hosts.leads, hosts.present]
      rw [opened]
  | awaiting =>
      by_cases come : presence role.peer = .away
      · left
        have notCome := mt (peerCame_iff hosts role).mp (not_not.mpr come)
        refine ⟨rfl, come, ?_⟩
        simp only [PipeCall.step, if_neg notCome]
      · right
        refine ⟨files, _, _, fifo, .met, ?_, ⟨hosts.leads, hosts.present,
          hosts.attended.meet isPresence come⟩, rfl, fun _ => by decide,
          .nearer _ _ _ 1 .keeping (by decide)⟩
        simp only [PipeCall.step, if_pos ((peerCame_iff hosts role).mpr come)]
        rfl
  | keeping =>
      right
      exact ⟨files, _, _, fifo, _, rfl, stays, rfl, id, .ready⟩

/-! ## Reading and writing -/

/-- Whether a descriptor with these flags fails where it would have to wait. -/
def isHasty (flags : Int32) : Bool := ((OpenFile.forRole 0 true).addFlags flags).has .nonblock

/-- What a consumer's transfer makes of the FIFO: it takes bytes, finds the end of the stream,
fails, or cannot go on. -/
theorem read_cases (hosts : venue.Hosts files fifo presence taken)
    (met : presence .consumer = .met) (flags : Int32) {count : Nat} (positive : count ≠ 0)
    (progress : OpenFile.WriteProgress) :
    (∃ files' fifo' bytes,
      PipeCall.step ⟨files, venue.opened .consumer flags⟩
          ⟨.consume count, .transferring progress⟩ =
        some (⟨files', venue.opened .consumer flags⟩,
          ⟨.consume count, .finished (.consumed bytes)⟩) ∧
      venue.Hosts files' fifo' presence (taken ++ bytes) ∧
      fifo.contents = bytes ++ fifo'.contents ∧ bytes ≠ [] ∧ bytes.length ≤ count) ∨
    fifo.contents = [] ∧
      PipeCall.step ⟨files, venue.opened .consumer flags⟩
          ⟨.consume count, .transferring progress⟩ =
        if presence .producer = .gone then
          some (⟨files, venue.opened .consumer flags⟩,
            ⟨.consume count, .finished (.consumed [])⟩)
        else if isHasty flags then
          some (⟨files, venue.opened .consumer flags⟩,
            ⟨.consume count, .finished (.failed (.read (.number .tryAgain)))⟩)
        else none := by
  have attended := hosts.attended
  have writers : fifo.writers = 0 ↔ presence .producer = .gone := by
    have suits := attended.suits
    rw [show fifo.writers = _ from attended.ends .producer]
    rw [met] at suits
    revert suits
    cases presence .producer <;> decide
  have isStep : PipeCall.step ⟨files, venue.opened .consumer flags⟩
      ⟨.consume count, .transferring progress⟩ =
      PipeCall.readOnce ⟨files, venue.opened .consumer flags⟩
        ⟨.consume count, .transferring progress⟩
        ((OpenFile.forRole venue.inode false).addFlags flags) count := rfl
  have isRead : OpenFile.read files ((OpenFile.forRole venue.inode false).addFlags flags) count =
      OpenFile.readFifo files ((OpenFile.forRole venue.inode false).addFlags flags) fifo
        count := by
    simp only [OpenFile.read, OpenFile.forRole, OpenFile.addFlags, hosts.present]
    rfl
  have flagged : ((OpenFile.forRole venue.inode false).addFlags flags).has .nonblock =
      isHasty flags := rfl
  rw [isStep, PipeCall.readOnce, isRead]
  rcases OpenFile.readFifo_cases files ((OpenFile.forRole venue.inode false).addFlags flags)
      attended.packed positive with
    ⟨later, bytes, refilled, whole, some, short, done⟩ | ⟨empty, ends⟩
  · left
    rw [done]
    refine ⟨_, later, bytes, rfl, hosts.setContent (attended.refill refilled fun early => ?_),
      whole, some, short⟩
    rw [List.append_assoc, ← whole]
    exact attended.silent early
  · right
    rw [ends, flagged]
    refine ⟨empty, ?_⟩
    by_cases gone : presence .producer = .gone
    · rw [if_pos (writers.mpr gone), if_pos gone]
      rfl
    · rw [if_neg (mt writers.mp gone), if_neg gone]
      cases isHasty flags <;> rfl

/-- What a producer's transfer makes of the FIFO: it adds bytes and ends, adds bytes or at least
begins, fails, or cannot go on. -/
theorem write_cases (hosts : venue.Hosts files fifo presence taken)
    (met : presence .producer = .met) (flags : Int32) (data : List UInt8)
    (progress : OpenFile.WriteProgress) (remains : progress.rest ≠ [])
    (fresh : progress.begun = false → progress.written = 0)
    (patient : progress.begun = true → isHasty flags = false) :
    (∃ files' fifo' part rest phase',
      PipeCall.step ⟨files, venue.opened .producer flags⟩
          ⟨.produce data, .transferring progress⟩ =
        some (⟨files', venue.opened .producer flags⟩, ⟨.produce data, phase'⟩) ∧
      venue.Hosts files' fifo' presence taken ∧ fifo'.contents = fifo.contents ++ part ∧
      progress.rest = part ++ rest ∧
      (phase' = .finished (.produced (progress.written + part.length)) ∧ part ≠ [] ∨
        phase' = .transferring ⟨true, progress.written + part.length, rest⟩ ∧ rest ≠ [] ∧
          isHasty flags = false ∧ (part = [] → progress.begun = false))) ∨
    fifo.contents ≠ [] ∧
      PipeCall.step ⟨files, venue.opened .producer flags⟩
          ⟨.produce data, .transferring progress⟩ =
        if isHasty flags then
          some (⟨files, venue.opened .producer flags⟩,
            ⟨.produce data, .finished (.failed (.write (.number .tryAgain)))⟩)
        else none := by
  have attended := hosts.attended
  have reader : fifo.readers ≠ 0 := by
    have suits := attended.suits
    rw [met] at suits
    rw [show fifo.readers = _ from attended.ends .consumer,
      (Presence.suits_of_leave_producer suits).2]
    decide
  have isStep : PipeCall.step ⟨files, venue.opened .producer flags⟩
      ⟨.produce data, .transferring progress⟩ =
      PipeCall.writeOnce ⟨files, venue.opened .producer flags⟩
        ⟨.produce data, .transferring progress⟩
        ((OpenFile.forRole venue.inode true).addFlags flags) progress := rfl
  have flagged : ((OpenFile.forRole venue.inode true).addFlags flags).has .nonblock =
      isHasty flags := rfl
  rw [isStep, PipeCall.writeOnce]
  rcases OpenFile.writeFifo_cases files ((OpenFile.forRole venue.inode true).addFlags flags)
      attended.packed reader remains fresh patient with
    ⟨later, part, rest, refilled, whole, done⟩ | ⟨some, stuck⟩
  · left
    have hosts' : venue.Hosts (files.setContent venue.inode (.fifo later)) later presence taken :=
      hosts.setContent (attended.refill refilled fun early => by simp [met] at early)
    rcases done with ⟨done, taken⟩ | ⟨done, more⟩
    · rw [OpenFile.write_of_done rfl hosts.present done]
      exact ⟨_, later, part, rest, _, rfl, hosts', refilled.contents_eq, whole,
        .inl ⟨rfl, taken⟩⟩
    · rw [OpenFile.write_of_done rfl hosts.present done]
      exact ⟨_, later, part, rest, _, rfl, hosts', refilled.contents_eq, whole,
        .inr ⟨rfl, more⟩⟩
  · right
    rw [OpenFile.write_of_stuck rfl hosts.present stuck, flagged]
    exact ⟨some, by cases isHasty flags <;> rfl⟩

/-- Closing an open descriptor closes the end of its role. -/
theorem close_opened (hosts : venue.Hosts files fifo presence taken) (role : Role)
    (flags : Int32) : (venue.opened role flags).close files =
      files.setContent venue.inode
        (.fifo (if role.isProducer then fifo.closeWriter else fifo.closeReader)) := by
  simp only [Pipe.close, opened, OpenFile.close, OpenFile.addFlags, OpenFile.forRole,
    Option.elim, FileSystem.updateFifo, hosts.present]
  cases role <;> rfl

end Venue

end BoundedStream
