import BoundedStream.Proofs.Pipe.Gathering
import BoundedStream.Proofs.Stream.Consumer

/-!
# The consumer at a FIFO

A consumer without a limit writes what it takes out of a FIFO until the producer has closed its
end and nothing is left.  Each of its steps takes bytes or brings it closer to that, except that
a consumer that must not wait may try in vain while the producer still has its end open.
-/

namespace BoundedStream

namespace ConsumePhase

variable (venue : Venue) (flags : Int32) (size : Nat) (isDry : Prop) (written : List UInt8)

/-- How far a consumer with an endpoint has come: its phase and its transfer, its endpoint and how
it stands to its end, all that it has taken, and how many steps it is at most away from its end if
there are no more bytes. -/
inductive Catches :
    ConsumePhase → Option PipeCall → Pipe → Presence → List UInt8 → Nat → Prop
  | creatingOutput (pipe : Pipe) (presence : Presence)
      (idle : venue.Idle .consumer flags pipe presence) :
      Catches .creatingOutput none pipe presence written 15
  | allocating (pipe : Pipe) (presence : Presence)
      (idle : venue.Idle .consumer flags pipe presence) :
      Catches .allocating none pipe presence written 14
  | counting (pipe : Pipe) (presence : Presence)
      (idle : venue.Idle .consumer flags pipe presence) :
      Catches (.counting size) none pipe presence written 13
  | receiving (pipe : Pipe) (presence : Presence)
      (idle : venue.Idle .consumer flags pipe presence) :
      Catches (.receiving size) none pipe presence written 12
  | approaching (phase : PipePhase) (pipe : Pipe) (presence : Presence) (distance : Nat)
      (approach : venue.Approach .consumer flags phase pipe presence distance) :
      Catches (.receiving size) (some ⟨.consume size, phase⟩) pipe presence written
        (4 + distance)
  | reading (progress : OpenFile.WriteProgress) :
      Catches (.receiving size) (some ⟨.consume size, .transferring progress⟩)
        (venue.opened .consumer flags) .met written 4
  | caught (bytes : List UInt8) (nonempty : bytes ≠ []) (few : bytes.length ≤ size) :
      Catches (.receiving size) (some ⟨.consume size, .finished (.consumed bytes)⟩)
        (venue.opened .consumer flags) .met (written ++ bytes) 15
  | dried (dry : isDry) :
      Catches (.receiving size) (some ⟨.consume size, .finished (.consumed [])⟩)
        (venue.opened .consumer flags) .met written 3
  | refused :
      Catches (.receiving size)
        (some ⟨.consume size, .finished (.failed (.read (.number .tryAgain)))⟩)
        (venue.opened .consumer flags) .met written 15
  | postponed (pipe : Pipe) (presence : Presence)
      (idle : venue.Idle .consumer flags pipe presence) :
      Catches .postponed none pipe presence written 14
  | writing (bytes : List UInt8) (pipe : Pipe) (presence : Presence)
      (idle : venue.Idle .consumer flags pipe presence) :
      Catches (.writing bytes) none pipe presence (written ++ bytes) 14
  | flushing (dry : isDry) :
      Catches .flushing none (venue.opened .consumer flags) .met written 2
  | leaving (kind : TransportKind) (dry : isDry) :
      Catches (.leaving (.ok ⟨.consumer, kind, .update .empty written, none⟩)) none
        (venue.opened .consumer flags) .met written 1

namespace Catches

variable {venue flags size isDry written} {phase : ConsumePhase} {call : Option PipeCall}
  {pipe : Pipe} {presence : Presence} {taken : List UInt8} {distance : Nat}

theorem distance_pos
    (catches : phase.Catches venue flags size isDry written call pipe presence taken distance) :
    0 < distance := by
  cases catches with
  | approaching => omega
  | _ => decide

/-- A consumer whose end is open while it has not met the producer is opening it. -/
theorem awaits
    (catches : phase.Catches venue flags size isDry written call pipe .waiting taken distance) :
    call = some ⟨.consume size, .awaitingPeer (.forRole venue.inode Role.consumer.isProducer)
      (venue.origin Role.consumer.peer)⟩ := by
  cases catches with
  | approaching _ _ _ _ approach =>
      cases approach with
      | looking _ _ idle => exact absurd rfl idle.not_waiting
      | awaiting => rfl
  | creatingOutput _ _ idle => exact absurd rfl idle.not_waiting
  | allocating _ _ idle => exact absurd rfl idle.not_waiting
  | counting _ _ idle => exact absurd rfl idle.not_waiting
  | receiving _ _ idle => exact absurd rfl idle.not_waiting
  | postponed _ _ idle => exact absurd rfl idle.not_waiting
  | writing _ _ _ idle => exact absurd rfl idle.not_waiting

end Catches

end ConsumePhase

/-- A consumer without a limit on its way to a FIFO, at it, or done with it. -/
inductive Catching (venue : Venue) (config : Config) (size : Nat) (isDry : Prop) :
    Party → Option (Nat × Pipe) → Presence → List UInt8 → Nat → Prop
  | connecting : Catching venue config size isDry
      (.consuming config none size .empty .connecting none [] none) none .away [] 16
  | seated (number : Nat) (written : List UInt8) (phase : ConsumePhase)
      (call : Option PipeCall) (pipe : Pipe) (presence : Presence) (taken : List UInt8)
      (distance : Nat)
      (catches : phase.Catches venue config.flags size isDry written call pipe presence taken
        distance) :
      Catching venue config size isDry
        (.consuming config none size (.update .empty written) phase
          (some ⟨config, .consumer, .pipe number⟩) written (call.map (Call.pipe number)))
        (some (number, pipe)) presence taken distance
  | ended (kind : TransportKind) (taken : List UInt8) (dry : isDry) :
      Catching venue config size isDry
        (.consuming config none size (.update .empty taken)
          (.finished (.ok ⟨.consumer, kind, .update .empty taken, none⟩)) none taken none)
        none .gone taken 0

namespace Catching

variable {venue : Venue} {config : Config} {size : Nat} {isDry : Prop} {party : Party}
  {seat : Option (Nat × Pipe)} {presence : Presence} {taken : List UInt8} {distance : Nat}

/-- That there are no more bytes to come stays true. -/
theorem mono {isDry' : Prop}
    (catching : Catching venue config size isDry party seat presence taken distance)
    (ends : isDry → isDry') :
    Catching venue config size isDry' party seat presence taken distance := by
  cases catching with
  | connecting => exact .connecting
  | ended kind taken dry => exact .ended kind taken (ends dry)
  | seated number written phase call pipe presence taken distance catches =>
      refine .seated number written phase call pipe presence taken distance ?_
      cases catches with
      | creatingOutput pipe presence idle => exact .creatingOutput pipe presence idle
      | allocating pipe presence idle => exact .allocating pipe presence idle
      | counting pipe presence idle => exact .counting pipe presence idle
      | receiving pipe presence idle => exact .receiving pipe presence idle
      | approaching phase pipe presence distance approach =>
          exact .approaching phase pipe presence distance approach
      | reading progress => exact .reading progress
      | caught bytes nonempty few => exact .caught bytes nonempty few
      | dried dry => exact .dried (ends dry)
      | refused => exact .refused
      | postponed pipe presence idle => exact .postponed pipe presence idle
      | writing bytes pipe presence idle => exact .writing bytes pipe presence idle
      | flushing dry => exact .flushing (ends dry)
      | leaving kind dry => exact .leaving kind (ends dry)

/-- A consumer at no distance from its end has ended, once all bytes were taken. -/
theorem ended_of_zero
    (catching : Catching venue config size isDry party seat presence taken distance)
    (atEnd : distance = 0) :
    (∃ kind, party = .consuming config none size (.update .empty taken)
      (.finished (.ok ⟨.consumer, kind, .update .empty taken, none⟩)) none taken none) ∧
    presence = .gone ∧ isDry := by
  cases catching with
  | connecting => cases atEnd
  | seated _ _ _ _ _ _ _ _ catches => exact absurd atEnd (Nat.ne_of_gt catches.distance_pos)
  | ended kind taken dry => exact ⟨⟨kind, rfl⟩, rfl, dry⟩

theorem awaits
    (catching : Catching venue config size isDry party seat .waiting taken distance) :
    ∃ number request file opens,
      party.call = some (.pipe number ⟨request, .awaitingPeer file opens⟩) := by
  cases catching with
  | seated number _ _ call _ _ _ _ catches =>
      obtain rfl := catches.awaits
      exact ⟨number, _, _, _, rfl⟩

end Catching

/-- What a step of a consumer leads to: it takes bytes, comes closer to its end, or tries in vain
while there are no bytes and the producer still has its end open. -/
def Gathering.Catches (gathering : Gathering) (venue : Venue) (config : Config)
    (size distance : Nat) (host : Host) (party : Party) : Prop :=
  ∃ fifo presence seat taken distance',
    (gathering.change .consumer fifo presence seat taken).Held venue host ∧
    Catching venue config size (gathering.presence .producer = .gone ∧ fifo.contents = []) party
      seat presence taken distance' ∧
    taken ++ fifo.contents = gathering.accepted ∧
    (gathering.presence .consumer ≠ .away → presence ≠ .away) ∧
    (fifo.contents.length < gathering.fifo.contents.length ∨
      fifo.contents = gathering.fifo.contents ∧
        (distance' < distance ∨ Venue.isHasty config.flags = true ∧
          gathering.presence .consumer = .met ∧ gathering.presence .producer ≠ .gone ∧
          fifo.contents = []))

/-- A consumer takes a step, or it has ended, or it waits for a producer that has not come or for
bytes. -/
def Gathering.CatchesOrWaits (gathering : Gathering) (venue : Venue) (config : Config)
    (size distance : Nat) (host : Host) (party : Party) : Prop :=
  party.step host = none ∧
      (distance = 0 ∨
        gathering.presence .consumer = .waiting ∧ gathering.presence .producer = .away ∨
        gathering.presence .consumer = .met ∧ gathering.presence .producer ≠ .gone ∧
          gathering.fifo.contents = []) ∨
    ∃ host' party', party.step host = some (host', party') ∧
      gathering.Catches venue config size distance host' party'

namespace Catching

variable {venue : Venue} {config : Config} {size : Nat} {gathering : Gathering} {host : Host}
  {party : Party} {distance : Nat}

theorem catches_of_same {party' : Party} {distance' : Nat}
    (held : gathering.Held venue host)
    (catching : Catching venue config size
      (gathering.presence .producer = .gone ∧ gathering.fifo.contents = []) party'
      (gathering.seat .consumer) (gathering.presence .consumer) gathering.taken distance')
    (closer : distance' < distance) :
    gathering.Catches venue config size distance host party' := by
  refine ⟨gathering.fifo, gathering.presence .consumer, gathering.seat .consumer,
    gathering.taken, distance', ?_, catching, rfl, id, .inr ⟨rfl, .inl closer⟩⟩
  rw [Gathering.change, Function.update_eq_self, Function.update_eq_self]
  exact held

section Seated

variable {number : Nat} {written : List UInt8} {phase : ConsumePhase} {call : Option PipeCall}
  {pipe : Pipe} {presence : Presence} {taken : List UInt8}
  (held : gathering.Held venue host)
  (isSeat : gathering.seat .consumer = some (number, pipe))

include held isSeat

/-- A consumer comes closer to its end and leaves everything else. -/
theorem catches_of_closer (isPresence : gathering.presence .consumer = presence)
    (isTaken : gathering.taken = taken) {written' : List UInt8} {phase' : ConsumePhase}
    {call' : Option PipeCall} {distance' : Nat}
    (catches : phase'.Catches venue config.flags size
      (gathering.presence .producer = .gone ∧ gathering.fifo.contents = []) written' call' pipe
      presence taken distance')
    (closer : distance' < distance) :
    gathering.Catches venue config size distance host
      (.consuming config none size (.update .empty written') phase'
        (some ⟨config, .consumer, .pipe number⟩) written' (call'.map (Call.pipe number))) := by
  refine catches_of_same held ?_ closer
  rw [isSeat, isPresence, isTaken]
  exact .seated number written' phase' call' pipe presence taken distance' catches

/-- A step of a transfer of the consumer. -/
theorem catches_of_call {files : FileSystem} {fifo : Fifo} {new : Presence}
    {taken' : List UInt8} {pipe' : Pipe} {call' : PipeCall} {distance' : Nat}
    (hosts : venue.Hosts files fifo (Function.update gathering.presence .consumer new) taken')
    (catches : (ConsumePhase.receiving size).Catches venue config.flags size
      (gathering.presence .producer = .gone ∧ fifo.contents = []) written (some call') pipe' new
      taken' distance')
    (whole : taken' ++ fifo.contents = gathering.accepted)
    (stays : gathering.presence .consumer ≠ .away → new ≠ .away)
    (progress : fifo.contents.length < gathering.fifo.contents.length ∨
      fifo.contents = gathering.fifo.contents ∧
        (distance' < distance ∨ Venue.isHasty config.flags = true ∧
          gathering.presence .consumer = .met ∧ gathering.presence .producer ≠ .gone ∧
          fifo.contents = [])) :
    gathering.Catches venue config size distance
      { host.withFiles files with pipes := host.pipes.set number pipe' }
      (.consuming config none size (.update .empty written) (.receiving size)
        (some ⟨config, .consumer, .pipe number⟩) written (some (.pipe number call'))) :=
  ⟨fifo, new, some (number, pipe'), taken', distance', held.advance isSeat hosts pipe',
    .seated number written _ (some call') pipe' new taken' distance' catches, whole, stays,
    progress⟩

/-- A consumer opens its end. -/
theorem approaches (isPresence : gathering.presence .consumer = presence)
    (isTaken : gathering.taken = written) {phase : PipePhase}
    (approach : venue.Approach .consumer config.flags phase pipe presence distance) :
    gathering.CatchesOrWaits venue config size (4 + distance) host
      (.consuming config none size (.update .empty written) (.receiving size)
        (some ⟨config, .consumer, .pipe number⟩) written
        (some (.pipe number ⟨.consume size, phase⟩))) := by
  have present := held.seated .consumer number pipe isSeat
  rw [Gathering.CatchesOrWaits, Party.step_consume rfl rfl rfl, Party.serve,
    Party.pursue_pipe rfl rfl approach.unfinished present]
  subst isPresence isTaken
  rcases approach.step held.hosts (.consume size) with
    ⟨waits, alone, stuck⟩ |
      ⟨files, pipe', phase', fifo, new, stepped, hosts, same, come, arrives⟩
  · rw [stuck]
    exact .inl ⟨rfl, .inr (.inl ⟨waits, alone⟩)⟩
  · rw [stepped]
    refine .inr ⟨_, _, rfl, ?_⟩
    cases arrives with
    | nearer phase' pipe' new closer approach less =>
        exact catches_of_call held isSeat hosts
          (.approaching phase' pipe' new closer approach)
          (congrArg (gathering.taken ++ ·) same) come (.inr ⟨same, .inl (by omega)⟩)
    | ready =>
        have positive := approach.distance_pos
        exact catches_of_call held isSeat hosts (.reading _)
          (congrArg (gathering.taken ++ ·) same) come (.inr ⟨same, .inl (by omega)⟩)

end Seated

section Opened

variable {number : Nat} {written : List UInt8} (held : gathering.Held venue host)
  (isSeat : gathering.seat .consumer = some (number, venue.opened .consumer config.flags))
  (isPresence : gathering.presence .consumer = .met) (isTaken : gathering.taken = written)

include held isSeat isPresence isTaken

/-- A consumer that has met the producer reads. -/
theorem reads (positive : size ≠ 0) (progress : OpenFile.WriteProgress) :
    gathering.CatchesOrWaits venue config size 4 host
      (.consuming config none size (.update .empty written) (.receiving size)
        (some ⟨config, .consumer, .pipe number⟩) written
        (some (.pipe number ⟨.consume size, .transferring progress⟩))) := by
  have present := held.seated .consumer number (venue.opened .consumer config.flags) isSeat
  rw [Gathering.CatchesOrWaits, Party.step_consume rfl rfl rfl, Party.serve,
    Party.pursue_pipe rfl rfl (by simp) present]
  subst isTaken
  rcases Venue.read_cases held.hosts isPresence config.flags positive progress with
    ⟨files, fifo, bytes, stepped, hosts, whole, nonempty, few⟩ | ⟨empty, stepped⟩
  · have hosts' : venue.Hosts files fifo
        (Function.update gathering.presence .consumer .met)
        (gathering.taken ++ bytes) := by
      rwa [← isPresence, Function.update_eq_self]
    have conserved : gathering.taken ++ bytes ++ fifo.contents = gathering.accepted := by
      rw [Gathering.accepted, whole, List.append_assoc]
    have fewer : fifo.contents.length < gathering.fifo.contents.length := by
      have some := List.length_pos_iff.mpr nonempty
      rw [whole, List.length_append]
      omega
    rw [stepped]
    exact .inr ⟨_, _, rfl, catches_of_call held isSeat hosts'
      (.caught bytes nonempty few) conserved (fun _ => by decide) (.inl fewer)⟩
  · have stays := held.stays isPresence
    rw [stepped]
    by_cases gone : gathering.presence .producer = .gone
    · rw [if_pos gone]
      exact .inr ⟨_, _, rfl, catches_of_call held isSeat stays (.dried ⟨gone, empty⟩) rfl
        (fun _ => by decide) (.inr ⟨rfl, .inl (by decide)⟩)⟩
    · rw [if_neg gone]
      cases hasty : Venue.isHasty config.flags with
      | true =>
          exact .inr ⟨_, _, rfl, catches_of_call held isSeat stays .refused rfl
            (fun _ => by decide) (.inr ⟨rfl, .inr ⟨hasty, isPresence, gone, empty⟩⟩)⟩
      | false => exact .inl ⟨rfl, .inr (.inr ⟨isPresence, gone, empty⟩)⟩

/-- A consumer closes its end. -/
theorem leaves (kind : TransportKind)
    (dry : gathering.presence .producer = .gone ∧ gathering.fifo.contents = []) :
    gathering.CatchesOrWaits venue config size 1 host
      (.consuming config none size (.update .empty written)
        (.leaving (.ok ⟨.consumer, kind, .update .empty written, none⟩))
        (some ⟨config, .consumer, .pipe number⟩) written none) := by
  subst isTaken
  obtain ⟨attended, empty⟩ :=
    held.hosts.attended.closeReader dry.1 isPresence dry.2
  have left := held.leave isSeat (Venue.close_opened held.hosts .consumer config.flags ▸
    held.hosts.setContent attended)
  refine .inr ⟨_, _, rfl, _, .gone, none, gathering.taken, 0, left,
    .ended kind gathering.taken ⟨dry.1, empty⟩, ?_, fun _ => by decide,
    .inr ⟨?_, .inl (by decide)⟩⟩
  · rw [Gathering.accepted, dry.2]
    exact congrArg (gathering.taken ++ ·) empty
  · exact empty.trans dry.2.symm

end Opened

/-- A consumer can take a step unless it waits for a producer that has not come, or for bytes. -/
theorem step (same : config.path = venue.path) (isPipe : config.kind = .namedPipe)
    (valid : config.checkFor .consumer = .ok ()) (affords : Party.Affords size)
    (held : gathering.Held venue host)
    (catching : Catching venue config size
      (gathering.presence .producer = .gone ∧ gathering.fifo.contents = []) party
      (gathering.seat .consumer) (gathering.presence .consumer) gathering.taken distance) :
    gathering.CatchesOrWaits venue config size distance host party := by
  generalize isSeat : gathering.seat .consumer = seat at catching
  generalize isPresence : gathering.presence .consumer = presence at catching
  generalize isTaken : gathering.taken = taken at catching
  cases catching with
  | connecting =>
      right
      have connected := Transport.connect_pipe valid isPipe
        (same ▸ held.hosts.prepare_eq .consumer config.mode config.flags)
      rw [Party.step_consume rfl rfl rfl]
      simp only [Party.serve, Party.connect, connected]
      refine ⟨_, _, rfl, gathering.fifo, .away, some (host.pipes.length, _), [], 15, ?_,
        .seated host.pipes.length [] .creatingOutput none _ .away [] 15
          (.creatingOutput _ _ .closed), ?_, ?_, .inr ⟨rfl, .inl (by decide)⟩⟩
      · have joined := held.join .consumer (.closed venue.path .consumer config.flags)
        rw [isPresence, isTaken] at joined
        rw [← same] at joined ⊢
        exact joined
      · rw [Gathering.accepted, isTaken]
      · exact fun come => absurd isPresence come
  | ended kind taken dry => exact .inl ⟨rfl, .inl rfl⟩
  | seated number written phase call pipe presence taken distance catches =>
      cases catches with
      | creatingOutput pipe presence idle =>
          exact .inr ⟨_, _, rfl, catches_of_closer held isSeat isPresence isTaken
            (.allocating pipe presence idle) (by decide)⟩
      | allocating pipe presence idle =>
          rw [Gathering.CatchesOrWaits, Party.step_consume rfl rfl rfl,
            Party.serve_allocate affords.moderate]
          exact .inr ⟨_, _, rfl, catches_of_closer held isSeat isPresence isTaken
            (.counting pipe presence idle) (by decide)⟩
      | counting pipe presence idle =>
          exact .inr ⟨_, _, rfl, catches_of_closer held isSeat isPresence isTaken
            (.receiving pipe presence idle) (by decide)⟩
      | receiving pipe presence idle =>
          have begins : Transport.consumeCall? ⟨config, .consumer, .pipe number⟩ size =
              some (.pipe number (.start (.consume size))) := by
            simp [Transport.consumeCall?, affords.nonzero]
          rw [Gathering.CatchesOrWaits, Party.step_consume rfl rfl rfl, Party.serve,
            Party.pursue_begin rfl begins rfl]
          exact .inr ⟨_, _, rfl, catches_of_closer held isSeat isPresence isTaken
            (.approaching .looking pipe presence 6 (.looking pipe presence idle)) (by decide)⟩
      | approaching phase pipe presence distance approach =>
          exact approaches held isSeat isPresence isTaken approach
      | reading progress =>
          exact reads held isSeat isPresence isTaken affords.nonzero progress
      | caught bytes nonempty few =>
          have settled : Party.settleReceive size (Outcome.pipe (.consumed bytes)).onTransport =
              .answer (.ok (.ofList size bytes)) := rfl
          rw [Gathering.CatchesOrWaits, Party.step_consume rfl rfl rfl, Party.serve,
            Party.pursue_answer rfl rfl settled, Consumption.received_ofList _ nonempty few]
          exact .inr ⟨_, _, rfl, catches_of_closer held isSeat isPresence isTaken
            (.writing bytes _ _ .opened) (by decide)⟩
      | dried dry =>
          have settled : Party.settleReceive size (Outcome.pipe (.consumed [])).onTransport =
              .answer (.ok (.ofList size [])) := rfl
          have nothing : Chunk.ofList size [] = ⟨[], Nat.zero_le size⟩ :=
            Subtype.ext List.take_nil
          rw [Gathering.CatchesOrWaits, Party.step_consume rfl rfl rfl, Party.serve,
            Party.pursue_answer rfl rfl settled, nothing]
          exact .inr ⟨_, _, rfl, catches_of_closer held isSeat isPresence isTaken
            (.flushing dry) (by decide)⟩
      | refused =>
          have settled : Party.settleReceive size
              (Outcome.pipe (.failed (.read (.number .tryAgain)))).onTransport =
                .answer (.error (.pipe (.read (.number .tryAgain)))) := rfl
          rw [Gathering.CatchesOrWaits, Party.step_consume rfl rfl rfl, Party.serve,
            Party.pursue_answer rfl rfl settled]
          exact .inr ⟨_, _, rfl, catches_of_closer held isSeat isPresence isTaken
            (.postponed _ _ .opened) (by decide)⟩
      | postponed pipe presence idle =>
          exact .inr ⟨_, _, rfl, catches_of_closer held isSeat isPresence isTaken
            (.counting pipe presence idle) (by decide)⟩
      | writing bytes pipe presence idle =>
          have counting : gathering.Catches venue config size 14 host
              (.consuming config none size (.update .empty (written ++ bytes))
                (.counting size) (some ⟨config, .consumer, .pipe number⟩) (written ++ bytes)
                none) :=
            catches_of_closer held isSeat isPresence isTaken (.counting pipe presence idle)
              (by decide)
          rw [Summary.update_append] at counting
          exact .inr ⟨_, _, rfl, counting⟩
      | flushing dry =>
          exact .inr ⟨_, _, rfl, catches_of_closer held isSeat isPresence isTaken
            (.leaving _ dry) (by decide)⟩
      | leaving kind dry =>
          exact leaves held isSeat isPresence isTaken kind dry

end Catching

end BoundedStream
