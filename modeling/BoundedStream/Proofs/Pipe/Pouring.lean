import BoundedStream.Proofs.Pipe.Gathering
import BoundedStream.Proofs.Stream.Producer

/-!
# The producer at a FIFO

A producer pours its input into a FIFO and closes its end, if it ever opened it.  Each of its
steps puts bytes in the FIFO or brings it closer to its end, except that a producer that must not
wait may try in vain while bytes are in its way.
-/

namespace BoundedStream

namespace ProducePhase

variable (venue : Venue) (flags : Int32) (size : Nat) (sent : List UInt8)

/-- How far a producer with an endpoint has come: its phase and its transfer, its endpoint and how
it stands to its end, what its input still has, what the FIFO has accepted of the stream and what
not, and how many steps it is at most away from its end if it puts no more bytes in the FIFO. -/
inductive Pours : ProducePhase → Option PipeCall → Pipe → Presence → List UInt8 → List UInt8 →
    List UInt8 → Nat → Prop
  | allocating (input : List UInt8) (pipe : Pipe)
      (idle : venue.Idle .producer flags pipe .away) :
      Pours (.allocating size) none pipe .away input sent input 13
  | reading (input : List UInt8) (pipe : Pipe) (presence : Presence)
      (idle : venue.Idle .producer flags pipe presence) (used : sent = [] → presence = .away) :
      Pours (.reading size) none pipe presence input sent input 12
  | offering (before rest input : List UInt8) (nonempty : rest ≠ []) (pipe : Pipe)
      (presence : Presence) (idle : venue.Idle .producer flags pipe presence) :
      Pours (.sending size (before ++ rest) rest) none pipe presence input (sent ++ before)
        (rest ++ input) 11
  | delaying (before rest input : List UInt8) (nonempty : rest ≠ []) (pipe : Pipe)
      (presence : Presence) (idle : venue.Idle .producer flags pipe presence) :
      Pours (.delaying size (before ++ rest) rest) none pipe presence input (sent ++ before)
        (rest ++ input) 12
  | approaching (before rest input : List UInt8) (nonempty : rest ≠ []) (phase : PipePhase)
      (pipe : Pipe) (presence : Presence) (distance : Nat)
      (approach : venue.Approach .producer flags phase pipe presence distance) :
      Pours (.sending size (before ++ rest) rest) (some ⟨.produce rest, phase⟩) pipe presence
        input (sent ++ before) (rest ++ input) (4 + distance)
  | writing (before part input : List UInt8) (progress : OpenFile.WriteProgress)
      (remains : progress.rest ≠ []) (counted : progress.written = part.length)
      (fresh : progress.begun = false → progress.written = 0)
      (patient : progress.begun = true → Venue.isHasty flags = false) :
      Pours (.sending size (before ++ (part ++ progress.rest)) (part ++ progress.rest))
        (some ⟨.produce (part ++ progress.rest), .transferring progress⟩)
        (venue.opened .producer flags) .met input (sent ++ before ++ part)
        (progress.rest ++ input) (if progress.begun then 3 else 4)
  | poured (before part rest input : List UInt8) (nonempty : part ≠ []) :
      Pours (.sending size (before ++ (part ++ rest)) (part ++ rest))
        (some ⟨.produce (part ++ rest), .finished (.produced part.length)⟩)
        (venue.opened .producer flags) .met input (sent ++ before ++ part) (rest ++ input) 13
  | refused (before rest input : List UInt8) (nonempty : rest ≠ []) :
      Pours (.sending size (before ++ rest) rest)
        (some ⟨.produce rest, .finished (.failed (.write (.number .tryAgain)))⟩)
        (venue.opened .producer flags) .met input (sent ++ before) (rest ++ input) 13
  | draining (seen : Bool) (pipe : Pipe) (presence : Presence)
      (idle : venue.Idle .producer flags pipe presence) (used : sent = [] → presence = .away) :
      Pours (.draining seen) none pipe presence [] sent [] 2
  | leaving (kind : TransportKind) (pipe : Pipe) (presence : Presence)
      (idle : venue.Idle .producer flags pipe presence) (used : sent = [] → presence = .away) :
      Pours (.leaving (.ok ⟨.producer, kind, .update .empty sent, none⟩)) none pipe presence []
        sent [] 1

namespace Pours

variable {venue flags size sent} {phase : ProducePhase} {call : Option PipeCall} {pipe : Pipe}
  {presence : Presence} {input accepted unsent : List UInt8} {distance : Nat}
  (pours : phase.Pours venue flags size sent call pipe presence input accepted unsent distance)

include pours

theorem distance_pos : 0 < distance := by
  cases pours with
  | approaching => omega
  | writing => split <;> decide
  | _ => decide

theorem not_gone : presence ≠ .gone := by
  cases pours with
  | writing | poured | refused => decide
  | approaching _ _ _ _ _ _ _ _ approach => exact approach.not_gone
  | allocating _ _ idle => exact idle.not_gone
  | reading _ _ _ idle => exact idle.not_gone
  | offering _ _ _ _ _ _ idle => exact idle.not_gone
  | delaying _ _ _ _ _ _ idle => exact idle.not_gone
  | draining _ _ _ idle => exact idle.not_gone
  | leaving _ _ _ idle => exact idle.not_gone

end Pours

end ProducePhase

/-- A producer on its way to a FIFO, at it, or done with it: its endpoint, how it stands to its
end, what the FIFO has accepted of the stream and what not, and how far it is from its end. -/
inductive Pouring (venue : Venue) (config : Config) (size : Nat) :
    Party → Option (Nat × Pipe) → Presence → List UInt8 → List UInt8 → Nat → Prop
  | openingInput (input : List UInt8) : Pouring venue config size
      (.producing config size .empty .openingInput none input none) none .away [] input 15
  | connecting (input : List UInt8) : Pouring venue config size
      (.producing config size .empty .connecting none input none) none .away [] input 14
  | seated (number : Nat) (sent : List UInt8) (phase : ProducePhase) (call : Option PipeCall)
      (pipe : Pipe) (presence : Presence) (input accepted unsent : List UInt8) (distance : Nat)
      (pours : phase.Pours venue config.flags size sent call pipe presence input accepted unsent
        distance) :
      Pouring venue config size
        (.producing config size (.update .empty sent) phase
          (some ⟨config, .producer, .pipe number⟩) input (call.map (Call.pipe number)))
        (some (number, pipe)) presence accepted unsent distance
  | ended (kind : TransportKind) (sent : List UInt8) (presence : Presence)
      (left : presence = .away ∨ presence = .gone) (used : sent = [] → presence = .away) :
      Pouring venue config size
        (.producing config size (.update .empty sent)
          (.finished (.ok ⟨.producer, kind, .update .empty sent, none⟩)) none [] none)
        none presence sent [] 0

/-- What a step of a producer leads to: it puts a part of what is unsent in the FIFO, comes closer
to its end, or tries in vain while bytes are in its way. -/
def Gathering.Pours (gathering : Gathering) (venue : Venue) (config : Config) (size : Nat)
    (unsent : List UInt8) (distance : Nat) (host : Host) (party : Party) : Prop :=
  ∃ fifo presence seat part unsent' distance',
    (gathering.change .producer fifo presence seat gathering.taken).Held venue host ∧
    Pouring venue config size party seat presence (gathering.accepted ++ part) unsent'
      distance' ∧
    fifo.contents = gathering.fifo.contents ++ part ∧ unsent = part ++ unsent' ∧
    (part = [] → distance' < distance ∨ Venue.isHasty config.flags = true ∧
      gathering.presence .producer = .met ∧ gathering.fifo.contents ≠ [])

/-- A producer takes a step, or it has ended, or it waits for a consumer that has not come or until
bytes are taken. -/
def Gathering.PoursOrWaits (gathering : Gathering) (venue : Venue) (config : Config) (size : Nat)
    (unsent : List UInt8) (distance : Nat) (host : Host) (party : Party) : Prop :=
  party.step host = none ∧
      (distance = 0 ∨
        gathering.presence .producer = .waiting ∧ gathering.presence .consumer = .away ∨
        gathering.presence .producer = .met ∧ gathering.fifo.contents ≠ []) ∨
    ∃ host' party', party.step host = some (host', party') ∧
      gathering.Pours venue config size unsent distance host' party'

namespace Pouring

variable {venue : Venue} {config : Config} {size : Nat} {gathering : Gathering} {host : Host}
  {party : Party} {unsent : List UInt8} {distance : Nat}

/-- A producer comes closer to its end and leaves everything else. -/
theorem pours_of_closer {party' : Party} {distance' : Nat} (held : gathering.Held venue host)
    (pouring : Pouring venue config size party' (gathering.seat .producer)
      (gathering.presence .producer) gathering.accepted unsent distance')
    (closer : distance' < distance) :
    gathering.Pours venue config size unsent distance host party' := by
  refine ⟨gathering.fifo, gathering.presence .producer, gathering.seat .producer, [], unsent,
    distance', ?_, ?_, (List.append_nil _).symm, rfl, fun _ => .inl closer⟩
  · rw [Gathering.change, Function.update_eq_self, Function.update_eq_self]
    exact held
  · rw [List.append_nil]
    exact pouring

section Seated

variable {number : Nat} {sent : List UInt8} {pipe : Pipe} {presence : Presence}
  {input accepted : List UInt8}
  (held : gathering.Held venue host)
  (isSeat : gathering.seat .producer = some (number, pipe))
  (isPresence : gathering.presence .producer = presence)
  (isAccepted : gathering.accepted = accepted)

include held isSeat isPresence isAccepted

theorem pours_of_phase {sent' : List UInt8} {phase' : ProducePhase} {call' : Option PipeCall}
    {distance' : Nat}
    (pours : phase'.Pours venue config.flags size sent' call' pipe presence input accepted unsent
      distance')
    (closer : distance' < distance) :
    gathering.Pours venue config size unsent distance host
      (.producing config size (.update .empty sent') phase'
        (some ⟨config, .producer, .pipe number⟩) input (call'.map (Call.pipe number))) := by
  refine pours_of_closer held ?_ closer
  rw [isSeat, isPresence, isAccepted]
  exact .seated number sent' phase' call' pipe presence input accepted unsent distance' pours

omit isPresence isAccepted in
/-- A step of a transfer of the producer. -/
theorem pours_of_call {before rest unsent' : List UInt8} {files : FileSystem} {fifo : Fifo}
    {new : Presence} {part : List UInt8} {pipe' : Pipe} {call' : PipeCall} {distance' : Nat}
    (hosts : venue.Hosts files fifo (Function.update gathering.presence .producer new)
      gathering.taken)
    (pours : (ProducePhase.sending size (before ++ rest) rest).Pours venue config.flags size sent
      (some call') pipe' new input (gathering.accepted ++ part) unsent' distance')
    (contents_eq : fifo.contents = gathering.fifo.contents ++ part)
    (whole : unsent = part ++ unsent')
    (progress : part = [] → distance' < distance ∨ Venue.isHasty config.flags = true ∧
      gathering.presence .producer = .met ∧ gathering.fifo.contents ≠ []) :
    gathering.Pours venue config size unsent distance
      { host.withFiles files with pipes := host.pipes.set number pipe' }
      (.producing config size (.update .empty sent) (.sending size (before ++ rest) rest)
        (some ⟨config, .producer, .pipe number⟩) input (some (.pipe number call'))) :=
  ⟨fifo, new, some (number, pipe'), part, unsent', distance', held.advance isSeat hosts pipe',
    .seated number sent _ (some call') pipe' new input _ unsent' distance' pours, contents_eq,
    whole, progress⟩

end Seated

/-- A chunk of the input was read. -/
theorem pours_of_read {number : Nat} {sent : List UInt8} {pipe : Pipe} {presence : Presence}
    (held : gathering.Held venue host)
    (isSeat : gathering.seat .producer = some (number, pipe))
    (isPresence : gathering.presence .producer = presence)
    (isAccepted : gathering.accepted = sent)
    (idle : venue.Idle .producer config.flags pipe presence) {data : Chunk size}
    (nonempty : data.val ≠ []) {later : List UInt8} (whole : unsent = data.val ++ later) :
    gathering.Pours venue config size unsent 12 host
      ({ Party.producing config size (.update .empty sent) (.reading size)
          (some ⟨config, .producer, .pipe number⟩) unsent none with
          standardInput := later }.goOn
        (.produce (Production.inputRead ⟨config, none, size, .update .empty sent,
          .reading size⟩ size (.ok data)))) := by
  subst whole
  have offering : ProducePhase.Pours venue config.flags size sent
      (.sending size data.val data.val) none pipe presence later (sent ++ [])
      (data.val ++ later) 11 := .offering [] data.val later nonempty pipe presence idle
  rw [List.append_nil] at offering
  rw [Production.inputRead_of_nonempty _ nonempty]
  exact pours_of_phase held isSeat isPresence isAccepted offering (by decide)

/-- A producer that is about to read goes on with any piece of its input. -/
theorem read (held : gathering.Held venue host)
    (pouring : Pouring venue config size party (gathering.seat .producer)
      (gathering.presence .producer) gathering.accepted unsent distance)
    {production : Production} {length : Nat} {data : Chunk length} {later : List UInt8}
    (isProgram : party.program = .produce production)
    (isPhase : production.phase = .reading length) (nonempty : data.val ≠ [])
    (whole : data.val ++ later = party.standardInput) :
    gathering.Pours venue config size unsent distance host
      ({ party with standardInput := later }.goOn
        (.produce (production.inputRead length (.ok data)))) := by
  generalize isSeat : gathering.seat .producer = seat at pouring
  generalize isPresence : gathering.presence .producer = presence at pouring
  generalize isAccepted : gathering.accepted = accepted at pouring
  cases pouring with
  | openingInput | connecting | ended =>
      cases isProgram
      cases isPhase
  | seated number sent phase call pipe presence input accepted unsent distance pours =>
      cases isProgram
      obtain rfl : phase = .reading length := isPhase
      cases pours with
      | reading input pipe presence idle used =>
          exact pours_of_read held isSeat isPresence isAccepted idle nonempty whole.symm

/-- What a write has come to. -/
theorem pours_of_write (venue : Venue) {flags : Int32} (size : Nat)
    (sent before part input : List UInt8) {progress : OpenFile.WriteProgress}
    {more rest : List UInt8} {phase : PipePhase}
    (whole : progress.rest = more ++ rest) (counted : progress.written = part.length)
    (goes : phase = .finished (.produced (progress.written + more.length)) ∧ more ≠ [] ∨
      phase = .transferring ⟨true, progress.written + more.length, rest⟩ ∧ rest ≠ [] ∧
        Venue.isHasty flags = false ∧ (more = [] → progress.begun = false)) :
    ∃ distance, ProducePhase.Pours venue flags size sent
      (.sending size (before ++ (part ++ progress.rest)) (part ++ progress.rest))
      (some ⟨.produce (part ++ progress.rest), phase⟩) (venue.opened .producer flags) .met input
      (sent ++ before ++ part ++ more) (rest ++ input) distance ∧
      (more = [] → distance < if progress.begun then 3 else 4) := by
  have whole' : part ++ progress.rest = part ++ more ++ rest := by
    rw [whole, List.append_assoc]
  have counted' : progress.written + more.length = (part ++ more).length := by
    rw [counted, List.length_append]
  rw [counted'] at goes
  rw [whole', List.append_assoc _ part]
  rcases goes with ⟨rfl, nonempty⟩ | ⟨rfl, remains, patient, begins⟩
  · exact ⟨13, .poured before (part ++ more) rest input
      (List.append_ne_nil_of_right_ne_nil _ nonempty), fun none => absurd none nonempty⟩
  · refine ⟨3, .writing before (part ++ more) input ⟨true, _, rest⟩ remains rfl
      (fun idle => by cases idle) fun _ => patient, fun none => ?_⟩
    rw [begins none]
    decide

/-- A producer at no distance from its end has ended, and never opened its end if the FIFO has
accepted nothing. -/
theorem ended_of_zero {seat : Option (Nat × Pipe)} {presence : Presence} {accepted : List UInt8}
    (pouring : Pouring venue config size party seat presence accepted unsent distance)
    (atEnd : distance = 0) :
    (∃ kind, party = .producing config size (.update .empty accepted)
      (.finished (.ok ⟨.producer, kind, .update .empty accepted, none⟩)) none [] none) ∧
    unsent = [] ∧ (presence = .away ∨ presence = .gone) ∧
      (accepted = [] → presence = .away) := by
  cases pouring with
  | openingInput | connecting => cases atEnd
  | seated _ _ _ _ _ _ _ _ _ _ pours => exact absurd atEnd (Nat.ne_of_gt pours.distance_pos)
  | ended kind sent presence left used => exact ⟨⟨kind, rfl⟩, rfl, left, used⟩

theorem zero_of_gone {seat : Option (Nat × Pipe)} {accepted : List UInt8}
    (pouring : Pouring venue config size party seat .gone accepted unsent distance) :
    distance = 0 := by
  cases pouring with
  | ended => rfl
  | seated _ _ _ _ _ _ _ _ _ _ pours => exact absurd rfl pours.not_gone

section Seated

variable {number : Nat} {sent : List UInt8}
  (held : gathering.Held venue host)

section Pipe

variable {pipe : Pipe} {presence : Presence}
  (isSeat : gathering.seat .producer = some (number, pipe))
  (isPresence : gathering.presence .producer = presence)

include held isSeat isPresence

/-- A producer opens its end. -/
theorem approaches {before rest input : List UInt8}
    (isAccepted : gathering.accepted = sent ++ before) (nonempty : rest ≠ [])
    {phase : PipePhase}
    (approach : venue.Approach .producer config.flags phase pipe presence distance) :
    gathering.PoursOrWaits venue config size (rest ++ input) (4 + distance) host
      (.producing config size (.update .empty sent) (.sending size (before ++ rest) rest)
        (some ⟨config, .producer, .pipe number⟩) input
        (some (.pipe number ⟨.produce rest, phase⟩))) := by
  have present := held.seated .producer number pipe isSeat
  rw [Gathering.PoursOrWaits, Party.step_produce rfl rfl rfl, Party.serve,
    Party.pursue_pipe rfl rfl approach.unfinished present]
  subst isPresence
  have accepted_eq : sent ++ before = gathering.accepted ++ [] := by
    rw [List.append_nil, isAccepted]
  rcases approach.step held.hosts (.produce rest) with
    ⟨waits, alone, stuck⟩ | ⟨files, pipe', phase', fifo, new, stepped, hosts, same, -, arrives⟩
  · rw [stuck]
    exact .inl ⟨rfl, .inr (.inl ⟨waits, alone⟩)⟩
  · rw [stepped]
    refine .inr ⟨_, _, rfl, ?_⟩
    rw [← List.append_nil gathering.fifo.contents] at same
    cases arrives with
    | nearer phase' pipe' new closer approach less =>
        have approaching : ProducePhase.Pours venue config.flags size sent
            (.sending size (before ++ rest) rest) (some ⟨.produce rest, phase'⟩) pipe'
            new input (sent ++ before) (rest ++ input) (4 + closer) :=
          .approaching before rest input nonempty phase' pipe' new closer approach
        rw [accepted_eq] at approaching
        exact pours_of_call held isSeat hosts approaching same rfl
          fun _ => .inl (by omega)
    | ready =>
        have positive := approach.distance_pos
        have writing : ProducePhase.Pours venue config.flags size sent
            (.sending size (before ++ rest) rest)
            (some ⟨.produce rest, .transferring (.start rest)⟩)
            (venue.opened .producer config.flags) .met input (sent ++ before ++ [])
            (rest ++ input) 4 :=
          .writing before [] input (.start rest) nonempty rfl (fun _ => rfl)
            fun begun => by cases begun
        rw [List.append_nil, accepted_eq] at writing
        exact pours_of_call held isSeat hosts writing same rfl fun _ => .inl (by omega)

/-- A producer closes its end, if it ever opened it. -/
theorem leaves (isAccepted : gathering.accepted = sent) (kind : TransportKind)
    (idle : venue.Idle .producer config.flags pipe presence)
    (used : sent = [] → presence = .away) :
    gathering.PoursOrWaits venue config size [] 1 host
      (.producing config size (.update .empty sent)
        (.leaving (.ok ⟨.producer, kind, .update .empty sent, none⟩))
        (some ⟨config, .producer, .pipe number⟩) [] none) := by
  right
  cases idle with
  | closed =>
      refine ⟨_, _, rfl, gathering.fifo, .away, none, [], [], 0, ?_, ?_, ?_, rfl,
        fun _ => .inl (by decide)⟩
      · exact held.leave isSeat (held.stays isPresence)
      · rw [isAccepted, List.append_nil]
        exact .ended kind _ .away (.inl rfl) fun _ => rfl
      · rw [List.append_nil]
  | opened =>
      obtain ⟨attended, same⟩ := held.hosts.attended.closeWriter isPresence
      have left := held.leave isSeat (Venue.close_opened held.hosts .producer
        config.flags ▸ held.hosts.setContent attended)
      refine ⟨_, _, rfl, _, .gone, none, [], [], 0, left, ?_, ?_, rfl,
        fun _ => .inl (by decide)⟩
      · rw [isAccepted, List.append_nil]
        exact .ended kind _ .gone (.inr rfl) fun empty => absurd (used empty) (by decide)
      · rw [List.append_nil]
        exact same

end Pipe

section Opened

variable (isSeat : gathering.seat .producer = some (number, venue.opened .producer config.flags))
  (isPresence : gathering.presence .producer = .met)
  {before part input : List UInt8} (isAccepted : gathering.accepted = sent ++ before ++ part)

include held isSeat isPresence isAccepted

/-- A producer that has met the consumer writes. -/
theorem writes {progress : OpenFile.WriteProgress} (remains : progress.rest ≠ [])
    (counted : progress.written = part.length)
    (fresh : progress.begun = false → progress.written = 0)
    (patient : progress.begun = true → Venue.isHasty config.flags = false) :
    gathering.PoursOrWaits venue config size (progress.rest ++ input)
      (if progress.begun then 3 else 4) host
      (.producing config size (.update .empty sent)
        (.sending size (before ++ (part ++ progress.rest)) (part ++ progress.rest))
        (some ⟨config, .producer, .pipe number⟩) input
        (some (.pipe number ⟨.produce (part ++ progress.rest), .transferring progress⟩))) := by
  have present :=
    held.seated .producer number (venue.opened .producer config.flags) isSeat
  rw [Gathering.PoursOrWaits, Party.step_produce rfl rfl rfl, Party.serve,
    Party.pursue_pipe rfl rfl (by simp) present]
  rcases Venue.write_cases held.hosts isPresence config.flags (part ++ progress.rest)
      progress remains fresh patient with
    ⟨files, fifo, more, rest, phase', stepped, hosts, contents_eq, whole, goes⟩ |
      ⟨remain, stepped⟩
  · have hosts' : venue.Hosts files fifo
        (Function.update gathering.presence .producer .met) gathering.taken := by
      rwa [← isPresence, Function.update_eq_self]
    obtain ⟨distance', pours', closer⟩ :=
      pours_of_write venue size sent before part input whole counted goes
    rw [← isAccepted] at pours'
    rw [stepped]
    exact .inr ⟨_, _, rfl, pours_of_call held isSeat hosts' pours' contents_eq
      (by rw [whole, List.append_assoc]) fun none => .inl (closer none)⟩
  · rw [stepped]
    cases hasty : Venue.isHasty config.flags with
    | true =>
        have stays := held.stays isPresence
        -- A write that must not wait has not been tried before.
        have notBegun : progress.begun = false := by
          cases begun : progress.begun with
          | false => rfl
          | true => exact absurd (hasty.symm.trans (patient begun)) (by decide)
        obtain rfl : part = [] :=
          List.eq_nil_of_length_eq_zero (counted.symm.trans (fresh notBegun))
        have refused : ProducePhase.Pours venue config.flags size sent
            (.sending size (before ++ progress.rest) progress.rest)
            (some ⟨.produce progress.rest,
              .finished (.failed (.write (.number .tryAgain)))⟩)
            (venue.opened .producer config.flags) .met input (sent ++ before)
            (progress.rest ++ input) 13 :=
          .refused before progress.rest input remains
        rw [List.append_nil] at isAccepted
        rw [← isAccepted, ← List.append_nil gathering.accepted] at refused
        exact .inr ⟨_, _, rfl, pours_of_call held isSeat stays refused
          (List.append_nil _).symm rfl fun _ => .inr ⟨hasty, isPresence, remain⟩⟩
    | false => exact .inl ⟨rfl, .inr (.inr ⟨isPresence, remain⟩)⟩

/-- A producer goes on with what its write has left, or with its input. -/
theorem answers {rest : List UInt8} (nonempty : part ≠ []) :
    gathering.PoursOrWaits venue config size (rest ++ input) 13 host
      (.producing config size (.update .empty sent)
        (.sending size (before ++ (part ++ rest)) (part ++ rest))
        (some ⟨config, .producer, .pipe number⟩) input
        (some (.pipe number ⟨.produce (part ++ rest), .finished (.produced part.length)⟩))) := by
  have settled : Party.settleSend (part ++ rest)
      (Outcome.pipe (.produced part.length)).onTransport =
        .answer (.ok (Fin.ofNat ((part ++ rest).length + 1) part.length)) := rfl
  have count : (Fin.ofNat ((part ++ rest).length + 1) part.length).val = part.length :=
    Nat.mod_eq_of_lt (by rw [List.length_append]; omega)
  have counted : part.length ≠ 0 := by simpa using nonempty
  rw [Gathering.PoursOrWaits, Party.step_produce rfl rfl rfl, Party.serve,
    Party.pursue_answer rfl rfl settled]
  simp only [Delivery.answered, count, if_neg counted, List.drop_left]
  refine .inr ⟨_, _, rfl, ?_⟩
  cases rest with
  | nil =>
      have reading : ProducePhase.Pours venue config.flags size
          (sent ++ (before ++ (part ++ []))) (.reading size) none
          (venue.opened .producer config.flags) .met input
          (sent ++ (before ++ (part ++ []))) input 12 :=
        .reading input _ _ .opened fun empty => by simp [nonempty] at empty
      have accepted_eq : gathering.accepted = sent ++ (before ++ (part ++ [])) := by
        rw [isAccepted, List.append_nil, List.append_assoc]
      have poured := pours_of_phase held isSeat isPresence accepted_eq reading
        (show 12 < 13 by decide)
      rw [Summary.update_append] at poured
      exact poured
  | cons byte rest =>
      have offering : ProducePhase.Pours venue config.flags size sent
          (.sending size (before ++ part ++ (byte :: rest)) (byte :: rest)) none
          (venue.opened .producer config.flags) .met input (sent ++ (before ++ part))
          (byte :: rest ++ input) 11 :=
        .offering (before ++ part) (byte :: rest) input (by simp) _ _ .opened
      rw [← List.append_assoc sent, List.append_assoc before] at offering
      exact pours_of_phase held isSeat isPresence isAccepted offering (by decide)

end Opened

end Seated

/-- A producer can take a step unless it waits for a consumer that has not come, or until bytes
are taken. -/
theorem step (same : config.path = venue.path) (isPipe : config.kind = .namedPipe)
    (valid : config.checkFor .producer = .ok ()) (affords : Party.Affords size)
    (held : gathering.Held venue host)
    (pouring : Pouring venue config size party (gathering.seat .producer)
      (gathering.presence .producer) gathering.accepted unsent distance) :
    gathering.PoursOrWaits venue config size unsent distance host party := by
  generalize isSeat : gathering.seat .producer = seat at pouring
  generalize isPresence : gathering.presence .producer = presence at pouring
  generalize isAccepted : gathering.accepted = accepted at pouring
  cases pouring with
  | openingInput input =>
      refine .inr ⟨_, _, rfl, pours_of_closer held ?_ (show 14 < 15 by decide)⟩
      rw [isSeat, isPresence, isAccepted]
      exact .connecting unsent
  | connecting input =>
      right
      have connected := Transport.connect_pipe valid isPipe
        (same ▸ held.hosts.prepare_eq .producer config.mode config.flags)
      rw [Party.step_produce rfl rfl rfl]
      simp only [Party.serve, Party.connect, connected]
      refine ⟨_, _, rfl, gathering.fifo, .away,
        some (host.pipes.length, .closed venue.path .producer config.flags), [], unsent, 13, ?_,
        ?_, (List.append_nil _).symm, rfl, fun _ => .inl (by decide)⟩
      · have joined := held.join .producer (.closed venue.path .producer config.flags)
        rw [isPresence] at joined
        rw [← same] at joined ⊢
        exact joined
      · rw [isAccepted]
        exact .seated host.pipes.length [] (.allocating size) none _ .away unsent []
          unsent 13 (.allocating unsent _ .closed)
  | ended kind sent presence left used => exact .inl ⟨rfl, .inl rfl⟩
  | seated number sent phase call pipe presence input accepted unsent distance pours =>
      cases pours with
      | allocating input pipe idle =>
          rw [Gathering.PoursOrWaits, Party.step_produce rfl rfl rfl,
            Party.serve_allocate affords.moderate]
          exact .inr ⟨_, _, rfl, pours_of_phase held isSeat isPresence isAccepted
            (.reading _ pipe _ idle fun _ => rfl) (by decide)⟩
      | reading input pipe presence idle used =>
          right
          rw [Party.step_produce rfl rfl rfl]
          by_cases empty : unsent = []
          · subst empty
            have nothing : Chunk.ofList size [] = ⟨[], Nat.zero_le size⟩ :=
              Subtype.ext List.take_nil
            simp only [Party.serve, Party.readInput, Party.producing, List.drop_nil, nothing,
              Option.map_some]
            exact ⟨_, _, rfl, pours_of_phase held isSeat isPresence isAccepted
              (.draining _ pipe presence idle used) (by decide)⟩
          · have nonempty : (Chunk.ofList size unsent).val ≠ [] := by
              simp [Chunk.ofList, List.take_eq_nil_iff, affords.nonzero, empty]
            exact ⟨_, _, rfl, pours_of_read held isSeat isPresence isAccepted idle nonempty
              (List.take_append_drop size unsent).symm⟩
      | offering before rest input nonempty pipe presence idle =>
          have begins : Transport.produceCall? ⟨config, .producer, .pipe number⟩ rest =
              some (.pipe number (.start (.produce rest))) := by
            simp [Transport.produceCall?, nonempty]
          rw [Gathering.PoursOrWaits, Party.step_produce rfl rfl rfl, Party.serve,
            Party.pursue_begin rfl begins rfl]
          exact .inr ⟨_, _, rfl, pours_of_phase held isSeat isPresence isAccepted
            (.approaching before rest input nonempty .looking pipe presence 6
              (.looking pipe presence idle)) (by decide)⟩
      | delaying before rest input nonempty pipe presence idle =>
          exact .inr ⟨_, _, rfl, pours_of_phase held isSeat isPresence isAccepted
            (.offering before rest input nonempty pipe presence idle) (by decide)⟩
      | approaching before rest input nonempty phase pipe presence distance approach =>
          exact approaches held isSeat isPresence isAccepted nonempty approach
      | writing before part input progress remains counted fresh patient =>
          exact writes held isSeat isPresence isAccepted remains counted fresh patient
      | poured before part rest input nonempty =>
          exact answers held isSeat isPresence isAccepted nonempty
      | refused before rest input nonempty =>
          have settled : Party.settleSend rest
              (Outcome.pipe (.failed (.write (.number .tryAgain)))).onTransport =
                .answer (.error (.pipe (.write (.number .tryAgain)))) := rfl
          rw [Gathering.PoursOrWaits, Party.step_produce rfl rfl rfl, Party.serve,
            Party.pursue_answer rfl rfl settled]
          exact .inr ⟨_, _, rfl, pours_of_phase held isSeat isPresence isAccepted
            (.delaying before rest input nonempty _ _ .opened) (by decide)⟩
      | draining seen pipe presence idle used =>
          rw [Gathering.PoursOrWaits, Party.step_produce rfl rfl rfl, Party.serve,
            Party.pursue_skip rfl rfl rfl]
          exact .inr ⟨_, _, rfl, pours_of_phase held isSeat isPresence isAccepted
            (.leaving _ pipe presence idle used) (by decide)⟩
      | leaving kind pipe presence idle used =>
          exact leaves held isSeat isPresence isAccepted kind idle used

end Pouring

end BoundedStream
