import BoundedStream.Proofs.Pipe.Encounter

/-!
# Progress at a FIFO

While an encounter is underway, whoever has its turn can go on, and each step of either party
leaves fewer bytes to move, or brings the party closer to its end, or is a vain attempt out of
turn.  When nobody can go on the producer has ended, and the consumer too unless it waits for a
producer that never opened the FIFO.
-/

namespace BoundedStream

/-- The configuration is one for a FIFO at a path. -/
structure Config.IsPipe (config : Config) (path : String) (role : Role) : Prop where
  path_eq : config.path = path
  isPipe : config.kind = .namedPipe
  valid : config.checkFor role = .ok ()

/-- A consumer that was not started, or one that was. -/
inductive Attending (venue : Venue) (settings : Config) (size : Nat) (isDry : Prop) :
    Option Party → Option (Nat × Pipe) → Presence → List UInt8 → Nat → Prop
  | absent : Attending venue settings size isDry none none .away [] 17
  | started (party : Party) (seat : Option (Nat × Pipe)) (presence : Presence)
      (taken : List UInt8) (distance : Nat)
      (catching : Catching venue settings size isDry party seat presence taken distance) :
      Attending venue settings size isDry (some party) seat presence taken distance

namespace Attending

variable {venue : Venue} {settings : Config} {size : Nat} {isDry : Prop}
  {seat : Option (Nat × Pipe)} {presence : Presence} {taken : List UInt8} {distance : Nat}

theorem catching {party : Party}
    (attending : Attending venue settings size isDry (some party) seat presence taken distance) :
    Catching venue settings size isDry party seat presence taken distance := by
  cases attending with
  | started _ _ _ _ _ catching => exact catching

theorem of_nobody (attending : Attending venue settings size isDry none seat presence taken
    distance) : seat = none ∧ presence = .away ∧ taken = [] ∧ distance = 17 := by
  cases attending with
  | absent => exact ⟨rfl, rfl, rfl, rfl⟩

/-- That there are no more bytes to come stays true. -/
theorem mono {isDry' : Prop} {consumer : Option Party}
    (attending : Attending venue settings size isDry consumer seat presence taken distance)
    (ends : isDry → isDry') :
    Attending venue settings size isDry' consumer seat presence taken distance := by
  cases attending with
  | absent => exact .absent
  | started party _ _ _ _ catching => exact .started party _ _ _ _ (catching.mono ends)

end Attending

namespace Encounter

/-- Which parties have descriptors that fail where they would have to wait. -/
def hasty (config settings : Config) : Role → Bool
  | .producer => Venue.isHasty config.flags
  | .consumer => Venue.isHasty settings.flags

/-- The FIFO is there, and each party is on its way to its end as the prospect says. -/
structure Underway (venue : Venue) (config settings : Config) (chunk size : Nat)
    (input : List UInt8) (encounter : Encounter) (prospect : Prospect) : Prop where
  held : prospect.gathering.Held venue encounter.host
  pouring : Pouring venue config chunk encounter.producer (prospect.gathering.seat .producer)
    (prospect.gathering.presence .producer) prospect.gathering.accepted prospect.unsent
    (prospect.distance .producer)
  attending : Attending venue settings size
    (prospect.gathering.presence .producer = .gone ∧ prospect.gathering.fifo.contents = [])
    encounter.consumer (prospect.gathering.seat .consumer)
    (prospect.gathering.presence .consumer) prospect.gathering.taken
    (prospect.distance .consumer)
  whole : prospect.gathering.accepted ++ prospect.unsent = input

variable {venue : Venue} {config settings : Config} {chunk size : Nat} {input : List UInt8}
  {encounter later : Encounter} {prospect : Prospect}

namespace Underway

section

variable (underway : Underway venue config settings chunk size input encounter prospect)

include underway

theorem catching {consumer : Party} (running : encounter.consumer = some consumer) :
    Catching venue settings size
      (prospect.gathering.presence .producer = .gone ∧ prospect.gathering.fifo.contents = [])
      consumer (prospect.gathering.seat .consumer) (prospect.gathering.presence .consumer)
      prospect.gathering.taken (prospect.distance .consumer) := by
  have attending := underway.attending
  rw [running] at attending
  exact attending.catching

theorem not_produce (atEnd : prospect.distance .producer = 0) :
    ¬ Step settings size .producer encounter later := by
  intro step
  obtain ⟨⟨kind, isParty⟩, -⟩ := underway.pouring.ended_of_zero atEnd
  cases step with
  | produce host producer stepped =>
      rw [isParty] at stepped
      cases stepped
  | read production length data later isProgram isPhase nonempty whole =>
      rw [isParty] at isProgram
      cases isProgram
      cases isPhase

theorem not_gone (step : Step settings size .producer encounter later) :
    prospect.gathering.presence .producer ≠ .gone := by
  intro gone
  have pouring := underway.pouring
  rw [gone] at pouring
  exact underway.not_produce pouring.zero_of_gone step

theorem pours (isPipe : config.IsPipe venue.path .producer) (affords : Party.Affords chunk)
    (step : Step settings size .producer encounter later) : ∃ host producer,
      later = { encounter with host, producer } ∧
      prospect.gathering.Pours venue config chunk prospect.unsent (prospect.distance .producer)
        host producer := by
  cases step with
  | produce host producer stepped =>
      rcases underway.pouring.step isPipe.path_eq isPipe.isPipe isPipe.valid affords
        underway.held with ⟨stuck, -⟩ | ⟨host', producer', stepped', pours⟩
      · rw [stuck] at stepped
        cases stepped
      · rw [stepped'] at stepped
        cases stepped
        exact ⟨_, _, rfl, pours⟩
  | read production length data later isProgram isPhase nonempty whole =>
      exact ⟨_, _, rfl, underway.pouring.read underway.held isProgram isPhase nonempty whole⟩

theorem produce (isPipe : config.IsPipe venue.path .producer) (affords : Party.Affords chunk)
    (step : Step settings size .producer encounter later) : ∃ prospect',
      Underway venue config settings chunk size input later prospect' ∧
      Prospect.Next (hasty config settings) .producer prospect prospect' := by
  have notGone := underway.not_gone step
  obtain ⟨host, producer, rfl, fifo, presence, seat, part, unsent, distance, held, pouring,
    contents_eq, whole, closer⟩ := underway.pours isPipe affords step
  refine ⟨_, ⟨held, ?_, ?_, ?_⟩, prospect.next_of_pours fifo presence seat contents_eq whole
    fun nothing => (closer nothing).imp_right fun vain => ⟨vain.1, vain.2.2⟩⟩
  · have accepted_eq : (prospect.gathering.change .producer fifo presence seat
        prospect.gathering.taken).accepted = prospect.gathering.accepted ++ part := by
      rw [Gathering.accepted, Gathering.accepted, List.append_assoc, ← contents_eq]
      rfl
    rw [Prospect.distance_change_self, Prospect.change, Gathering.seat_change_self,
      Gathering.presence_change_self, accepted_eq]
    exact pouring
  · exact underway.attending.mono fun dry => absurd dry.1 notGone
  · change prospect.gathering.taken ++ fifo.contents ++ unsent = input
    rw [contents_eq, ← underway.whole, whole, Gathering.accepted]
    simp only [List.append_assoc]

theorem catches (isPipe : settings.IsPipe venue.path .consumer) (affords : Party.Affords size)
    {consumer consumer' : Party} {host : Host} (running : encounter.consumer = some consumer)
    (stepped : consumer.step encounter.host = some (host, consumer')) :
    prospect.gathering.Catches venue settings size (prospect.distance .consumer) host
      consumer' := by
  rcases (underway.catching running).step isPipe.path_eq isPipe.isPipe isPipe.valid affords
    underway.held with ⟨stuck, -⟩ | ⟨host', consumer'', stepped', catches⟩
  · rw [stuck] at stepped
    cases stepped
  · rw [stepped'] at stepped
    cases stepped
    exact catches

/-- A producer that has ended without closing its end never opened it. -/
theorem away_of_zero (atEnd : prospect.distance .producer = 0)
    (stays : prospect.gathering.presence .producer ≠ .gone) :
    prospect.gathering.presence .producer = .away := by
  obtain ⟨-, -, left, -⟩ := underway.pouring.ended_of_zero atEnd
  exact left.resolve_right stays

/-- A consumer that has met the producer finds it at work until it closes its end. -/
theorem unfinished_of_met (met : prospect.gathering.presence .consumer = .met)
    (stays : prospect.gathering.presence .producer ≠ .gone) :
    prospect.distance .producer ≠ 0 := by
  intro atEnd
  have suits := underway.held.hosts.attended.suits
  rw [underway.away_of_zero atEnd stays, met] at suits
  cases suits

theorem consume (isPipe : settings.IsPipe venue.path .consumer) (affords : Party.Affords size)
    (step : Step settings size .consumer encounter later) : ∃ prospect',
      Underway venue config settings chunk size input later prospect' ∧
      Prospect.Next (hasty config settings) .consumer prospect prospect' := by
  cases step with
  | start nobody present =>
      have attending := underway.attending
      rw [nobody] at attending
      obtain ⟨noSeat, isAway, isTaken, isDistance⟩ := attending.of_nobody
      refine ⟨prospect.change .consumer prospect.gathering prospect.unsent 16,
        ⟨underway.held, underway.pouring, ?_, underway.whole⟩,
        ⟨Prospect.distance_change_peer .., .inr ⟨rfl, .inl ⟨Nat.le_refl _, ?_⟩⟩⟩⟩
      · rw [Prospect.distance_change_self, Prospect.change, noSeat, isAway, isTaken,
          Party.consume_eq settings none (Nat.pos_of_ne_zero affords.nonzero)]
        exact .started _ _ _ _ _ .connecting
      · rw [Prospect.distance_change_self, isDistance]
        decide
  | consume host consumer consumer' running stepped =>
      obtain ⟨fifo, presence, seat, taken, distance, held, catching, whole, come, closer⟩ :=
        underway.catches isPipe affords running stepped
      refine ⟨_, ⟨held, ?_, ?_, ?_⟩,
        prospect.next_of_catches fifo presence seat taken distance come ?_⟩
      · have pouring := underway.pouring
        rw [← whole] at pouring
        exact pouring
      · rw [Prospect.distance_change_self, Prospect.change, Gathering.seat_change_self,
          Gathering.presence_change_self]
        exact .started consumer' seat presence taken distance catching
      · change taken ++ fifo.contents ++ prospect.unsent = input
        rw [whole]
        exact underway.whole
      · rcases closer with fewer | ⟨same, nearer | ⟨isHasty, met, stays, empty⟩⟩
        · exact .inl fewer
        · exact .inr ⟨same, .inl nearer⟩
        · have now : prospect.stage = 1 := Prospect.stage_eq_one_iff.mpr
            ⟨by simp [met], same.symm.trans empty, underway.unfinished_of_met met stays⟩
          exact .inr ⟨same, .inr ⟨isHasty, now⟩⟩

/-- The FIFO is where the consumer looks for it. -/
theorem present (same : settings.path = venue.path) :
    Pipe.leadsToFifo encounter.host.files settings.path = true := by
  rw [same, Pipe.leadsToFifo, underway.held.hosts.leads]
  simp [FileSystem.fifo?_eq_some_iff.mpr underway.held.hosts.present]

theorem atRest {consumer : Party} (running : encounter.consumer = some consumer)
    (stuck : consumer.step encounter.host = none) (atEnd : prospect.distance .producer = 0) :
    AtRest (Step settings size) encounter := by
  intro role later step
  cases role with
  | producer => exact underway.not_produce atEnd step
  | consumer =>
      cases step with
      | start nobody present =>
          rw [running] at nobody
          cases nobody
      | consume host consumer consumer' running' stepped =>
          rw [running] at running'
          cases running'
          rw [stuck] at stepped
          cases stepped

/-- Whoever has its turn can go on until nobody can.  Then the producer has ended, and the
consumer has too, or waits for a producer that has never opened its end. -/
theorem goes (producing : config.IsPipe venue.path .producer)
    (consuming : settings.IsPipe venue.path .consumer) (affords : Party.Affords chunk)
    (affords' : Party.Affords size) :
    (∃ later, Step settings size prospect.turn encounter later) ∨
      AtRest (Step settings size) encounter ∧ prospect.distance .producer = 0 ∧
        (prospect.distance .consumer = 0 ∨
          prospect.gathering.presence .consumer = .waiting ∧
            prospect.gathering.presence .producer = .away) := by
  by_cases turn : prospect.stage = 1
  · obtain ⟨come, empty, unfinished⟩ := Prospect.stage_eq_one_iff.mp turn
    rw [Prospect.turn, if_pos turn]
    rcases underway.pouring.step producing.path_eq producing.isPipe producing.valid affords
      underway.held with
      ⟨-, atEnd | ⟨-, alone⟩ | ⟨-, remains⟩⟩ | ⟨host, producer, stepped, -⟩
    · exact absurd atEnd unfinished
    · exact absurd alone come
    · exact absurd empty remains
    · exact .inl ⟨_, .produce host producer stepped⟩
  · rw [Prospect.turn, if_neg turn]
    cases running : encounter.consumer with
    | none => exact .inl ⟨_, .start running (underway.present consuming.path_eq)⟩
    | some consumer =>
        have catching := underway.catching running
        rcases catching.step consuming.path_eq consuming.isPipe consuming.valid affords'
          underway.held with
          ⟨stuck, atEnd | ⟨waits, alone⟩ | ⟨met, stays, empty⟩⟩ |
            ⟨host, consumer', stepped, -⟩
        · obtain ⟨-, gone, -, empty⟩ := catching.ended_of_zero atEnd
          have ended := Prospect.ended_of_stage turn (by simp [gone]) empty
          exact .inr ⟨underway.atRest running stuck ended, ended, .inl atEnd⟩
        · have silent := underway.held.hosts.attended.silent (.inl alone)
          have ended := Prospect.ended_of_stage turn (by simp [waits])
            (List.append_eq_nil_iff.mp silent).2
          exact .inr ⟨underway.atRest running stuck ended, ended, .inr ⟨waits, alone⟩⟩
        · exact absurd (Prospect.ended_of_stage turn (by simp [met]) empty)
            (underway.unfinished_of_met met stays)
        · exact .inl ⟨_, .consume host consumer consumer' running stepped⟩

/-- What has come of an encounter in which nobody can go on. -/
theorem outcome (producing : config.IsPipe venue.path .producer)
    (consuming : settings.IsPipe venue.path .consumer) (affords : Party.Affords chunk)
    (affords' : Party.Affords size) (rests : AtRest (Step settings size) encounter) :
    if input = [] then encounter.Stranded settings size
    else encounter.Complete input ∧ ¬ encounter.Awaits := by
  rcases underway.goes producing consuming affords affords' with
    ⟨later, step⟩ | ⟨-, ended, done⟩
  · exact absurd step (rests _ later)
  · obtain ⟨⟨kind, isProducer⟩, allSent, -, used⟩ := underway.pouring.ended_of_zero ended
    have accepted_eq : prospect.gathering.accepted = input := by
      rw [← underway.whole, allSent, List.append_nil]
    have returned : ∃ report, encounter.producer.result? = some (.reported (.ok report)) := by
      rw [isProducer]
      exact ⟨_, rfl⟩
    cases running : encounter.consumer with
    | none =>
        have attending := underway.attending
        rw [running] at attending
        obtain ⟨-, isAway, -, isDistance⟩ := attending.of_nobody
        rcases done with atEnd | ⟨waits, -⟩
        · exact absurd (isDistance.symm.trans atEnd) (by decide)
        · exact absurd (isAway.symm.trans waits) (by decide)
    | some consumer =>
        have catching := underway.catching running
        rcases done with atEnd | ⟨waits, alone⟩
        · obtain ⟨⟨kind', isConsumer⟩, -, gone, empty⟩ := catching.ended_of_zero atEnd
          have nonempty : input ≠ [] := by
            intro none
            rw [used (accepted_eq.trans none)] at gone
            cases gone
          rw [if_neg nonempty]
          subst isConsumer
          refine ⟨⟨returned, _, _, running, rfl, ?_⟩, ?_⟩
          · change prospect.gathering.taken = input
            rw [← accepted_eq, Gathering.accepted, empty, List.append_nil]
          · rintro ⟨_, _, _, _, _, running', isCall⟩
            rw [running] at running'
            cases running'
            cases isCall
        · have silent := underway.held.hosts.attended.silent (.inl alone)
          rw [if_pos (accepted_eq.symm.trans silent)]
          rw [waits] at catching
          obtain ⟨number, request, file, opens, isCall⟩ := catching.awaits
          refine ⟨returned, fun later reaches => ?_⟩
          rw [rests.eq_of_reaches reaches]
          exact ⟨consumer, number, request, file, opens, running, isCall⟩

end

end Underway

end Encounter

end BoundedStream
