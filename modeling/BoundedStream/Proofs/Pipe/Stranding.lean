import BoundedStream.Proofs.Pipe.Progress

/-!
# Stranded consumers

A producer opens the FIFO with its first write.  With an input it meets the consumer, and in the
end both have ended well.  Without one it ends at once and never opens the FIFO, for which its
consumer then waits for ever.
-/

namespace BoundedStream

/-- Nobody has an end of the FIFO open, and there are no bytes in it. -/
structure Fifo.Unused (fifo : Fifo) : Prop where
  readers_eq : fifo.readers = 0
  writers_eq : fifo.writers = 0
  pages_eq : fifo.pages = []

/-- Where nothing is, a producer prepares its endpoint by making a FIFO. -/
theorem Pipe.prepare_of_make {files made : FileSystem} {path : String} {mode inode : Nat}
    (makes : files.makeFifo path mode = .ok (inode, made)) (flags : Int32) :
    prepare files path .producer mode flags = .ok (.closed path .producer flags, made) := by
  obtain ⟨nowhere, -⟩ := FileSystem.found_of_makeFifo makes
  simp only [prepare, nowhere, makeFifo, makes]
  rfl

namespace Venue

variable {files made : FileSystem} {path : String} {mode inode : Nat} {fifo : Fifo}

/-- Two parties can meet at a FIFO that nobody uses. -/
theorem hosts_of_unused (leads : files.resolve true path = .ok inode)
    (present : files.content? inode = some (.fifo fifo)) (unused : fifo.Unused) :
    (⟨path, inode, fifo.opens⟩ : Venue).Hosts files fifo (fun _ => .away) [] where
  leads := leads
  present := present
  attended := {
    ends := by
      rintro (_ | _)
      · exact unused.writers_eq
      · exact unused.readers_eq
    opens := fun _ => rfl
    packed := by
      rw [Fifo.Packed, unused.pages_eq]
      intro page member
      cases member
    suits := rfl
    silent := fun _ => by rw [List.nil_append, Fifo.contents, unused.pages_eq]; rfl }

theorem hosts_of_make (makes : files.makeFifo path mode = .ok (inode, made)) :
    ∃ venue : Venue, venue.path = path ∧ venue.Hosts made .new (fun _ => .away) [] := by
  obtain ⟨-, inode, leads, present⟩ := FileSystem.found_of_makeFifo makes
  exact ⟨_, rfl, hosts_of_unused leads present ⟨rfl, rfl, rfl⟩⟩

end Venue

/-- What is to come when nobody has begun. -/
def Prospect.fresh (fifo : Fifo) (input : List UInt8) (distance : Nat) : Prospect :=
  ⟨⟨fifo, fun _ => .away, fun _ => none, []⟩, input,
    fun | .producer => distance | .consumer => 17⟩

namespace Encounter

/-- The parties can use the FIFO at a path: nobody uses it yet, or the producer can make it. -/
structure Ready (host : Host) (config settings : Config) : Prop where
  producing : config.IsPipe config.path .producer
  consuming : settings.IsPipe config.path .consumer
  usable : (∃ inode fifo, host.files.resolve true config.path = .ok inode ∧
      host.files.content? inode = some (.fifo fifo) ∧ fifo.Unused) ∨
    ∃ made, host.files.makeFifo config.path config.mode = .ok made

/-- What is known of an encounter at every moment, with its rank and whose turn it is. -/
inductive Sound (host : Host) (config settings : Config) (chunk size : Nat)
    (input : List UInt8) : Encounter → Nat ×ₗ Nat ×ₗ Nat → Role → Prop
  | before (inode : Nat) (made : FileSystem)
      (makes : host.files.makeFifo config.path config.mode = .ok (inode, made))
      (phase : ProducePhase) (left : Nat)
      (early : phase = .openingInput ∧ left = 1 ∨ phase = .connecting ∧ left = 0) :
      Sound host config settings chunk size input
        ⟨host, .producing config chunk .empty phase none input none, none⟩
        (toLex (2 * input.length, toLex (3, left))) .producer
  | underway (encounter : Encounter) (venue : Venue) (prospect : Prospect)
      (here : venue.path = config.path)
      (underway : Underway venue config settings chunk size input encounter prospect) :
      Sound host config settings chunk size input encounter
        (prospect.rank (hasty config settings)) prospect.turn

variable {host : Host} {config settings : Config} {chunk size : Nat} {input : List UInt8}
  {encounter later : Encounter}

theorem Underway.of_hosts {venue : Venue} {fifo : Fifo} {phase : ProducePhase} {distance : Nat}
    (settings : Config) (chunk size : Nat) (input : List UInt8)
    (hosts : venue.Hosts host.files fifo (fun _ => .away) [])
    (early : phase = .openingInput ∧ distance = 15 ∨ phase = .connecting ∧ distance = 14) :
    Underway venue config settings chunk size input
      ⟨host, .producing config chunk .empty phase none input none, none⟩
      (.fresh fifo input distance) where
  held := {
    hosts := hosts
    seated := fun role number pipe sits => by cases sits
    apart := fun role number pipe pipe' sits => by cases sits }
  pouring := by
    have silent : (Prospect.fresh fifo input distance).gathering.accepted = [] :=
      hosts.attended.silent (.inl rfl)
    rw [silent]
    rcases early with ⟨rfl, rfl⟩ | ⟨rfl, rfl⟩
    · exact .openingInput input
    · exact .connecting input
  attending := .absent
  whole := by
    rw [Prospect.fresh, Gathering.accepted, hosts.attended.silent (.inl rfl), List.nil_append]

theorem rank_fresh_lt (hasty : Role → Bool) (input : List UInt8) (distance left : Nat) :
    (Prospect.fresh .new input distance).rank hasty <
      toLex (2 * input.length, toLex (3, left)) := by
  rw [Prospect.rank, Prod.Lex.toLex_lt_toLex, Prod.Lex.toLex_lt_toLex]
  exact .inr ⟨rfl, .inl (show 2 < 3 by decide)⟩

/-- Connecting makes the FIFO, and else does what it does when the FIFO is there. -/
theorem step_connecting (valid : config.IsPipe config.path .producer) {inode : Nat}
    {made : FileSystem} (makes : host.files.makeFifo config.path config.mode = .ok (inode, made))
    (chunk : Nat) (input : List UInt8) : ∃ connected,
      (Party.producing config chunk .empty .connecting none input none).step host =
        some connected ∧
      (Party.producing config chunk .empty .connecting none input none).step
        (host.withFiles made) = some connected := by
  obtain ⟨venue, same, hosts⟩ := Venue.hosts_of_make makes
  have prepared := hosts.prepare_eq .producer config.mode config.flags
  rw [same] at prepared
  rw [Party.step_produce rfl rfl rfl, Party.step_produce rfl rfl rfl]
  have here := Transport.connect_pipe valid.valid valid.isPipe
    (Pipe.prepare_of_make makes config.flags)
  have there : Transport.connect (host.withFiles made) config .producer = _ :=
    Transport.connect_pipe valid.valid valid.isPipe prepared
  simp only [Party.serve, Party.connect, here, there]
  exact ⟨_, rfl, rfl⟩

namespace Sound

variable {rank : Nat ×ₗ Nat ×ₗ Nat} {turn : Role}

theorem start (ready : Ready host config settings) (positive : 1 ≤ chunk) (size : Nat)
    (input : List UInt8) : ∃ rank turn,
      Sound host config settings chunk size input (.start host config chunk input) rank turn := by
  rw [Encounter.start, Party.produce_eq config input positive]
  rcases ready.usable with ⟨inode, fifo, leads, present, unused⟩ | ⟨⟨inode, made⟩, makes⟩
  · exact ⟨_, _, .underway _ _ _ rfl (.of_hosts settings chunk size input
      (Venue.hosts_of_unused leads present unused) (.inl ⟨rfl, rfl⟩))⟩
  · exact ⟨_, _, .before inode made makes .openingInput 1 (.inl ⟨rfl, rfl⟩)⟩

/-- Until the FIFO is made, the producer can go on. -/
theorem goes_before (valid : config.IsPipe config.path .producer) (settings : Config)
    (chunk size : Nat) (input : List UInt8) {inode : Nat} {made : FileSystem}
    (makes : host.files.makeFifo config.path config.mode = .ok (inode, made))
    {phase : ProducePhase} {left : Nat}
    (early : phase = .openingInput ∧ left = 1 ∨ phase = .connecting ∧ left = 0) :
    ∃ later, Step settings size .producer
      ⟨host, .producing config chunk .empty phase none input none, none⟩ later := by
  rcases early with ⟨rfl, -⟩ | ⟨rfl, -⟩
  · exact ⟨_, .produce _ _ rfl⟩
  · obtain ⟨connected, stepped, -⟩ := step_connecting valid makes chunk input
    exact ⟨_, .produce _ _ stepped⟩

/-- Before the FIFO is made, only the producer goes on. -/
theorem lowers_before (ready : Ready host config settings) (affords : Party.Affords chunk) {inode : Nat}
    {made : FileSystem}
    (makes : host.files.makeFifo config.path config.mode = .ok (inode, made))
    {phase : ProducePhase} {left : Nat}
    (early : phase = .openingInput ∧ left = 1 ∨ phase = .connecting ∧ left = 0) {role : Role}
    (step : Step settings size role
      ⟨host, .producing config chunk .empty phase none input none, none⟩ later) :
    ∃ rank' turn', Sound host config settings chunk size input later rank' turn' ∧
      rank' < toLex (2 * input.length, toLex (3, left)) := by
  cases step with
  | produce host' producer stepped =>
      rcases early with ⟨rfl, rfl⟩ | ⟨rfl, rfl⟩
      · cases stepped
        refine ⟨_, _, .before inode made makes .connecting 0 (.inr ⟨rfl, rfl⟩), ?_⟩
        rw [Prod.Lex.toLex_lt_toLex, Prod.Lex.toLex_lt_toLex]
        exact .inr ⟨rfl, .inr ⟨rfl, by decide⟩⟩
      · obtain ⟨connected, stepped', again⟩ :=
          step_connecting ready.producing makes chunk input
        rw [stepped'] at stepped
        cases stepped
        obtain ⟨venue, here, hosts⟩ := Venue.hosts_of_make makes
        have fresh : Underway venue config settings chunk size input
            ⟨host.withFiles made, .producing config chunk .empty .connecting none input none,
              none⟩ (.fresh .new input 14) :=
          .of_hosts settings chunk size input hosts (.inr ⟨rfl, rfl⟩)
        obtain ⟨prospect, underway, next⟩ :=
          fresh.produce (here ▸ ready.producing) affords (.produce host' producer again)
        refine ⟨_, _, .underway _ venue prospect here underway, ?_⟩
        have less := rank_fresh_lt (hasty config settings) input 14 0
        rcases next.lowers with lower | ⟨-, -, same, -⟩
        · exact lower.trans less
        · rwa [same]
  | read production length data later isProgram isPhase nonempty whole =>
      cases isProgram
      rcases early with ⟨rfl, -⟩ | ⟨rfl, -⟩ <;> cases isPhase
  | start nobody present =>
      obtain ⟨nowhere, -⟩ := FileSystem.found_of_makeFifo makes
      rw [ready.consuming.path_eq, Pipe.leadsToFifo, nowhere] at present
      cases present
  | consume host' consumer consumer' running stepped => cases running

/-- The two take turns until both have ended, or the consumer waits in vain. -/
theorem takesTurns (ready : Ready host config settings) (affords : Party.Affords chunk)
    (affords' : Party.Affords size) : TakesTurns (Step settings size)
      (Sound host config settings chunk size input)
      (∀ role, hasty config settings role = false) where
  goes := by
    intro encounter rank turn sound
    cases sound with
    | before inode made makes phase left early =>
        exact .inl (goes_before ready.producing settings chunk size input makes early)
    | underway encounter venue prospect here underway =>
        exact (underway.goes (here ▸ ready.producing) (here ▸ ready.consuming) affords
          affords').imp_right And.left
  lowers := by
    intro encounter rank turn role later sound step
    cases sound with
    | before inode made makes phase left early =>
        obtain ⟨rank', turn', sound', less⟩ := lowers_before ready affords makes early step
        exact ⟨rank', turn', sound', .inl less⟩
    | underway encounter venue prospect here underway =>
        obtain ⟨prospect', underway', next⟩ : ∃ prospect',
            Underway venue config settings chunk size input later prospect' ∧
            Prospect.Next (hasty config settings) role prospect prospect' := by
          cases role with
          | producer => exact underway.produce (here ▸ ready.producing) affords step
          | consumer => exact underway.consume (here ▸ ready.consuming) affords' step
        refine ⟨_, _, .underway later venue prospect' here underway', next.lowers.imp_right ?_⟩
        rintro ⟨isHasty, outOfTurn, same, sameTurn⟩
        refine ⟨fun patient => ?_, outOfTurn, same, sameTurn⟩
        rw [patient role] at isHasty
        cases isHasty

theorem outcome (ready : Ready host config settings) (affords : Party.Affords chunk)
    (affords' : Party.Affords size)
    (sound : Sound host config settings chunk size input encounter rank turn)
    (rests : AtRest (Step settings size) encounter) :
    if input = [] then encounter.Stranded settings size
    else encounter.Complete input ∧ ¬ encounter.Awaits := by
  cases sound with
  | before inode made makes phase left early =>
      obtain ⟨later, step⟩ := goes_before ready.producing settings chunk size input makes early
      exact absurd step (rests _ later)
  | underway encounter venue prospect here underway =>
      exact underway.outcome (here ▸ ready.producing) (here ▸ ready.consuming) affords
        affords' rests

/-- An encounter can always come to its outcome. -/
theorem comes_to_outcome (ready : Ready host config settings) (affords : Party.Affords chunk)
    (affords' : Party.Affords size)
    (sound : Sound host config settings chunk size input encounter rank turn) :
    ∃ last, Reaches (Step settings size) encounter last ∧ AtRest (Step settings size) last ∧
      if input = [] then last.Stranded settings size
      else last.Complete input ∧ ¬ last.Awaits := by
  have takes : TakesTurns (Step settings size) (Sound host config settings chunk size input)
      (∀ role, hasty config settings role = false) := takesTurns ready affords affords'
  obtain ⟨last, reaches, rests⟩ := takes.comes_to_rest sound
  obtain ⟨rank, turn, sound⟩ := takes.reaches sound reaches
  exact ⟨last, reaches, rests, sound.outcome ready affords affords' rests⟩

end Sound

/-- Whenever nobody can go on, both have ended well and the consumer has written all of the
input, if there was one; without an input the producer has ended well and the consumer waits for
ever.  It always comes to that, and it does so in the end of every run that leaves nobody out, or
of every run if no descriptor is set not to wait. -/
theorem strands_only_empty (ready : Ready host config settings) (positive : 1 ≤ chunk)
    (moderate : chunk ≤ GuardedRing.greatestSize) (positive' : 1 ≤ size)
    (moderate' : size ≤ GuardedRing.greatestSize) (input : List UInt8) :
    (∀ encounter, Reaches (Step settings size) (start host config chunk input) encounter →
      (AtRest (Step settings size) encounter →
        if input = [] then encounter.Stranded settings size else encounter.Complete input) ∧
      (encounter.Stranded settings size → input = []) ∧
      ∃ last, Reaches (Step settings size) encounter last ∧
        AtRest (Step settings size) last) ∧
    ∀ run : EndlessRun (Step settings size), run.state 0 = start host config chunk input →
      ¬ ((∀ role, hasty config settings role = false) ∨ run.Fair) := by
  have affords : Party.Affords chunk := ⟨Nat.ne_of_gt positive, moderate⟩
  have affords' : Party.Affords size := ⟨Nat.ne_of_gt positive', moderate'⟩
  have takes : TakesTurns (Step settings size) (Sound host config settings chunk size input)
      (∀ role, hasty config settings role = false) := Sound.takesTurns ready affords affords'
  obtain ⟨rank, turn, sound⟩ := Sound.start ready positive size input
  refine ⟨fun encounter reaches => ?_, fun run isStart => ?_⟩
  · obtain ⟨rank, turn, sound⟩ := takes.reaches sound reaches
    obtain ⟨last, goes, rests, outcome⟩ := sound.comes_to_outcome ready affords affords'
    refine ⟨fun rests => ?_, fun stranded => ?_, last, goes, rests⟩
    · have outcome := sound.outcome ready affords affords' rests
      by_cases empty : input = []
      · rwa [if_pos empty] at outcome ⊢
      · rw [if_neg empty] at outcome ⊢
        exact outcome.1
    · by_contra nonempty
      rw [if_neg nonempty] at outcome
      exact outcome.2 (stranded.2 last goes)
  · rw [← isStart] at sound
    exact takes.not_endless run sound

/-- On a machine with nothing on it the producer makes the FIFO. -/
theorem ready_fresh : Ready .fresh (.namedPipe "f") (.namedPipe "f") where
  producing := ⟨rfl, rfl, by decide⟩
  consuming := ⟨rfl, rfl, by decide⟩
  usable := .inr ⟨_, rfl⟩

theorem strands_only_empty_of_two_bytes :
    Ready .fresh (.namedPipe "f") (.namedPipe "f") ∧ 1 ≤ 4 ∧ 4 ≤ GuardedRing.greatestSize ∧
      (∃ last, Reaches (Step (.namedPipe "f") 4) (start .fresh (.namedPipe "f") 4 [7, 8]) last ∧
        last.Complete [7, 8]) ∧
      ∃ last, Reaches (Step (.namedPipe "f") 4) (start .fresh (.namedPipe "f") 4 []) last ∧
        last.Stranded (.namedPipe "f") 4 := by
  have positive : 1 ≤ 4 := by decide
  have moderate : 4 ≤ GuardedRing.greatestSize := by decide
  obtain ⟨always, -⟩ :=
    strands_only_empty ready_fresh positive moderate positive moderate [7, 8]
  obtain ⟨-, -, last, reaches, rests⟩ := always _ .refl
  obtain ⟨always', -⟩ := strands_only_empty ready_fresh positive moderate positive moderate []
  obtain ⟨-, -, last', reaches', rests'⟩ := always' _ .refl
  exact ⟨ready_fresh, positive, moderate, ⟨last, reaches, (always last reaches).1 rests⟩,
    last', reaches', (always' last' reaches').1 rests'⟩

/-- It is not so that no consumer is ever stranded and both always end well. -/
theorem not_always_met : ¬ ∀ (host : Host) (config settings : Config) (chunk size : Nat)
    (input : List UInt8) (encounter : Encounter), Ready host config settings → 1 ≤ chunk →
      1 ≤ size → Reaches (Step settings size) (start host config chunk input) encounter →
      ¬ encounter.Stranded settings size ∧
        (AtRest (Step settings size) encounter → encounter.Complete input) := by
  intro always
  have positive : 1 ≤ 4 := by decide
  obtain ⟨_, _, sound⟩ := Sound.start ready_fresh positive 4 []
  obtain ⟨last, reaches, -, outcome⟩ :=
    sound.comes_to_outcome ready_fresh ⟨by decide, by decide⟩ ⟨by decide, by decide⟩
  rw [if_pos rfl] at outcome
  exact (always .fresh _ _ 4 4 [] last ready_fresh positive positive reaches).1 outcome

end Encounter

end BoundedStream
