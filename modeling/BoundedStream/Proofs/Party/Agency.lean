import BoundedStream.Proofs.Host.Opening
import BoundedStream.Proofs.Party.Replies
import BoundedStream.Proofs.Program.Stages
import BoundedStream.Proofs.Region.Tally

/-!
# Runs of commands beside one another

Any number of commands run on one host, one beside the other, while others make, join, leave
and remove regions, work on their rings and rearrange the files.  However a run comes to its
end, whatever its surroundings answered it, it has given up the handle that it took.  So each
region counts the handles of the others and of the runs that go on, and one that none of them
holds is gone.  A run that never came to an endpoint has not changed anything.
-/

namespace BoundedStream

/-! ## What becomes of the regions -/

theorem Host.agrees_setGuarded (host : Host) (location : Location) (guarded : GuardedRing) :
    host.memory.regions.Agrees (host.setGuarded location guarded).memory.regions := by
  cases location with
  | heap number => rfl
  | region number => exact RegionTable.agrees_update number fun _ => rfl

theorem Host.agrees_setMonitor (host : Host) (location : Location) (monitor : Monitor) :
    host.memory.regions.Agrees (host.setMonitor location monitor).memory.regions := by
  cases location with
  | heap number => rfl
  | region number => exact RegionTable.agrees_update number fun _ => rfl

/-- A call works in the ring of a region and leaves the number of its handles alone. -/
theorem Call.agrees_of_step {host host' : Host} {call call' : Call}
    (stepped : call.step host = some (host', call')) :
    host.memory.regions.Agrees host'.memory.regions := by
  cases call with
  | ring location ringCall =>
      obtain ⟨_, guarded, _, _, _, rfl, _⟩ := step_ring_eq_some stepped
      exact host.agrees_setGuarded location guarded
  | monitor location monitorCall =>
      simp only [step, Option.bind_eq_bind, Option.bind_eq_some_iff, Option.pure_def,
        Option.some.injEq, Prod.mk.injEq, Prod.exists] at stepped
      obtain ⟨_, _, monitor, _, _, rfl, _⟩ := stepped
      exact host.agrees_setMonitor location monitor
  | pipe number pipeCall =>
      simp only [step, Option.bind_eq_bind, Option.bind_eq_some_iff, Option.pure_def,
        Option.some.injEq, Prod.mk.injEq, Prod.exists] at stepped
      obtain ⟨_, _, scene, _, _, rfl, _⟩ := stepped
      rfl

namespace Party

variable {host host' : Host} {party party' : Party}

theorem regions_of_readInput {length : Nat} {reply : Except SystemError (Chunk length)}
    (isRead : party.readInput host length = some (reply, host', party')) :
    host'.memory.regions = host.memory.regions := by
  simp only [readInput] at isRead
  split at isRead
  · cases isRead
    rfl
  · split at isRead <;> cases isRead <;> rfl

theorem regions_of_writeOutput {data : List UInt8} {reply : Except SystemError Unit}
    (isWritten : party.writeOutput host data = some (reply, host', party')) :
    host'.memory.regions = host.memory.regions := by
  simp only [writeOutput] at isWritten
  split at isWritten
  · cases isWritten
    rfl
  · split at isWritten <;> cases isWritten <;> rfl

theorem regions_createOutput (path : Option String) :
    (party.createOutput host path).2.1.memory.regions = host.memory.regions := by
  cases path with
  | none => rfl
  | some path =>
      simp only [createOutput]
      cases host.files.createFile path <;> rfl

/-- A party works for its program: the program has its answer or waits for it, the endpoint is the
same, and so are the regions but for their rings. -/
structure Labours {request : ProgramRequest} (host : Host) (party : Party)
    (resume : ProgramReply request → Program) (host' : Host) (party' : Party) : Prop where
  program : party'.program = party.program ∨ ∃ reply, party'.program = resume reply
  transport_eq : party'.transport = party.transport
  agrees : host.memory.regions.Agrees host'.memory.regions

theorem labours_of_pursue {request : ProgramRequest} {begin? : Transport → Option Call}
    {idle : ProgramReply request} {settle : TransportOutcome → Settled (ProgramReply request)}
    {resume : ProgramReply request → Program}
    (pursued : party.pursue host begin? idle settle resume = some (host', party')) :
    Labours host party resume host' party' := by
  have sameTransport := transport_of_pursue pursued
  unfold pursue at pursued
  split at pursued
  · cases pursued
  · split at pursued <;> cases pursued
    · exact ⟨.inr ⟨idle, rfl⟩, sameTransport, rfl⟩
    · exact ⟨.inl rfl, sameTransport, rfl⟩
  · split at pursued
    · simp only [Option.map_eq_some_iff, Prod.mk.injEq, Prod.exists] at pursued
      obtain ⟨later, call, stepped, rfl, rfl⟩ := pursued
      exact ⟨.inl rfl, sameTransport, Call.agrees_of_step stepped⟩
    · split at pursued <;> cases pursued
      · exact ⟨.inr ⟨_, rfl⟩, sameTransport, rfl⟩
      · exact ⟨.inl rfl, sameTransport, rfl⟩

/-- Elsewhere than at its endpoint a party works for its program, or has no buffer for it. -/
theorem labours_of_serve {request : ProgramRequest}
    {resume : ProgramReply request → Program}
    (elsewhere : ∀ config role, request ≠ .connect config role) (stays : request ≠ .disconnect)
    (served : party.serve host request resume = some (host', party')) :
    Labours host party resume host' party' ∨
      host' = (party.disconnect host).1 ∧ party'.program = party.program ∧
        party'.transport = none := by
  have answered : request.isTransfer = false →
      host.memory.regions.Agrees host'.memory.regions →
        Labours host party resume host' party' ∨
          host' = (party.disconnect host).1 ∧ party'.program = party.program ∧
            party'.transport = none := by
    intro quick agrees
    rcases replied_of_serve quick served with replied | collapses
    · exact .inl ⟨.inr replied.program, replied.transport_eq elsewhere stays, agrees⟩
    · cases collapses with
      | connect config role => exact absurd rfl (elsewhere config role)
      | allocate length =>
          exact .inr ⟨rfl, program_disconnect host party, transport_disconnect host party⟩
  cases request with
  | connect config role => exact absurd rfl (elsewhere config role)
  | allocate length =>
      obtain ⟨-, rfl, rfl⟩ | collapses := served_of_allocate served
      · exact answered rfl rfl
      · cases collapses
        exact .inr ⟨rfl, program_disconnect host party, transport_disconnect host party⟩
  | disconnect => exact absurd rfl stays
  | send data => exact .inl (labours_of_pursue served)
  | receive length => exact .inl (labours_of_pursue served)
  | countPending => exact .inl (labours_of_pursue served)
  | readInput length =>
      refine answered rfl ?_
      simp only [serve, Option.map_eq_some_iff, Prod.exists] at served
      obtain ⟨reply, later, reader, isRead, done⟩ := served
      cases done
      exact RegionTable.agrees_of_eq (regions_of_readInput isRead)
  | writeOutput data =>
      refine answered rfl ?_
      simp only [serve, Option.map_eq_some_iff, Prod.exists] at served
      obtain ⟨reply, later, writer, isWritten, done⟩ := served
      cases done
      exact RegionTable.agrees_of_eq (regions_of_writeOutput isWritten)
  | createOutput path =>
      refine answered rfl ?_
      cases served
      exact RegionTable.agrees_of_eq (regions_createOutput path)
  | openInput path =>
      refine answered rfl ?_
      cases served
      rfl
  | countReferences =>
      refine answered rfl ?_
      cases served
      rfl
  | flushOutput =>
      refine answered rfl ?_
      cases served
      rfl
  | pause =>
      refine answered rfl ?_
      cases served
      rfl

theorem step_cases (stepped : party.step host = some (host', party')) :
    party.crash = none ∧ ∃ request resume, party.program.turn = .ask request resume ∧
      party.serve host request resume = some (host', party') := by
  unfold step at stepped
  split at stepped
  · rename_i request resume alive turn
    exact ⟨alive, request, resume, turn, stepped⟩
  · cases stepped

end Party

/-! ## Runs of commands and handles of others -/

/-- A handle holds the region of a number. -/
def Segment.holds (number : Nat) (handle : Segment) : Bool :=
  handle.attached && handle.region == number

def Transport.holds (number : Nat) (transport : Transport) : Bool :=
  match transport.backend with
  | .pipe _ => false
  | .segment handle => handle.holds number

/-- A run of a command. -/
structure Agent where
  party : Party
  /-- Whether it ever had an endpoint. -/
  opened : Bool
  /-- The host before and after each step that it took. -/
  deeds : List (Host × Host)

namespace Agent

def start (party : Party) : Agent := ⟨party, false, []⟩

/-- Whether the command has returned. -/
def returned (agent : Agent) : Bool := agent.party.result?.isSome

def holds (number : Nat) (agent : Agent) : Bool :=
  agent.party.transport.any (Transport.holds number)

/-- A run after a step that it took. -/
def act (agent : Agent) (host host' : Host) (party : Party) : Agent :=
  ⟨party, agent.opened || party.transport.isSome, agent.deeds ++ [(host, host')]⟩

/-- Nothing that the run did has changed anything, unless it crashed at a region whose ring has
no end that is an address, which is then mapped once more. -/
def Harmless (agent : Agent) : Prop :=
  ∀ deed ∈ agent.deeds, deed.2 = deed.1 ∨
    agent.party.crash = some Region.overflow ∧
      ∃ number, deed.2 = deed.1.updateRegion number Region.map

theorem harmless_act {agent : Agent} (harmless : agent.Harmless)
    (alive : agent.party.crash = none) {host host' : Host} {party : Party}
    (last : host' = host ∨ party.crash = some Region.overflow ∧
      ∃ number, host' = host.updateRegion number Region.map) :
    (agent.act host host' party).Harmless := by
  intro deed member
  rcases List.mem_append.mp member with old | new
  · refine .inl ((harmless deed old).resolve_right ?_)
    rw [alive]
    rintro ⟨⟨⟩, -⟩
  · rw [List.mem_singleton.mp new]
    exact last

theorem holds_of_transport {agent agent' : Agent}
    (same : agent'.party.transport = agent.party.transport) (number : Nat) :
    agent'.holds number = agent.holds number := by
  rw [holds, holds, same]

theorem holds_of_unopened {agent : Agent} (unopened : agent.party.transport = none)
    (number : Nat) : agent.holds number = false := by
  rw [holds, unopened]
  rfl

end Agent

/-! ## Handles taken and given up -/

section Tally

variable {host later : Host} {holders holders' : Nat → Nat}

private theorem toNat_beq (first second : Nat) :
    (first == second).toNat = if second = first then 1 else 0 := by
  by_cases same : second = first
  · simp [same]
  · simp [same, Ne.symm same]

theorem tally_of_create {memory later : SharedMemory} {path : String} {capacity mode : Nat}
    {handle : Segment} (tally : memory.regions.Tally holders)
    (created : memory.create path capacity mode = (.ok handle, later))
    (more : ∀ number, holders' number = holders number + (handle.holds number).toNat) :
    later.regions.Tally holders' := by
  cases admitted : RegionTable.capacityRefusal? capacity with
  | some error =>
      simp only [SharedMemory.create, admitted] at created
      cases created
  | none =>
      cases derived : memory.deriveKey path with
      | error error =>
          simp only [SharedMemory.create, admitted, derived] at created
          cases created
      | ok key =>
          rw [SharedMemory.create_eq mode derived admitted] at created
          split at created
          · cases created
          · cases created
            refine tally.insert rfl fun number => ?_
            rw [more, ← toNat_beq]
            rfl

theorem tally_of_attach {memory later : SharedMemory} {path : String} {handle : Segment}
    (tally : memory.regions.Tally holders)
    (attached : memory.attach path = (.ok handle, later))
    (more : ∀ number, holders' number = holders number + (handle.holds number).toNat) :
    later.regions.Tally holders' := by
  cases derived : memory.deriveKey path with
  | error error =>
      simp only [SharedMemory.attach, derived] at attached
      cases attached
  | ok key =>
      cases leads : memory.regions.find? key with
      | none =>
          rw [SharedMemory.attach_eq_error derived leads] at attached
          cases attached
      | some number =>
          obtain ⟨region, present, -⟩ := RegionTable.get?_of_find?_eq_some leads
          rw [SharedMemory.attach_eq_join derived leads present, Region.join_eq] at attached
          rcases refused : region.refusal? path with _ | error | text <;>
            rw [refused] at attached
          · dsimp only at attached
            split at attached <;> cases attached
            refine tally.join present rfl fun other => ?_
            rw [more, ← toNat_beq]
            rfl
          · cases attached
          · cases attached

theorem tally_of_remove {memory : SharedMemory} (tally : memory.regions.Tally holders)
    (path : String) : (memory.remove path).2.regions.Tally holders := by
  cases derived : memory.deriveKey path with
  | error error =>
      simp only [SharedMemory.remove, derived]
      exact tally
  | ok key =>
      rw [SharedMemory.remove_eq derived]
      cases memory.regions.find? key with
      | none => exact tally
      | some number => exact tally.remove number

theorem tally_of_opening {config : Config} {role : Role} {transport : Transport}
    (tally : host.memory.regions.Tally holders)
    (opening : Opening host config role transport later)
    (more : ∀ number, holders' number = holders number + (transport.holds number).toNat) :
    later.memory.regions.Tally holders' := by
  have unheld : (∀ number, transport.holds number = false) → holders' = holders := by
    intro nothing
    funext number
    rw [more, nothing]
    rfl
  cases opening with
  | founds _ region _ _ one =>
      refine tally.insert one fun number => ?_
      rw [more, ← toNat_beq]
      rfl
  | joins _ key number region _ _ present =>
      refine tally.join present rfl fun other => ?_
      rw [more, ← toNat_beq]
      rfl
  | takes =>
      rw [unheld fun _ => rfl]
      exact tally
  | makes =>
      rw [unheld fun _ => rfl]
      exact tally

theorem tally_of_drop {memory : SharedMemory} {handle : Segment}
    (tally : memory.regions.Tally holders) (few : holders handle.region < 1 <<< 32)
    (less : ∀ number, holders number = holders' number + (handle.holds number).toNat) :
    (memory.drop handle).regions.Tally holders' := by
  cases attached : handle.attached with
  | false =>
      have same : holders' = holders := by
        funext number
        rw [less, Segment.holds, attached]
        rfl
      rw [SharedMemory.drop_of_not_attached attached, same]
      exact tally
  | true =>
      simp only [SharedMemory.drop, SharedMemory.release, attached, if_true]
      refine tally.release few fun number => ?_
      rw [less, Segment.holds, attached, Bool.true_and, toNat_beq]

theorem tally_of_close {transport : Transport} (tally : host.memory.regions.Tally holders)
    (few : ∀ number, holders number < 1 <<< 32)
    (less : ∀ number, holders number = holders' number + (transport.holds number).toNat) :
    (transport.close host).memory.regions.Tally holders' := by
  obtain ⟨config, role, backend⟩ := transport
  cases backend with
  | segment handle => exact tally_of_drop tally (few handle.region) less
  | pipe number =>
      have same : holders' = holders := by
        funext number
        rw [less]
        rfl
      rw [same]
      simp only [Transport.close, Host.closePipe]
      split <;> exact tally

end Tally

/-- A host with the runs of commands on it and the handles that others have taken. -/
structure Agency where
  host : Host
  /-- All runs that were ever begun, in order. -/
  agents : List Agent
  /-- All handles that others ever took, in order. -/
  handles : List Segment

namespace Agency

/-- The number of handles that a region has. -/
def holders (agency : Agency) (number : Nat) : Nat :=
  agency.agents.countP (Agent.holds number) + agency.handles.countP (Segment.holds number)

/-- The number of handles that a region has without those of the runs that have returned. -/
def outstanding (agency : Agency) (number : Nat) : Nat :=
  agency.agents.countP (fun agent => !agent.returned && agent.holds number) +
    agency.handles.countP (Segment.holds number)

def setMemory (agency : Agency) (memory : SharedMemory) : Agency :=
  { agency with host := { agency.host with memory } }

/-- What may happen next. -/
inductive Step (agency : Agency) : Agency → Prop
  | produce (config : Config) (input : Option String) (chunk : Nat)
      (standardInput : List UInt8) :
      Step agency
        { agency with
          agents := agency.agents ++ [.start (.produce config input chunk standardInput)] }
  | consume (config : Config) (output : Option String) (limit : Option Nat) (chunk : Nat) :
      Step agency
        { agency with
          agents := agency.agents ++ [.start (.consume config output limit chunk)] }
  | act (index : Nat) (agent : Agent) (host : Host) (party : Party)
      (present : agency.agents[index]? = some agent)
      (stepped : agent.party.step agency.host = some (host, party)) :
      Step agency
        { agency with
          host
          agents := agency.agents.set index (agent.act agency.host host party) }
  /-- The surroundings answer in a way of their own: a file cannot be opened, read, written or
  flushed, a transfer fails or comes to something. -/
  | answer (index : Nat) (agent : Agent) (request : ProgramRequest)
      (resume : ProgramReply request → Program) (reply : ProgramReply request)
      (present : agency.agents[index]? = some agent)
      (asks : agent.party.program.turn = .ask request resume)
      (elsewhere : ∀ config role, request ≠ .connect config role)
      (stays : request ≠ .disconnect) :
      Step agency
        { agency with
          agents := agency.agents.set index
            { agent with party := agent.party.goOn (resume reply) } }
  /-- An endpoint is refused for a reason of the surroundings. -/
  | refuse (index : Nat) (agent : Agent) (config : Config) (role : Role)
      (resume : ProgramReply (.connect config role) → Program) (error : StreamError)
      (present : agency.agents[index]? = some agent)
      (asks : agent.party.program.turn = .ask (.connect config role) resume) :
      Step agency
        { agency with
          agents := agency.agents.set index
            { agent with party := agent.party.goOn (resume (.error error)) } }
  | create (path : String) (capacity mode : Nat) (handle : Segment) (memory : SharedMemory)
      (created : agency.host.memory.create path capacity mode = (.ok handle, memory)) :
      Step agency { agency.setMemory memory with handles := agency.handles ++ [handle] }
  | attach (path : String) (handle : Segment) (memory : SharedMemory)
      (attached : agency.host.memory.attach path = (.ok handle, memory)) :
      Step agency { agency.setMemory memory with handles := agency.handles ++ [handle] }
  | drop (index : Nat) (handle : Segment) (present : agency.handles[index]? = some handle) :
      Step agency
        { agency.setMemory (agency.host.memory.drop handle) with
          handles := agency.handles.set index { handle with attached := false } }
  | remove (path : String) :
      Step agency (agency.setMemory (agency.host.memory.remove path).2)
  /-- Anything else happens: to files, pipes and rings. -/
  | rearrange (host : Host) (agrees : agency.host.memory.regions.Agrees host.memory.regions) :
      Step agency { agency with host }

/-- No region has more handles than it can count. -/
def Few (agency : Agency) : Prop := ∀ number, agency.holders number < 1 <<< 32

/-- Something happens while no region has more handles than it can count. -/
def Goes (agency later : Agency) : Prop := agency.Few ∧ Step agency later

/-! ## The stage of a run -/

/-- How far a run has come, and what it has to show for it. -/
inductive Stage (agent : Agent) : Prop
  | ahead (program : agent.party.program.Ahead) (unopened : agent.party.transport = none)
      (new : agent.opened = false) (harmless : agent.Harmless)
  | engaged (program : agent.party.program.Engaged) (opened : agent.opened = true)
  | ended (result : ProgramResult) (ends : agent.party.result? = some result)
      (left : agent.party.transport = none)
      (late : agent.opened = true → ¬ result.IsEarly)
      (harmless : agent.opened = false → agent.Harmless)

/-- The regions are in order, and each run is in one of its stages. -/
structure Sound (agency : Agency) : Prop where
  tally : agency.host.memory.regions.Tally agency.holders
  stages : ∀ agent ∈ agency.agents, Stage agent

variable {agency later : Agency} {index : Nat} {agent : Agent}

theorem holders_set (present : agency.agents[index]? = some agent) (new : Agent)
    (host : Host) (number : Nat) :
    holders { agency with host, agents := agency.agents.set index new } number +
        (agent.holds number).toNat =
      agency.holders number + (new.holds number).toNat := by
  have balance := Region.countP_set_add present new (Agent.holds number)
  simp only [holders]
  omega

theorem holders_set_of_same (present : agency.agents[index]? = some agent) {new : Agent}
    (same : new.party.transport = agent.party.transport) (host : Host) :
    holders { agency with host, agents := agency.agents.set index new } = agency.holders := by
  funext number
  have balance := holders_set present new host number
  rw [Agent.holds_of_transport same] at balance
  omega

theorem stage_produce (config : Config) (input : Option String) (chunk : Nat)
    (standardInput : List UInt8) :
    Stage (.start (.produce config input chunk standardInput)) := by
  by_cases empty : chunk = 0
  · subst empty
    exact .ended _ rfl rfl nofun fun _ => nofun
  · refine .ahead (.inl ?_) rfl rfl nofun
    simp [Production.start, empty]

theorem stage_consume (config : Config) (output : Option String) (limit : Option Nat)
    (chunk : Nat) : Stage (.start (.consume config output limit chunk)) := by
  by_cases empty : chunk = 0
  · subst empty
    exact .ended _ rfl rfl nofun fun _ => nofun
  · refine .ahead ?_ rfl rfl nofun
    simp [Agent.start, Party.consume, Party.start, Program.Ahead, Consumption.start, empty]

/-- Before its endpoint a run has changed nothing, whatever it did last. -/
theorem stage_of_early {program : Program} {host host' : Host} {party : Party}
    (isProgram : party.program = program) (unopened : party.transport = none)
    (new : agent.opened = false)
    (stillHarmless : (agent.act host host' party).Harmless)
    (leads : program.Ahead ∨ program.result?.isSome = true) :
    Stage (agent.act host host' party) := by
  subst isProgram
  have stillNew : (agent.act host host' party).opened = false := by
    simp [Agent.act, new, unopened]
  rcases leads with ahead | ends
  · exact .ahead ahead unopened stillNew stillHarmless
  · obtain ⟨result, ends⟩ := Option.isSome_iff_exists.mp ends
    refine .ended result ends unopened (fun opened => ?_) fun _ => stillHarmless
    rw [stillNew] at opened
    cases opened

namespace Sound

/-- One run goes on. -/
private theorem set (sound : agency.Sound) (host : Host) {new : Agent} (stage : Stage new)
    (tally : host.memory.regions.Tally
      (holders { agency with host, agents := agency.agents.set index new })) :
    Sound { agency with host, agents := agency.agents.set index new } where
  tally := tally
  stages other member := by
    rcases List.mem_or_eq_of_mem_set member with old | rfl
    · exact sound.stages other old
    · exact stage

/-- A run goes on and keeps what it has. -/
private theorem keep (sound : agency.Sound) (present : agency.agents[index]? = some agent)
    {host : Host} (agrees : agency.host.memory.regions.Agrees host.memory.regions)
    {new : Agent} (same : new.party.transport = agent.party.transport)
    (stage : Stage new) :
    Sound { agency with host, agents := agency.agents.set index new } := by
  refine sound.set host stage ?_
  rw [holders_set_of_same present same]
  exact sound.tally.of_agrees agrees

/-- A run that asks for an endpoint is refused or has it, or crashes. -/
private theorem connect (sound : agency.Sound)
    (present : agency.agents[index]? = some agent) (unopened : agent.party.transport = none)
    (new : agent.opened = false) (harmless : agent.Harmless)
    (alive : agent.party.crash = none) (ahead : agent.party.program.Ahead) {host : Host}
    {party : Party} {config : Config} {role : Role}
    {resume : ProgramReply (.connect config role) → Program}
    (accepted : ∀ capacity, (resume (.ok capacity)).Engaged)
    (refused : ∀ error, (resume (.error error)).result?.isSome = true)
    (served : agent.party.serve agency.host (.connect config role) resume =
      some (host, party)) :
    Sound { agency with
      host, agents := agency.agents.set index (agent.act agency.host host party) } := by
  have opens := Transport.opens_connect agency.host config role
  simp only [Party.serve, Party.connect] at served
  rcases connected : Transport.connect agency.host config role with
    ⟨(error | text) | transport, later⟩ <;>
    rw [connected] at opens served <;> cases served
  · -- What was refused has left the host as it was.
    cases opens
    exact sound.keep present rfl rfl (stage_of_early rfl unopened new
      (Agent.harmless_act harmless alive (.inl rfl)) (.inr (refused error)))
  · cases opens with
    | overflow _ key number =>
        have mapped : agency.host.memory.regions.Agrees
            (agency.host.updateRegion number Region.map).memory.regions :=
          RegionTable.agrees_update number fun _ => rfl
        exact sound.keep present mapped rfl (stage_of_early rfl unopened new
          (Agent.harmless_act harmless alive (.inr ⟨rfl, number, rfl⟩)) (.inl ahead))
  · refine sound.set _ (.engaged (accepted _) (by simp [Agent.act, Party.goOn])) ?_
    refine tally_of_opening sound.tally opens fun number => ?_
    have balance := holders_set present (agent.act agency.host host
      ({ agent.party with transport := some transport }.goOn
        (resume (.ok (transport.capacity? host))))) host number
    rw [Agent.holds_of_unopened unopened] at balance
    exact balance

/-- A run that has given its endpoint up has given up its handle. -/
private theorem leave (sound : agency.Sound) (few : agency.Few)
    (present : agency.agents[index]? = some agent) {party : Party}
    (left : party.transport = none)
    (stage : Stage (agent.act agency.host (agent.party.disconnect agency.host).1 party)) :
    Sound { agency with
      host := (agent.party.disconnect agency.host).1
      agents := agency.agents.set index
        (agent.act agency.host (agent.party.disconnect agency.host).1 party) } := by
  unfold Party.disconnect at stage ⊢
  cases held : agent.party.transport with
  | none =>
      rw [held] at stage
      exact sound.keep present rfl (left.trans held.symm) stage
  | some transport =>
      rw [held] at stage
      refine sound.set _ stage (tally_of_close sound.tally few fun number => ?_)
      have balance := holders_set present (agent.act agency.host (transport.close agency.host)
        party) (transport.close agency.host) number
      rw [Agent.holds, held, Agent.holds_of_unopened left] at balance
      exact balance.symm

private theorem disconnect (sound : agency.Sound) (few : agency.Few)
    (present : agency.agents[index]? = some agent) (opened : agent.opened = true)
    {host : Host} {party : Party} {resume : ProgramReply .disconnect → Program}
    {result : ProgramResult} (ends : (resume ()).result? = some result)
    (late : ¬ result.IsEarly)
    (served : agent.party.serve agency.host .disconnect resume = some (host, party)) :
    Sound { agency with
      host, agents := agency.agents.set index (agent.act agency.host host party) } := by
  cases served
  have left := Party.transport_disconnect agency.host agent.party
  refine sound.leave few present left (.ended result ends left (fun _ => late) fun unopened => ?_)
  simp [Agent.act, opened] at unopened

/-- A run takes a step. -/
private theorem act (sound : agency.Sound) (few : agency.Few)
    (present : agency.agents[index]? = some agent) {host : Host} {party : Party}
    (stepped : agent.party.step agency.host = some (host, party)) :
    Sound { agency with
      host, agents := agency.agents.set index (agent.act agency.host host party) } := by
  obtain ⟨alive, request, resume, turn, served⟩ := Party.step_cases stepped
  cases sound.stages agent (List.mem_of_getElem? present) with
  | ended result ends =>
      rw [Party.result?, Program.result?, turn] at ends
      cases ends
  | ahead program unopened new harmless =>
      cases Program.asks_of_turn (.inl program) turn with
      | input path resume _ leads =>
          cases served
          have works := Party.works_openInput agency.host agent.party path
          exact sound.keep present rfl works.transport_eq
            (stage_of_early rfl (works.transport_eq.trans unopened) new
              (Agent.harmless_act harmless alive (.inl rfl)) (leads _))
      | endpoint config role resume _ accepted refused =>
          exact sound.connect present unopened new harmless alive program accepted refused
            served
      | work _ _ engaged => exact (Program.not_engaged_of_ahead program engaged).elim
      | leave _ engaged => exact (Program.not_engaged_of_ahead program engaged).elim
  | engaged program opened =>
      cases Program.asks_of_turn (.inr program) turn with
      | input _ _ ahead => exact (Program.not_engaged_of_ahead ahead program).elim
      | endpoint _ _ _ ahead => exact (Program.not_engaged_of_ahead ahead program).elim
      | work request resume _ elsewhere stays leads =>
          have wasOpened : (agent.act agency.host host party).opened = true := by
            simp [Agent.act, opened]
          obtain labours | ⟨rfl, same, left⟩ := Party.labours_of_serve elsewhere stays served
          · refine sound.keep present labours.agrees labours.transport_eq
              (.engaged ?_ wasOpened)
            rcases labours.program with same | ⟨reply, isReply⟩
            · rw [Agent.act, same]
              exact program
            · rw [Agent.act, isReply]
              exact leads reply
          · refine sound.leave few present left (.engaged ?_ wasOpened)
            rw [Agent.act, same]
            exact program
      | leave resume _ result ends late =>
          exact sound.disconnect few present opened ends late served

/-- The surroundings answer a run. -/
private theorem answer (sound : agency.Sound) (present : agency.agents[index]? = some agent)
    {request : ProgramRequest} {resume : ProgramReply request → Program}
    (asks : agent.party.program.turn = .ask request resume)
    (elsewhere : ∀ config role, request ≠ .connect config role) (stays : request ≠ .disconnect)
    (reply : ProgramReply request) :
    Sound { agency with
      agents := agency.agents.set index
        { agent with party := agent.party.goOn (resume reply) } } := by
  refine sound.keep present rfl rfl ?_
  cases sound.stages agent (List.mem_of_getElem? present) with
  | ended result ends =>
      rw [Party.result?, Program.result?, asks] at ends
      cases ends
  | ahead program unopened new harmless =>
      cases Program.asks_of_turn (.inl program) asks with
      | input path resume _ leads =>
          rcases leads reply with ahead | ends
          · exact .ahead ahead unopened new harmless
          · obtain ⟨result, ends⟩ := Option.isSome_iff_exists.mp ends
            refine .ended result ends unopened (fun opened => ?_) fun _ => harmless
            rw [show agent.opened = true from opened] at new
            cases new
      | endpoint config role => exact absurd rfl (elsewhere config role)
      | work _ _ engaged => exact (Program.not_engaged_of_ahead program engaged).elim
      | leave => exact absurd rfl stays
  | engaged program opened =>
      cases Program.asks_of_turn (.inr program) asks with
      | input _ _ ahead => exact (Program.not_engaged_of_ahead ahead program).elim
      | endpoint config role => exact absurd rfl (elsewhere config role)
      | work request resume _ _ _ leads => exact .engaged (leads reply) opened
      | leave => exact absurd rfl stays

private theorem refuse (sound : agency.Sound) (present : agency.agents[index]? = some agent)
    {config : Config} {role : Role} {resume : ProgramReply (.connect config role) → Program}
    (asks : agent.party.program.turn = .ask (.connect config role) resume)
    (error : StreamError) :
    Sound { agency with
      agents := agency.agents.set index
        { agent with party := agent.party.goOn (resume (.error error)) } } := by
  refine sound.keep present rfl rfl ?_
  cases sound.stages agent (List.mem_of_getElem? present) with
  | ended result ends =>
      rw [Party.result?, Program.result?, asks] at ends
      cases ends
  | ahead program unopened new harmless =>
      cases Program.asks_of_turn (.inl program) asks with
      | endpoint _ _ _ _ _ refused =>
          obtain ⟨result, ends⟩ := Option.isSome_iff_exists.mp (refused error)
          refine .ended result ends unopened (fun opened => ?_) fun _ => harmless
          rw [show agent.opened = true from opened] at new
          cases new
      | work _ _ _ elsewhere => exact absurd rfl (elsewhere config role)
  | engaged program =>
      cases Program.asks_of_turn (.inr program) asks with
      | endpoint _ _ _ ahead => exact (Program.not_engaged_of_ahead ahead program).elim
      | work _ _ _ elsewhere => exact absurd rfl (elsewhere config role)

/-- Another run begins. -/
private theorem begin (sound : agency.Sound) {new : Agent} (stage : Stage new)
    (unopened : new.party.transport = none) :
    Sound { agency with agents := agency.agents ++ [new] } where
  tally := by
    have same : holders { agency with agents := agency.agents ++ [new] } =
        agency.holders := by
      funext number
      simp [holders, List.countP_append, Agent.holds_of_unopened unopened]
    rw [same]
    exact sound.tally
  stages agent member := by
    rcases List.mem_append.mp member with old | isNew
    · exact sound.stages agent old
    · rw [List.mem_singleton.mp isNew]
      exact stage

/-- Somebody else takes a handle. -/
private theorem take (sound : agency.Sound) {memory : SharedMemory} (handle : Segment)
    (tally : ∀ holders' : Nat → Nat,
      (∀ number, holders' number = agency.holders number + (handle.holds number).toNat) →
        memory.regions.Tally holders') :
    Sound { agency.setMemory memory with handles := agency.handles ++ [handle] } where
  tally := by
    refine tally _ fun number => ?_
    simp only [holders, setMemory, List.countP_append, List.countP_cons, List.countP_nil]
    cases handle.holds number <;> simp [Nat.add_assoc]
  stages := sound.stages

theorem step (sound : agency.Sound) (few : agency.Few) (step : Step agency later) :
    later.Sound := by
  cases step with
  | produce config input chunk standardInput =>
      exact sound.begin (stage_produce config input chunk standardInput) rfl
  | consume config output limit chunk =>
      exact sound.begin (stage_consume config output limit chunk) rfl
  | act index agent host party present stepped => exact sound.act few present stepped
  | answer index agent request resume reply present asks elsewhere stays =>
      exact sound.answer present asks elsewhere stays reply
  | refuse index agent config role resume error present asks =>
      exact sound.refuse present asks error
  | create path capacity mode handle memory created =>
      exact sound.take handle fun _ more => tally_of_create sound.tally created more
  | attach path handle memory attached =>
      exact sound.take handle fun _ more => tally_of_attach sound.tally attached more
  | drop index handle present =>
      refine ⟨tally_of_drop sound.tally (few handle.region) fun number => ?_, sound.stages⟩
      have balance := Region.countP_set_add present { handle with attached := false }
        (Segment.holds number)
      have released : Segment.holds number { handle with attached := false } = false := rfl
      rw [released] at balance
      simp only [holders, setMemory]
      change _ + Bool.toNat _ = _ + 0 at balance
      omega
  | remove path => exact ⟨tally_of_remove sound.tally path, sound.stages⟩
  | rearrange host agrees => exact ⟨sound.tally.of_agrees agrees, sound.stages⟩

theorem run (sound : agency.Sound) (goes : Relation.ReflTransGen Goes agency later) :
    later.Sound := by
  induction goes with
  | refl => exact sound
  | tail _ goes hypothesis => exact hypothesis.step goes.1 goes.2

/-- What has returned holds nothing, so that the handles are those of the others. -/
theorem holders_eq (sound : agency.Sound) : agency.holders = agency.outstanding := by
  funext number
  have same : agency.agents.countP (Agent.holds number) =
      agency.agents.countP (fun agent => !agent.returned && agent.holds number) := by
    refine List.countP_congr fun agent member => ?_
    cases sound.stages agent member with
    | ended result ends left =>
        simp [Agent.holds_of_unopened left]
    | ahead program unopened => simp [Agent.holds_of_unopened unopened]
    | engaged program =>
        have goesOn : agent.returned = false := by
          simp [Agent.returned, Party.result?, Program.result?_of_engaged program]
        simp [goesOn]
  rw [holders, outstanding, same]

end Sound

/-- However the runs of commands end, what they took they have given up.  Each region counts the
handles of the others and of the runs that go on; without any it is gone, and its key is free for
the next one.  A run that was refused for its chunk or its input file has changed nothing, and
neither has one that came to no endpoint, but for the mapping that a crash at a region leaves:
its output has not even been made. -/
theorem runs_leave_nothing (fresh : agency.agents = [])
    (tally : agency.host.memory.regions.Tally agency.holders)
    (goes : Relation.ReflTransGen Goes agency later) :
    (∀ agent ∈ later.agents, agent.returned = true → agent.party.transport = none) ∧
    (∀ number region, later.host.region? number = some region →
      region.references = Int32.ofNat (later.outstanding number) ∧
        (later.outstanding number = 0 → region.removed = true)) ∧
    (∀ path key capacity mode, later.host.memory.deriveKey path = .ok key →
      RegionTable.capacityRefusal? capacity = none →
      (∀ number region, later.host.region? number = some region → region.key = key →
        region.removed = false → later.outstanding number = 0) →
      ∃ handle memory,
        later.host.memory.create path capacity mode = (.ok handle, memory)) ∧
    ∀ agent ∈ later.agents,
      (∀ result, agent.party.result? = some result → result.IsEarly → agent.Harmless) ∧
        (agent.opened = false → agent.Harmless) := by
  have begun : agency.Sound := ⟨tally, by simp [fresh]⟩
  have sound := begun.run goes
  have counts := sound.tally
  rw [sound.holders_eq] at counts
  refine ⟨fun agent member returned => ?_, fun number region present => ?_, ?_,
    fun agent member => ⟨fun result ends early => ?_, fun unopened => ?_⟩⟩
  · cases sound.stages agent member with
    | ended result ends left => exact left
    | ahead program unopened => exact unopened
    | engaged program =>
        rw [Agent.returned, Party.result?, Program.result?_of_engaged program] at returned
        cases returned
  · exact ⟨counts.counted number region present, counts.gone number region present⟩
  · intro path key capacity mode derived admitted unheld
    rw [SharedMemory.create_eq mode derived admitted, counts.find?_eq_none unheld]
    exact ⟨_, _, rfl⟩
  · cases sound.stages agent member with
    | ahead program unopened new harmless => exact harmless
    | engaged program =>
        rw [Party.result?, Program.result?_of_engaged program] at ends
        cases ends
    | ended result' ends' left late harmless =>
        rw [ends'] at ends
        cases ends
        cases opened : agent.opened with
        | false => exact harmless opened
        | true => exact absurd early (late opened)
  · cases sound.stages agent member with
    | ahead program _ new harmless => exact harmless
    | engaged program opened =>
        rw [unopened] at opened
        cases opened
    | ended result ends left late harmless => exact harmless unopened

/-! ## A run whose output cannot be made -/

theorem few_of_length (short : agency.agents.length + agency.handles.length < 1 <<< 32) :
    agency.Few := by
  intro number
  have runs : agency.agents.countP (Agent.holds number) ≤ agency.agents.length :=
    List.countP_le_length
  have others : agency.handles.countP (Segment.holds number) ≤ agency.handles.length :=
    List.countP_le_length
  unfold holders
  omega

/-- A host with one empty file. -/
def pier : Host := Host.fresh.place "a" (.file [])

/-- The host once somebody has made a region for the file. -/
def moored : Host :=
  { pier with
    memory := { pier.memory with regions := pier.memory.regions.insert (.new 2 4 0o600) } }

private theorem step_moored :
    (Party.consume (.sharedMemory "a" 4) (some "b") none 1).step moored =
      some (moored.updateRegion 0 Region.joined,
        { Party.consume (.sharedMemory "a" 4) (some "b") none 1 with
          program := .consume ((Consumption.start (.sharedMemory "a" 4) (some "b") none 1).goTo
            .creatingOutput)
          transport := some ⟨.sharedMemory "a" 4, .consumer,
            .segment ⟨"a", 0, false, true⟩⟩ }) := by
  rfl

/-- A consumer joins the region of somebody else, cannot make its output, and leaves. -/
theorem exists_failed_output : ∃ later : Agency,
    Relation.ReflTransGen Goes ⟨pier, [], []⟩ later ∧
      (∃ agent, later.agents = [agent] ∧ agent.returned = true ∧ agent.opened = true) ∧
      later.handles = [⟨"a", 0, true, true⟩] ∧ (later.host.region? 0).isSome = true := by
  let config : Config := .sharedMemory "a" 4
  let creating : Consumption :=
    (Consumption.start config (some "b") none 1).goTo .creatingOutput
  let failed : Consumption := creating.outputCreated (.error (.number .noEntry))
  let consumer : Party := .consume config (some "b") none 1
  let joiner : Party := { consumer with
    program := .consume creating
    transport := some ⟨config, .consumer, .segment ⟨"a", 0, false, true⟩⟩ }
  let joined : Host := moored.updateRegion 0 Region.joined
  let other : Segment := ⟨"a", 0, true, true⟩
  let joining : Agent := ⟨joiner, true, [(moored, joined)]⟩
  let leaving : Agent := { joining with party := joiner.goOn (.consume failed) }
  have created : Step ⟨pier, [], []⟩ ⟨moored, [], [other]⟩ :=
    .create "a" 4 0o600 other moored.memory rfl
  have begun : Step ⟨moored, [], [other]⟩ ⟨moored, [.start consumer], [other]⟩ :=
    .consume config (some "b") none 1
  have joins : Step ⟨moored, [.start consumer], [other]⟩ ⟨joined, [joining], [other]⟩ :=
    .act 0 (.start consumer) joined joiner rfl step_moored
  have answered : Step ⟨joined, [joining], [other]⟩ ⟨joined, [leaving], [other]⟩ :=
    .answer 0 joining (.createOutput (some "b"))
      (fun reply => .consume (creating.outputCreated reply)) (.error (.number .noEntry)) rfl rfl
      (by simp) (by simp)
  obtain ⟨⟨host, party⟩, leaves⟩ : ∃ after, leaving.party.step joined = some after :=
    ⟨_, rfl⟩
  have left : Step ⟨joined, [leaving], [other]⟩
      ⟨host, [leaving.act joined host party], [other]⟩ :=
    .act 0 leaving host party rfl leaves
  cases leaves
  have few : ∀ (host : Host) (agents : List Agent), agents.length ≤ 1 →
      ∀ handles : List Segment, handles.length ≤ 1 → (⟨host, agents, handles⟩ : Agency).Few :=
    fun host agents one handles only => few_of_length (by simp only; omega)
  refine ⟨_, (((Relation.ReflTransGen.single ⟨few _ _ ?_ _ ?_, created⟩).tail
    ⟨few _ _ ?_ _ ?_, begun⟩).tail ⟨few _ _ ?_ _ ?_, joins⟩).tail ⟨few _ _ ?_ _ ?_, answered⟩
    |>.tail ⟨few _ _ ?_ _ ?_, left⟩, ⟨_, rfl, rfl, rfl⟩, rfl, rfl⟩ <;> simp

theorem runs_leave_nothing_of_failed_output : ∃ (later : Agency) (region : Region),
    Relation.ReflTransGen Goes ⟨pier, [], []⟩ later ∧
      (∃ agent, later.agents = [agent] ∧ agent.returned = true ∧ agent.opened = true ∧
        agent.party.transport = none) ∧
      later.host.region? 0 = some region ∧ region.references = 1 := by
  obtain ⟨later, goes, ⟨agent, sole, returned, opened⟩, handles, isSome⟩ :=
    exists_failed_output
  obtain ⟨region, present⟩ := Option.isSome_iff_exists.mp isSome
  have nothing : pier.memory.regions = .empty := rfl
  obtain ⟨left, counts, -⟩ := runs_leave_nothing rfl
    { counted := by simp [nothing, RegionTable.empty, RegionTable.get?]
      gone := by simp [nothing, RegionTable.empty, RegionTable.get?]
      present := fun number held => absurd rfl held } goes
  refine ⟨later, region, goes, ⟨agent, sole, returned, opened, ?_⟩, present, ?_⟩
  · exact left agent (by simp [sole]) returned
  · have one : later.outstanding 0 = 1 := by
      simp [outstanding, sole, handles, returned, Segment.holds]
    rw [(counts 0 region present).1, one]
    rfl

end Agency

end BoundedStream
