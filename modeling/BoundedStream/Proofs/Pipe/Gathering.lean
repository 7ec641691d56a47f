import BoundedStream.Proofs.Party.Pursuit
import BoundedStream.Proofs.Pipe.Venue

/-!
# Endpoints at one FIFO

The two parties that use a FIFO have endpoints of their own on one host.  What one of them does
with its endpoint leaves the other endpoint alone; together they and the FIFO make a gathering,
of which everything is known that decides what the parties can do next.
-/

namespace BoundedStream

/-- A FIFO with the two parties that use it. -/
structure Gathering where
  fifo : Fifo
  /-- How each party stands to its end. -/
  presence : Role → Presence
  /-- The number of the endpoint of each party and the endpoint, while it has one. -/
  seat : Role → Option (Nat × Pipe)
  /-- The bytes that were taken out of the FIFO. -/
  taken : List UInt8

namespace Gathering

/-- A party has gone on. -/
def change (gathering : Gathering) (role : Role) (fifo : Fifo) (presence : Presence)
    (seat : Option (Nat × Pipe)) (taken : List UInt8) : Gathering :=
  ⟨fifo, Function.update gathering.presence role presence,
    Function.update gathering.seat role seat, taken⟩

/-- All bytes that the FIFO has accepted. -/
def accepted (gathering : Gathering) : List UInt8 :=
  gathering.taken ++ gathering.fifo.contents

/-- The gathering takes place on a host. -/
structure Held (gathering : Gathering) (venue : Venue) (host : Host) : Prop where
  hosts : venue.Hosts host.files gathering.fifo gathering.presence gathering.taken
  seated : ∀ role number pipe, gathering.seat role = some (number, pipe) →
    host.pipes[number]? = some pipe
  apart : ∀ role number pipe pipe', gathering.seat role = some (number, pipe) →
    gathering.seat role.peer ≠ some (number, pipe')

variable {gathering : Gathering} {venue : Venue} {host : Host} {role : Role} {number : Nat}
  {pipe : Pipe}

section

variable (gathering : Gathering) (role : Role) (fifo : Fifo) (presence : Presence)
  (seat : Option (Nat × Pipe)) (taken : List UInt8)

@[simp]
theorem seat_change_self : (gathering.change role fifo presence seat taken).seat role = seat :=
  Function.update_self ..

@[simp]
theorem seat_change_peer :
    (gathering.change role fifo presence seat taken).seat role.peer = gathering.seat role.peer :=
  Function.update_of_ne (Role.peer_ne role) ..

@[simp]
theorem presence_change_self :
    (gathering.change role fifo presence seat taken).presence role = presence :=
  Function.update_self ..

end

theorem eq_or_eq_peer (role other : Role) : other = role ∨ other = role.peer := by
  cases role <;> cases other <;> simp [Role.peer]

namespace Held

/-- A party that stands to its end as before has not changed the FIFO. -/
theorem stays (held : gathering.Held venue host) {presence : Presence}
    (isPresence : gathering.presence role = presence) :
    venue.Hosts host.files gathering.fifo (Function.update gathering.presence role presence)
      gathering.taken := by
  rw [← isPresence, Function.update_eq_self]
  exact held.hosts

/-- A step of a transfer through an endpoint. -/
theorem advance (held : gathering.Held venue host)
    (here : gathering.seat role = some (number, pipe)) {files : FileSystem} {fifo : Fifo}
    {presence : Presence} {taken : List UInt8}
    (hosts : venue.Hosts files fifo (Function.update gathering.presence role presence) taken)
    (pipe' : Pipe) :
    (gathering.change role fifo presence (some (number, pipe')) taken).Held venue
      { host.withFiles files with pipes := host.pipes.set number pipe' } where
  hosts := hosts
  seated other number' other' sits := by
    have present := held.seated role number pipe here
    rcases eq_or_eq_peer role other with rfl | rfl
    · rw [seat_change_self] at sits
      cases sits
      simp [(List.getElem?_eq_some_iff.mp present).1]
    · rw [seat_change_peer] at sits
      have distinct : number ≠ number' := by
        rintro rfl
        exact held.apart role number pipe other' here sits
      rw [List.getElem?_set_ne distinct]
      exact held.seated role.peer number' other' sits
  apart other number' first second sits sits' := by
    rcases eq_or_eq_peer role other with rfl | rfl
    · rw [seat_change_self] at sits
      rw [seat_change_peer] at sits'
      cases sits
      exact held.apart other number pipe second here sits'
    · rw [seat_change_peer] at sits
      rw [Role.peer_peer, seat_change_self] at sits'
      cases sits'
      exact held.apart role number pipe first here sits

/-- A party opens an endpoint. -/
theorem join (held : gathering.Held venue host) (role : Role) (pipe : Pipe) :
    (gathering.change role gathering.fifo (gathering.presence role)
      (some (host.pipes.length, pipe)) gathering.taken).Held venue
      { host with pipes := host.pipes ++ [pipe] } where
  hosts := by
    rw [change, Function.update_eq_self]
    exact held.hosts
  seated other number' other' sits := by
    rcases eq_or_eq_peer role other with rfl | rfl
    · rw [seat_change_self] at sits
      cases sits
      exact List.getElem?_concat_length
    · rw [seat_change_peer] at sits
      have present := held.seated role.peer number' other' sits
      have inside := (List.getElem?_eq_some_iff.mp present).1
      rw [List.getElem?_append_left inside]
      exact present
  apart other number' first second sits sits' := by
    have inside : ∀ number pipe, gathering.seat role.peer = some (number, pipe) →
        number < host.pipes.length := fun number pipe sits =>
      (List.getElem?_eq_some_iff.mp (held.seated role.peer number pipe sits)).1
    rcases eq_or_eq_peer role other with rfl | rfl
    · rw [seat_change_self] at sits
      rw [seat_change_peer] at sits'
      cases sits
      exact Nat.lt_irrefl _ (inside _ _ sits')
    · rw [seat_change_peer] at sits
      rw [Role.peer_peer, seat_change_self] at sits'
      cases sits'
      exact Nat.lt_irrefl _ (inside _ _ sits)

/-- A party gives its endpoint up. -/
theorem leave (held : gathering.Held venue host) (here : gathering.seat role = some (number, pipe))
    {fifo : Fifo} {presence : Presence}
    (hosts : venue.Hosts (pipe.close host.files) fifo
      (Function.update gathering.presence role presence) gathering.taken) :
    (gathering.change role fifo presence none gathering.taken).Held venue
      (host.closePipe number) := by
  have closed : host.closePipe number =
      { host.withFiles (pipe.close host.files) with
        pipes := host.pipes.set number { pipe with file := none } } := by
    simp only [Host.closePipe, held.seated role number pipe here]
  rw [closed]
  have advanced := held.advance here hosts { pipe with file := none }
  refine ⟨hosts, fun other number' other' sits => ?_, fun other number' first second sits => ?_⟩
  · rcases eq_or_eq_peer role other with rfl | rfl
    · simp at sits
    · refine advanced.seated role.peer number' other' ?_
      rw [seat_change_peer] at sits ⊢
      exact sits
  · rcases eq_or_eq_peer role other with rfl | rfl
    · simp at sits
    · simp

end Held

end Gathering

/-! ## What a party does with its endpoint -/

/-- Where the FIFO is, an endpoint is prepared without any effect on the files. -/
theorem Venue.Hosts.prepare_eq {venue : Venue} {files : FileSystem} {fifo : Fifo}
    {presence : Role → Presence} {taken : List UInt8}
    (hosts : venue.Hosts files fifo presence taken) (role : Role) (mode : Nat) (flags : Int32) :
    Pipe.prepare files venue.path role mode flags =
      .ok (.closed venue.path role flags, files) := by
  simp [Pipe.prepare, hosts.leads, FileSystem.fifo?_eq_some_iff.mpr hosts.present]

theorem Transport.connect_pipe {host : Host} {config : Config} {role : Role} {pipe : Pipe}
    {files : FileSystem} (valid : config.checkFor role = .ok ())
    (isPipe : config.kind = .namedPipe)
    (prepared : Pipe.prepare host.files config.path role config.mode config.flags =
      .ok (pipe, files)) :
    connect host config role = (.ok ⟨config, role, .pipe host.pipes.length⟩,
      { host.withFiles files with pipes := host.pipes ++ [pipe] }) := by
  simp only [connect, valid, openBackend, isPipe, Host.preparePipe, prepared, Host.addPipe]
  rfl

namespace Party

variable {Answer : Type} {host : Host} {party : Party} {transport : Transport}
  {begin? : Transport → Option Call} {idle : Answer}
  {settle : TransportOutcome → Settled Answer} {resume : Answer → Program} {number : Nat}
  (opened : party.transport = some transport)

include opened

/-- A transfer through a pipe that has not ended goes on with its next step. -/
theorem pursue_pipe {pipe : Pipe} {call : PipeCall}
    (running : party.call = some (.pipe number call))
    (unfinished : ∀ outcome, call.phase ≠ .finished outcome)
    (present : host.pipes[number]? = some pipe) :
    party.pursue host begin? idle settle resume =
      (call.step ⟨host.files, pipe⟩).map fun (scene, call) =>
        ({ host.withFiles scene.files with pipes := host.pipes.set number scene.pipe },
          { party with call := some (.pipe number call) }) := by
  have goesOn : (Call.pipe number call).outcome? = none := by
    obtain ⟨request, phase⟩ := call
    cases phase with
    | finished outcome => exact absurd rfl (unfinished outcome)
    | _ => rfl
  simp only [pursue, running, opened, goesOn, Call.step, present, Option.bind_eq_bind,
    Option.bind_some]
  cases call.step ⟨host.files, pipe⟩ <;> rfl

theorem pursue_answer {request : PipeRequest} {outcome : PipeOutcome} {answer : Answer}
    (running : party.call = some (.pipe number ⟨request, .finished outcome⟩))
    (settled : settle (Outcome.pipe outcome).onTransport = .answer answer) :
    party.pursue host begin? idle settle resume = some (host, party.goOn (resume answer)) := by
  simp only [pursue, running, opened, Call.outcome?, settled]

theorem pursue_skip (needless : begin? transport = none) (isIdle : party.call = none) :
    party.pursue host begin? idle settle resume =
      some (host, party.goOn (resume idle)) := by
  simp only [pursue, isIdle, opened, needless]

end Party

end BoundedStream
