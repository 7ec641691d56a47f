import BoundedStream.Proofs.Host.Opening
import BoundedStream.Proofs.Party.Pursuit
import BoundedStream.Proofs.Program.Chunks

/-!
# Replies without a transfer

A party answers most requests of its program at once.  Whatever the answer is, it leaves
every ring of the host as it is and no transfer in progress.  An endpoint is there from the
answer to the request for it until it is given up.  Without a transfer a party only crashes in
front of a region whose ring would end at no address, and for want of a buffer.
-/

namespace BoundedStream

theorem Host.keepsRings_withFiles (host : Host) (files : FileSystem) :
    host.KeepsRings (host.withFiles files) :=
  keepsRings_of_memory rfl RegionTable.keepsRings_refl

namespace Party

variable {host host' : Host} {party party' : Party}

/-! ## Files -/

/-- A party has worked on its files: the rings, its endpoint and its health are as they were. -/
structure Works (host : Host) (party : Party) (host' : Host) (party' : Party) : Prop where
  keeps : host.KeepsRings host'
  transport_eq : party'.transport = party.transport
  crash_eq : party'.crash = party.crash

theorem works_refl (host : Host) (party : Party) : Works host party host party :=
  ⟨Host.keepsRings_refl, rfl, rfl⟩

theorem works_openInput (host : Host) (party : Party) (path : Option String) :
    Works host party host (party.openInput host path).2 := by
  cases path with
  | none => exact works_refl host party
  | some path =>
      simp only [openInput]
      cases host.files.resolve true path with
      | error error => exact works_refl host party
      | ok inode => exact ⟨Host.keepsRings_refl, rfl, rfl⟩

theorem works_of_readInput {length : Nat} {reply : Except SystemError (Chunk length)}
    (isRead : party.readInput host length = some (reply, host', party')) :
    Works host party host' party' := by
  simp only [readInput] at isRead
  split at isRead
  · cases isRead
    exact ⟨Host.keepsRings_refl, rfl, rfl⟩
  · split at isRead <;> cases isRead
    · exact works_refl host party
    · exact ⟨host.keepsRings_withFiles _, rfl, rfl⟩

theorem works_createOutput (host : Host) (party : Party) (path : Option String) :
    Works host party (party.createOutput host path).2.1 (party.createOutput host path).2.2 := by
  cases path with
  | none => exact works_refl host party
  | some path =>
      simp only [createOutput]
      cases host.files.createFile path with
      | error error => exact works_refl host party
      | ok made => exact ⟨host.keepsRings_withFiles _, rfl, rfl⟩

theorem works_of_writeOutput {data : List UInt8} {reply : Except SystemError Unit}
    (isWritten : party.writeOutput host data = some (reply, host', party')) :
    Works host party host' party' := by
  simp only [writeOutput] at isWritten
  split at isWritten
  · cases isWritten
    exact ⟨Host.keepsRings_refl, rfl, rfl⟩
  · split at isWritten <;> cases isWritten
    · exact works_refl host party
    · exact ⟨host.keepsRings_withFiles _, rfl, rfl⟩

/-! ## Endpoints -/

theorem keepsRings_disconnect (host : Host) (party : Party) :
    host.KeepsRings (party.disconnect host).1 := by
  unfold disconnect
  split
  · exact Host.keepsRings_refl
  · rename_i transport opened
    exact Host.keepsRings_close (.transport transport)

theorem transport_disconnect (host : Host) (party : Party) :
    (party.disconnect host).2.transport = none := by
  unfold disconnect
  split
  · rename_i absent
    exact absent
  · rfl

@[simp]
theorem program_disconnect (host : Host) (party : Party) :
    (party.disconnect host).2.program = party.program := by
  unfold disconnect
  split <;> rfl

@[simp]
theorem crash_disconnect (host : Host) (party : Party) :
    (party.disconnect host).2.crash = party.crash := by
  unfold disconnect
  split <;> rfl

/-- What a party crashes with when its program asks for an endpoint or a buffer. -/
inductive Wrecks : ProgramRequest → String → Prop
  | endpoint (config : Config) : Wrecks (.connect config .consumer) Region.overflow
  | buffer (length : Nat) (great : GuardedRing.greatestSize < length) :
      Wrecks (.allocate length) unallocatable

/-- A party has not crashed, unless its program asks for an endpoint or a buffer. -/
def Sturdy (party : Party) : Prop :=
  ∀ text, party.crash = some text → ∃ request,
    party.program.turn.request? = some request ∧ Wrecks request text

theorem sturdy_of_alive (alive : party.crash = none) : party.Sturdy := by
  intro text crashed
  rw [alive] at crashed
  cases crashed

theorem Sturdy.alive {request : ProgramRequest} (sturdy : party.Sturdy)
    (asks : party.program.turn.request? = some request)
    (safe : ∀ text, ¬ Wrecks request text) : party.crash = none := by
  cases crashed : party.crash with
  | none => rfl
  | some text =>
      obtain ⟨request', asks', wrecks⟩ := sturdy text crashed
      cases asks.symm.trans asks'
      exact absurd wrecks (safe text)

/-- A party crashes while it answers its program: an endpoint could not be opened, or there is
no buffer of the length.  In the second case the endpoint is given up. -/
inductive Collapses (host : Host) (party : Party) : ProgramRequest → Host → Party → Prop
  | connect (config : Config) (role : Role) (text : String) (host' : Host)
      (crashed : Transport.connect host config role = (.error (.crash text), host')) :
      Collapses host party (.connect config role) host'
        { party with call := none, crash := some text }
  | allocate (length : Nat) (great : GuardedRing.greatestSize < length) :
      Collapses host party (.allocate length) (party.disconnect host).1
        { (party.disconnect host).2 with call := none, crash := some unallocatable }

namespace Collapses

variable {request : ProgramRequest} (collapses : party.Collapses host request host' party')

include collapses

theorem keeps : host.KeepsRings host' := by
  cases collapses with
  | connect config role text host' crashed =>
      have keeps : host.KeepsRings (Transport.connect host config role).2 :=
        Host.keepsRings_connect config role
      rwa [crashed] at keeps
  | allocate length great => exact keepsRings_disconnect host party

theorem program_eq : party'.program = party.program := by
  cases collapses with
  | connect config role text host' crashed => rfl
  | allocate length great => exact program_disconnect host party

theorem call_eq : party'.call = none := by
  cases collapses <;> rfl

theorem crash_ne : party'.crash ≠ none := by
  cases collapses <;> simp

theorem sturdy {resume : ProgramReply request → Program}
    (asks : party.program.turn = .ask request resume) : party'.Sturdy := by
  have asks' : party'.program.turn.request? = some request := by
    rw [collapses.program_eq, asks]
    rfl
  cases collapses with
  | connect config role text host' crashed =>
      rintro _ ⟨⟩
      cases Transport.stumbles_of_connect crashed with
      | overflow => exact ⟨_, asks', .endpoint config⟩
  | allocate length great =>
      rintro _ ⟨⟩
      exact ⟨_, asks', .buffer length great⟩

end Collapses

/-- A program that asks for an endpoint is told of an error, or gets the endpoint and is told
its capacity, or its party crashes. -/
theorem opened_of_connect {config : Config} {role : Role}
    {resume : ProgramReply (.connect config role) → Program}
    (served : party.serve host (.connect config role) resume = some (host', party')) :
    host.KeepsRings host' ∧
      ((∃ error, party' = party.goOn (resume (.error error))) ∨
        (∃ transport, party' = { party with transport := some transport }.goOn
          (resume (.ok (transport.capacity? host')))) ∨
        party.Collapses host (.connect config role) host' party') := by
  have keeps : host.KeepsRings (Transport.connect host config role).2 :=
    Host.keepsRings_connect config role
  simp only [serve, connect] at served
  rcases connected : Transport.connect host config role with ⟨(error | text) | transport, later⟩ <;>
    simp only [connected, proceed, Option.some.injEq, Prod.mk.injEq] at served keeps <;>
    obtain ⟨rfl, rfl⟩ := served
  · exact ⟨keeps, .inl ⟨error, rfl⟩⟩
  · exact ⟨keeps, .inr (.inr (.connect config role text later connected))⟩
  · exact ⟨keeps, .inr (.inl ⟨transport, rfl⟩)⟩

/-- A program that asks for a buffer gets it unless it is greater than any object. -/
theorem served_of_allocate {length : Nat} {resume : ProgramReply (.allocate length) → Program}
    (served : party.serve host (.allocate length) resume = some (host', party')) :
    length ≤ GuardedRing.greatestSize ∧ host' = host ∧ party' = party.goOn (resume ()) ∨
      party.Collapses host (.allocate length) host' party' := by
  simp only [serve, allocate] at served
  by_cases moderate : length ≤ GuardedRing.greatestSize
  · rw [if_pos moderate] at served
    cases served
    exact .inl ⟨moderate, rfl, rfl⟩
  · rw [if_neg moderate] at served
    cases served
    exact .inr (.allocate length (Nat.lt_of_not_le moderate))

/-! ## Replies -/

/-- A party has answered its program at once. -/
structure Replied {request : ProgramRequest} (host : Host) (party : Party)
    (resume : ProgramReply request → Program) (host' : Host) (party' : Party) : Prop where
  program : ∃ reply, party'.program = resume reply
  idle : party'.call = none
  crash_eq : party'.crash = party.crash
  keeps : host.KeepsRings host'
  transport_eq : (∀ config role, request ≠ .connect config role) → request ≠ .disconnect →
    party'.transport = party.transport

private theorem Works.replied {request : ProgramRequest} {worker : Party}
    (works : Works host party host' worker) (resume : ProgramReply request → Program)
    (reply : ProgramReply request) :
    Replied host party resume host' (worker.goOn (resume reply)) :=
  ⟨⟨reply, rfl⟩, rfl, works.crash_eq, works.keeps, fun _ _ => works.transport_eq⟩

theorem replied_of_serve {request : ProgramRequest}
    {resume : ProgramReply request → Program} (quick : request.isTransfer = false)
    (served : party.serve host request resume = some (host', party')) :
    Replied host party resume host' party' ∨ party.Collapses host request host' party' := by
  cases request with
  | send data => cases quick
  | receive length => cases quick
  | countPending => cases quick
  | openInput path =>
      cases served
      exact .inl ((works_openInput host party path).replied resume _)
  | readInput length =>
      simp only [serve, Option.map_eq_some_iff, Prod.exists] at served
      obtain ⟨reply, later, reader, isRead, done⟩ := served
      cases done
      exact .inl ((works_of_readInput isRead).replied resume reply)
  | connect config role =>
      obtain ⟨keeps, ⟨error, rfl⟩ | ⟨transport, rfl⟩ | collapses⟩ := opened_of_connect served
      · exact .inl ⟨⟨_, rfl⟩, rfl, rfl, keeps, fun _ _ => rfl⟩
      · exact .inl ⟨⟨_, rfl⟩, rfl, rfl, keeps,
          fun other _ => absurd rfl (other config role)⟩
      · exact .inr collapses
  | allocate length =>
      obtain ⟨-, rfl, rfl⟩ | collapses := served_of_allocate served
      · exact .inl ((works_refl host' party).replied resume ())
      · exact .inr collapses
  | createOutput path =>
      cases served
      exact .inl ((works_createOutput host party path).replied resume _)
  | writeOutput data =>
      simp only [serve, Option.map_eq_some_iff, Prod.exists] at served
      obtain ⟨reply, later, writer, isWritten, done⟩ := served
      cases done
      exact .inl ((works_of_writeOutput isWritten).replied resume reply)
  | disconnect =>
      cases served
      exact .inl ⟨⟨(), rfl⟩, rfl, crash_disconnect host party,
        keepsRings_disconnect host party, fun _ other => absurd rfl other⟩
  | countReferences =>
      cases served
      exact .inl ((works_refl host party).replied resume _)
  | flushOutput =>
      cases served
      exact .inl ((works_refl host party).replied resume _)
  | pause =>
      cases served
      exact .inl ((works_refl host party).replied resume _)

end Party

end BoundedStream
