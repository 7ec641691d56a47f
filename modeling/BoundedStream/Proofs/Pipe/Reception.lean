import BoundedStream.Proofs.Pipe.Supply
import BoundedStream.Proofs.Program.Chunks
import BoundedStream.Proofs.Stream.Consumer

/-!
# The consumer at a pipe

A consumer writes the bytes that it takes out of a FIFO in order, and takes none that it does
not write unless writing fails.  It never takes more than its limit, and ends well only at
the limit or once the FIFO is dry.
-/

namespace BoundedStream

namespace Consumption

/-- The bytes and as many more as given stay within the limit of a consumer, if it has one. -/
def Room (limit : Option Nat) (bytes : List UInt8) (more : Nat) : Prop :=
  ∀ most, limit = some most → bytes.length + more ≤ most

/-- What a consumer at a pipe relies on: its call, what it has taken out of the FIFO, and what
it has written, of which a part may be held back. -/
inductive Receives (pipe : Pipe) (dry : Prop) (held : List UInt8) :
    Consumption → Option PipeCall → List UInt8 → List UInt8 → Prop
  | connecting (config : Config) (path : Option String) (limit : Option Nat) (size : Nat)
      (positive : 1 ≤ size) :
      Receives pipe dry held ⟨config, path, limit, size, .empty, .connecting⟩ none [] []
  | creatingOutput (config : Config) (path : Option String) (limit : Option Nat) (size : Nat)
      (positive : 1 ≤ size) :
      Receives pipe dry held ⟨config, path, limit, size, .empty, .creatingOutput⟩ none [] []
  | allocating (config : Config) (path : Option String) (limit : Option Nat) (size : Nat)
      (positive : 1 ≤ size) :
      Receives pipe dry held ⟨config, path, limit, size, .empty, .allocating⟩ none [] []
  | counting (config : Config) (path : Option String) (limit : Option Nat) (size want : Nat)
      (written : List UInt8) (positive : 1 ≤ size) (some : 1 ≤ want)
      (room : Room limit written want) :
      Receives pipe dry held
        ⟨config, path, limit, size, .update .empty written, .counting want⟩ none written
        written
  | receiving (config : Config) (path : Option String) (limit : Option Nat)
      (size length : Nat) (written bytes : List UInt8) (call : Option PipeCall)
      (positive : 1 ≤ size) (some : 1 ≤ length) (room : Room limit written length)
      (fetches : Fetches pipe length dry call bytes) :
      Receives pipe dry held
        ⟨config, path, limit, size, .update .empty written, .receiving length⟩ call
        (written ++ bytes) written
  | postponed (config : Config) (path : Option String) (limit : Option Nat) (size : Nat)
      (written : List UInt8) (positive : 1 ≤ size) (room : Room limit written 0) :
      Receives pipe dry held
        ⟨config, path, limit, size, .update .empty written, .postponed⟩ none written written
  | writing (config : Config) (path : Option String) (limit : Option Nat) (size : Nat)
      (written data : List UInt8) (positive : 1 ≤ size)
      (room : Room limit written data.length) :
      Receives pipe dry held
        ⟨config, path, limit, size, .update .empty written, .writing data⟩ none
        (written ++ data) written
  | flushing (config : Config) (path : Option String) (limit : Option Nat) (size : Nat)
      (written : List UInt8) (room : Room limit written 0)
      (ended : ReachesLimit limit written ∨ dry) :
      Receives pipe dry held
        ⟨config, path, limit, size, .update .empty written, .flushing⟩ none written written
  | done (consumption : Consumption) (result : Except RunError Report)
      (taken written : List UInt8)
      (ends : consumption.phase = .leaving result ∨ consumption.phase = .finished result)
      (room : Room consumption.limit taken 0) (short : written <+: taken)
      (complete : ∀ report, result = .ok report → held = [] ∧ written = taken ∧
        report.summary = .update .empty taken ∧
          (ReachesLimit consumption.limit taken ∨ dry)) :
      Receives pipe dry held consumption none taken written

variable {pipe : Pipe} {dry : Prop} {held taken written : List UInt8}
  {consumption : Consumption} {call : Option PipeCall}

theorem Room.less {limit : Option Nat} {bytes : List UInt8} {more less : Nat}
    (room : Room limit bytes more) (fewer : less ≤ more) : Room limit bytes less := by
  intro most isLimit
  have most_le := room most isLimit
  omega

theorem Room.append {limit : Option Nat} {bytes data : List UInt8} {more : Nat}
    (room : Room limit bytes more) (few : data.length ≤ more) :
    Room limit (bytes ++ data) 0 := by
  intro most isLimit
  have most_le := room most isLimit
  rw [List.length_append]
  omega

theorem room_nil (limit : Option Nat) : Room limit [] 0 := fun _ _ => Nat.zero_le _

/-- What a consumer relies on stays true when nothing is left in the FIFO any more. -/
theorem Receives.mono {dry' : Prop} {held' : List UInt8}
    (receives : Receives pipe dry held consumption call taken written)
    (ends : dry → dry') (shrinks : held = [] → held' = []) :
    Receives pipe dry' held' consumption call taken written := by
  cases receives with
  | connecting config path limit size positive =>
      exact .connecting config path limit size positive
  | creatingOutput config path limit size positive =>
      exact .creatingOutput config path limit size positive
  | allocating config path limit size positive =>
      exact .allocating config path limit size positive
  | counting config path limit size want written positive some room =>
      exact .counting config path limit size want taken positive some room
  | receiving config path limit size length written bytes call positive some room fetches =>
      exact .receiving config path limit size length written bytes call positive some room
        (fetches.mono ends)
  | postponed config path limit size written positive room =>
      exact .postponed config path limit size taken positive room
  | writing config path limit size written data positive room =>
      exact .writing config path limit size written data positive room
  | flushing config path limit size written room ended =>
      exact .flushing config path limit size taken room (ended.imp_right ends)
  | done consumption result taken written closing room short complete =>
      refine .done consumption result taken written closing room short fun report isOk => ?_
      obtain ⟨empty, whole, reports, ended⟩ := complete report isOk
      exact ⟨shrinks empty, whole, reports, ended.imp_right ends⟩

theorem Receives.short (receives : Receives pipe dry held consumption call taken written) :
    written <+: taken := by
  cases receives with
  | receiving config path limit size length written bytes call positive some room fetches =>
      exact List.prefix_append _ _
  | writing config path limit size written data positive room => exact List.prefix_append _ _
  | done consumption result taken written ends room short complete => exact short
  | _ => exact List.prefix_rfl

theorem Receives.room (receives : Receives pipe dry held consumption call taken written) :
    Room consumption.limit taken 0 := by
  cases receives with
  | connecting config path limit size positive => exact room_nil limit
  | creatingOutput config path limit size positive => exact room_nil limit
  | allocating config path limit size positive => exact room_nil limit
  | counting config path limit size want written positive some room =>
      exact room.less (Nat.zero_le want)
  | receiving config path limit size length written bytes call positive some room fetches =>
      exact room.append fetches.length_le
  | postponed config path limit size written positive room => exact room
  | writing config path limit size written data positive room =>
      exact room.append (Nat.le_refl _)
  | flushing config path limit size written room ended => exact room
  | done consumption result taken written ends room short complete => exact room

/-- What a consumer that ended well has done. -/
theorem Receives.complete (receives : Receives pipe dry held consumption call taken written)
    {report : Report} (ends : consumption.phase = .finished (.ok report)) :
    held = [] ∧ written = taken ∧ report.summary = .update .empty taken ∧
      (ReachesLimit consumption.limit taken ∨ dry) := by
  cases receives with
  | done consumption result taken written closing room short complete =>
      rcases closing with leaving | finished
      · rw [leaving] at ends
        cases ends
      · rw [finished] at ends
        cases ends
        exact complete report rfl
  | _ => cases ends

theorem receives_fail (consumption : Consumption) (error : RunError)
    (room : Room consumption.limit taken 0) (short : written <+: taken) :
    Receives pipe dry held (consumption.fail error) none taken written :=
  .done _ (.error error) taken written (.inl rfl) room short (by rintro report ⟨⟩)

theorem receives_refuse (consumption : Consumption) (error : RunError) :
    Receives pipe dry held (consumption.refuse error) none [] [] :=
  .done _ (.error error) [] [] (.inr rfl) (room_nil _) List.prefix_rfl (by rintro report ⟨⟩)

/-- A round that begins ends the stream at the limit, and else wants some bytes. -/
theorem receives_begin (config : Config) (path : Option String) (limit : Option Nat)
    {size : Nat} (phase : ConsumePhase) (positive : 1 ≤ size) (room : Room limit written 0) :
    Receives pipe dry held
      (⟨config, path, limit, size, .update .empty written, phase⟩ : Consumption).begin none
      written written := by
  cases limit with
  | none =>
      exact .counting config path none size size written positive positive (by rintro most ⟨⟩)
  | some most =>
      have total : (Summary.update .empty written).bytes = written.length := Nat.zero_add _
      have fits := room most rfl
      simp only [begin, want?, total]
      by_cases reached : most ≤ written.length
      · rw [if_pos reached]
        exact .flushing config path (some most) size written room (.inl ⟨most, rfl, reached⟩)
      · rw [if_neg reached]
        refine .counting config path (some most) size _ written positive (by omega) ?_
        rintro other ⟨⟩
        omega

/-- A consumer that has ended, or is about to, only gives up its endpoint. -/
theorem request_of_ends {result : Except RunError Report} {request : ProgramRequest}
    {resume : ProgramReply request → Consumption}
    (ends : consumption.phase = .leaving result ∨ consumption.phase = .finished result)
    (asks : consumption.turn = .ask request resume) : request = .disconnect := by
  rcases ends with leaving | finished
  · simp only [turn, leaving] at asks
    cases asks
    rfl
  · simp [turn, finished] at asks

theorem Receives.reply (receives : Receives pipe dry held consumption call taken written)
    {request : ProgramRequest} {resume : ProgramReply request → Consumption}
    {reply : ProgramReply request} (asks : consumption.turn = .ask request resume)
    (replies : request.Replies reply) :
    Receives pipe dry held (resume reply) call taken written := by
  cases receives with
  | connecting config path limit size positive =>
      cases asks
      cases replies with
      | refuse config role error => exact receives_refuse _ _
      | connect config role => exact .creatingOutput config path limit size positive
  | creatingOutput config path limit size positive =>
      cases asks
      rcases reply with error | _
      · exact receives_fail _ _ (room_nil limit) List.prefix_rfl
      · exact .allocating config path limit size positive
  | allocating config path limit size positive =>
      cases asks
      exact receives_begin config path limit .allocating positive (room_nil limit)
  | postponed config path limit size written positive room =>
      cases asks
      exact receives_begin config path limit .postponed positive room
  | flushing config path limit size written room ended =>
      cases asks
      cases replies with
      | failFlush error => exact receives_fail _ _ room List.prefix_rfl
  | done consumption result taken written ends room short complete =>
      cases request_of_ends ends asks
      cases replies
  | _ =>
      cases asks
      cases replies

/-- The consumer is told what became of its call. -/
theorem receives_answered (config : Config) (path : Option String) (limit : Option Nat)
    {size length : Nat} {bytes : List UInt8} {request : PipeRequest} {outcome : PipeOutcome}
    (positive : 1 ≤ size) (nonzero : 1 ≤ length) (room : Room limit written length)
    (fetches : Fetches pipe length dry (some ⟨request, .finished outcome⟩) bytes)
    {reply : Except StreamError (Chunk length)}
    (settled : Party.settleReceive length (Outcome.pipe outcome).onTransport = .answer reply) :
    Receives pipe dry held
      ((⟨config, path, limit, size, .update .empty written, .receiving length⟩ :
        Consumption).received reply)
      none (written ++ bytes) written := by
  have roomNow : Room limit written 0 := room.less (Nat.zero_le length)
  cases fetches with
  | outside phase outside unfinished => exact absurd rfl (unfinished outcome)
  | failed error =>
      cases settled
      rw [List.append_nil]
      simp only [received]
      split
      · exact receives_begin config path limit (.receiving length) positive roomNow
      · split
        · exact .postponed config path limit size written positive roomNow
        · exact receives_fail _ _ roomNow List.prefix_rfl
  | consumed bytes few last =>
      cases settled
      cases bytes with
      | nil =>
          have ended : dry := (last rfl).resolve_left (Nat.ne_of_gt nonzero)
          have nothing : Chunk.ofList length [] = ⟨[], Nat.zero_le length⟩ :=
            Subtype.ext List.take_nil
          rw [List.append_nil, nothing]
          exact .flushing config path limit size written roomNow (.inr ended)
      | cons byte bytes =>
          rw [received_ofList _ (by simp) few]
          exact .writing config path limit size written (byte :: bytes) positive
            (room.less few)

theorem Receives.receive {bound number : Nat} {transport : Transport}
    {consumer later : Piping Consumption} {channel channel' : Channel}
    (receives : Receives consumer.pipe channel.Dry held consumer.program consumer.call
      channel.taken written)
    (endpoint : transport.backend = .pipe number) {length : Nat}
    {resume : ProgramReply (.receive length) → Consumption}
    (asks : consumer.program.turn = .ask (.receive length) resume)
    (pursues : consumer.Pursues bound transport number
      (fun transport => transport.consumeCall? length) (.ok (.ofList length []))
      (Party.settleReceive length) resume later channel channel') :
    Receives later.pipe channel'.Dry held later.program later.call channel'.taken written ∧
      channel'.accepted = channel.accepted ∧ channel'.closed = channel.closed := by
  obtain ⟨program, pipe, call⟩ := consumer
  generalize isTaken : channel.taken = taken at receives
  cases receives with
  | receiving config path limit size length written bytes call positive some room fetches =>
      cases asks
      have begins : transport.consumeCall? length =
          .some (.pipe number (.start (.consume length))) := by
        simp [Transport.consumeCall?, Nat.ne_of_gt some, endpoint]
      rcases pursues.fetches begins fetches with ⟨more, queue, taken, closed, same, fetches'⟩ |
        ⟨request, outcome, answer, running, settled, rfl, rfl⟩
      · refine ⟨?_, by simp [Channel.accepted, queue, taken], closed⟩
        rw [same, taken, isTaken, List.append_assoc]
        exact .receiving config path limit size length written (bytes ++ more) _ positive some
          room fetches'
      · refine ⟨?_, rfl, rfl⟩
        rw [isTaken]
        cases running
        exact receives_answered config path limit positive some room fetches settled
  | done consumption result taken written ends room short complete =>
      cases request_of_ends ends asks
  | _ => cases asks

/-- What was received is written, or a part of it when writing fails. -/
theorem Receives.write (receives : Receives pipe dry held consumption call taken written)
    {data : List UInt8} {resume : ProgramReply (.writeOutput data) → Consumption}
    {held' : List UInt8} (asks : consumption.turn = .ask (.writeOutput data) resume) :
    Receives pipe dry held' (resume (.ok ())) call taken (written ++ data) ∧
      ∀ error part, part <+: data →
        Receives pipe dry held' (resume (.error error)) call taken (written ++ part) := by
  cases receives with
  | writing config path limit size written data positive room =>
      cases asks
      have roomNow : Room limit (written ++ data) 0 := room.append (Nat.le_refl _)
      refine ⟨?_, fun error part starts => ?_⟩
      · have begun : Receives pipe dry held' _ none (written ++ data) (written ++ data) :=
          receives_begin config path limit (.writing data) positive roomNow
        rwa [Summary.update_append] at begun
      · exact receives_fail _ _ roomNow ((List.prefix_append_right_inj written).mpr starts)
  | done consumption result taken written ends room short complete =>
      cases request_of_ends ends asks
  | _ => cases asks

theorem Receives.flush (receives : Receives pipe dry [] consumption call taken written)
    {resume : ProgramReply .flushOutput → Consumption}
    (asks : consumption.turn = .ask .flushOutput resume) :
    Receives pipe dry [] (resume (.ok ())) call taken written := by
  cases receives with
  | flushing config path limit size written room ended =>
      cases asks
      refine .done _ (.ok _) _ _ (.inl rfl) room List.prefix_rfl ?_
      rintro report ⟨⟩
      exact ⟨rfl, rfl, rfl, ended⟩
  | done consumption result taken written ends room short complete =>
      cases request_of_ends ends asks
  | _ => cases asks

theorem Receives.quit (receives : Receives pipe dry held consumption call taken written)
    {resume : ProgramReply .disconnect → Consumption} {pipe' : Pipe}
    (asks : consumption.turn = .ask .disconnect resume) :
    Receives pipe' dry held (resume ()) call taken written := by
  cases receives with
  | done consumption result taken written ends room short complete =>
      rcases ends with leaving | finished
      · simp only [turn, leaving] at asks
        cases asks
        exact .done _ result taken written (.inr rfl) room short complete
      · simp [turn, finished] at asks
  | _ => cases asks

/-- A pipe has no count of its bytes, so the consumer asks for all that it wants. -/
theorem Receives.count {bound number : Nat} {transport : Transport}
    {consumer later : Piping Consumption} {channel channel' : Channel}
    (receives : Receives consumer.pipe dry held consumer.program consumer.call taken written)
    (endpoint : transport.backend = .pipe number)
    {resume : ProgramReply .countPending → Consumption}
    (asks : consumer.program.turn = .ask .countPending resume)
    (pursues : consumer.Pursues bound transport number Transport.pendingCall? (.ok none)
      Party.settlePending resume later channel channel') :
    Receives later.pipe dry held later.program later.call taken written ∧
      channel' = channel := by
  obtain ⟨program, pipe, call⟩ := consumer
  cases receives with
  | counting config path limit size want written positive some room =>
      cases asks
      obtain ⟨rfl, rfl⟩ := pursues.skipped rfl (by simp [Transport.pendingCall?, endpoint])
      have receiving : Receives pipe dry held _ none (taken ++ []) taken :=
        .receiving config path limit size want taken [] none positive some room .idle
      rw [List.append_nil] at receiving
      exact ⟨receiving, rfl⟩
  | done consumption result taken written ends room short complete =>
      cases request_of_ends ends asks
  | _ => cases asks

end Consumption

end BoundedStream
