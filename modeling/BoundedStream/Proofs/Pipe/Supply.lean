import BoundedStream.Proofs.Pipe.Transfer

/-!
# The producer at a pipe

What a FIFO has accepted from a producer is a part of its input from the start, in order,
however its writes are split, refused or interrupted.  A producer that ends well has offered
all of its input, and reports that.
-/

namespace BoundedStream

/-- The answers of the system that neither move bytes nor show their end.  A buffer greater
than any object is never had. -/
inductive ProgramRequest.Replies : (request : ProgramRequest) → ProgramReply request → Prop
  | openInput (path : Option String) (reply : ProgramReply (.openInput path)) :
      Replies (.openInput path) reply
  | failRead (length : Nat) (error : SystemError) :
      Replies (.readInput length) (.error error)
  | refuse (config : Config) (role : Role) (error : StreamError) :
      Replies (.connect config role) (.error error)
  | connect (config : Config) (role : Role) : Replies (.connect config role) (.ok none)
  | allocate (length : Nat) (moderate : length ≤ GuardedRing.greatestSize) :
      Replies (.allocate length) ()
  | createOutput (path : Option String) (reply : ProgramReply (.createOutput path)) :
      Replies (.createOutput path) reply
  | failFlush (error : SystemError) : Replies .flushOutput (.error error)
  | countReferences : Replies .countReferences none
  | pause : Replies .pause ()

namespace Production

/-- What a producer at a pipe relies on: its call, the input that it has not read, and what
the FIFO has accepted. -/
inductive Supplies (source : List UInt8) (pipe : Pipe) :
    Production → Option PipeCall → List UInt8 → List UInt8 → Prop
  | openingInput (config : Config) (path : Option String) (size : Nat) (positive : 1 ≤ size) :
      Supplies source pipe ⟨config, path, size, .empty, .openingInput⟩ none source []
  | connecting (config : Config) (path : Option String) (size : Nat) (positive : 1 ≤ size) :
      Supplies source pipe ⟨config, path, size, .empty, .connecting⟩ none source []
  | allocating (config : Config) (path : Option String) (size chunk : Nat)
      (positive : 1 ≤ chunk) :
      Supplies source pipe ⟨config, path, size, .empty, .allocating chunk⟩ none source []
  | reading (config : Config) (path : Option String) (size chunk : Nat)
      (sent input : List UInt8) (positive : 1 ≤ chunk) (whole : source = sent ++ input) :
      Supplies source pipe ⟨config, path, size, .update .empty sent, .reading chunk⟩ none input
        sent
  | sending (config : Config) (path : Option String) (size chunk : Nat)
      (sent before rest part input : List UInt8) (call : Option PipeCall)
      (positive : 1 ≤ chunk) (nonempty : rest ≠ [])
      (whole : source = sent ++ (before ++ rest) ++ input)
      (offers : Offers pipe rest call part) :
      Supplies source pipe
        ⟨config, path, size, .update .empty sent, .sending chunk (before ++ rest) rest⟩ call
        input (sent ++ before ++ part)
  | delaying (config : Config) (path : Option String) (size chunk : Nat)
      (sent before rest input : List UInt8) (positive : 1 ≤ chunk) (nonempty : rest ≠ [])
      (whole : source = sent ++ (before ++ rest) ++ input) :
      Supplies source pipe
        ⟨config, path, size, .update .empty sent, .delaying chunk (before ++ rest) rest⟩ none
        input (sent ++ before)
  | draining (config : Config) (path : Option String) (size : Nat) (seen : Bool) :
      Supplies source pipe ⟨config, path, size, .update .empty source, .draining seen⟩ none []
        source
  | done (production : Production) (result : Except RunError Report)
      (input accepted : List UInt8)
      (ends : production.phase = .leaving result ∨ production.phase = .finished result)
      (short : accepted <+: source)
      (complete : ∀ report, result = .ok report →
        accepted = source ∧ report.summary = .update .empty source) :
      Supplies source pipe production none input accepted

variable {source input accepted : List UInt8} {pipe : Pipe} {production : Production}
  {call : Option PipeCall}

/-- A producer that fails has offered no more than its input. -/
theorem supplies_fail (production : Production) (error : RunError) (input : List UInt8)
    (short : accepted <+: source) :
    Supplies source pipe (production.fail error) none input accepted :=
  .done _ (.error error) input accepted (.inl rfl) short (by rintro report ⟨⟩)

theorem supplies_refuse (production : Production) (error : RunError) (input : List UInt8)
    (short : accepted <+: source) :
    Supplies source pipe (production.refuse error) none input accepted :=
  .done _ (.error error) input accepted (.inr rfl) short (by rintro report ⟨⟩)

/-- A producer that has ended, or is about to, only gives up its endpoint. -/
theorem request_of_ends {result : Except RunError Report} {request : ProgramRequest}
    {resume : ProgramReply request → Production}
    (ends : production.phase = .leaving result ∨ production.phase = .finished result)
    (asks : production.turn = .ask request resume) : request = .disconnect := by
  rcases ends with leaving | finished
  · simp only [turn, leaving] at asks
    cases asks
    rfl
  · simp [turn, finished] at asks

theorem Supplies.short (supplies : Supplies source pipe production call input accepted) :
    accepted <+: source := by
  cases supplies with
  | openingInput config path size positive => exact List.nil_prefix
  | connecting config path size positive => exact List.nil_prefix
  | allocating config path size chunk positive => exact List.nil_prefix
  | reading config path size chunk sent input positive whole => exact ⟨input, whole.symm⟩
  | sending config path size chunk sent before rest part input call positive nonempty whole
      offers =>
      obtain ⟨left, isRest⟩ := offers.part_prefix
      refine ⟨left ++ input, ?_⟩
      rw [whole, ← isRest]
      simp
  | delaying config path size chunk sent before rest input positive nonempty whole =>
      refine ⟨rest ++ input, ?_⟩
      rw [whole]
      simp
  | draining config path size seen => exact List.prefix_rfl
  | done production result input accepted ends short complete => exact short

/-- What a producer that ended well reports. -/
theorem Supplies.complete (supplies : Supplies source pipe production call input accepted)
    {report : Report} (ends : production.phase = .finished (.ok report)) :
    accepted = source ∧ report.summary = .update .empty source := by
  cases supplies with
  | done production result input accepted closing short complete =>
      rcases closing with leaving | finished
      · rw [leaving] at ends
        cases ends
      · rw [finished] at ends
        cases ends
        exact complete report rfl
  | _ => cases ends

theorem Supplies.reply (supplies : Supplies source pipe production call input accepted)
    {request : ProgramRequest} {resume : ProgramReply request → Production}
    {reply : ProgramReply request} (asks : production.turn = .ask request resume)
    (replies : request.Replies reply) :
    Supplies source pipe (resume reply) call input accepted := by
  cases supplies with
  | openingInput config path size positive =>
      cases asks
      rcases reply with error | _
      · exact supplies_refuse _ _ _ List.nil_prefix
      · exact .connecting config path size positive
  | connecting config path size positive =>
      cases asks
      cases replies with
      | refuse config role error => exact supplies_refuse _ _ _ List.nil_prefix
      | connect config role => exact .allocating config path size size positive
  | allocating config path size chunk positive =>
      cases asks
      exact .reading config path size chunk [] source positive rfl
  | reading config path size chunk sent input positive whole =>
      cases asks
      cases replies with
      | failRead length error =>
          simp only [inputRead]
          split
          · exact .reading config path size chunk accepted input positive whole
          · exact supplies_fail _ _ _ ⟨input, whole.symm⟩
  | sending config path size chunk sent before rest part input call positive nonempty whole
      offers =>
      cases asks
      cases replies
  | delaying config path size chunk sent before rest input positive nonempty whole =>
      cases asks
      have sending : Supplies source pipe _ none input (sent ++ before ++ []) :=
        .sending config path size chunk sent before rest [] input none positive nonempty whole
          .idle
      rwa [List.append_nil] at sending
  | draining config path size seen =>
      cases asks
      cases replies
  | done production result input accepted ends short complete =>
      cases request_of_ends ends asks
      cases replies

theorem Supplies.read (supplies : Supplies source pipe production call input accepted)
    {length : Nat} {resume : ProgramReply (.readInput length) → Production}
    (asks : production.turn = .ask (.readInput length) resume) {data : Chunk length}
    {rest : List UInt8} (whole : input = data.val ++ rest)
    (last : data.val = [] → length = 0 ∨ rest = []) :
    Supplies source pipe (resume (.ok data)) call rest accepted := by
  cases supplies with
  | reading config path size chunk sent input positive isSource =>
      cases asks
      obtain ⟨_ | ⟨byte, data⟩, few⟩ := data
      · obtain rfl : rest = [] := (last rfl).resolve_left (Nat.ne_of_gt positive)
        obtain rfl : input = [] := whole
        obtain rfl : source = accepted := isSource.trans (List.append_nil accepted)
        exact .draining config path size _
      · have sending : Supplies source pipe _ none rest (accepted ++ [] ++ []) :=
          .sending config path size length accepted [] (byte :: data) [] rest none positive
            (by simp) (by rw [isSource, whole]; simp) .idle
        simpa [inputRead, deliver, goTo] using sending
  | done production result input accepted ends short complete =>
      cases request_of_ends ends asks
  | _ => cases asks

/-- The producer is told what became of its offer: it offers again what was not accepted. -/
theorem supplies_answered (config : Config) (path : Option String) {size chunk : Nat}
    {sent before rest part input : List UInt8} {outcome : PipeOutcome}
    {request : PipeRequest} (positive : 1 ≤ chunk)
    (whole : source = sent ++ (before ++ rest) ++ input) (nonempty : rest ≠ [])
    (offers : Offers pipe rest (some ⟨request, .finished outcome⟩) part)
    {reply : Except StreamError (Fin (rest.length + 1))}
    (settled : Party.settleSend rest (Outcome.pipe outcome).onTransport = .answer reply) :
    Supplies source pipe
      ((⟨config, path, size, .update .empty sent, .sending chunk (before ++ rest) rest⟩ :
        Production).deliver chunk (before ++ rest) (.answered rest reply))
      none input (sent ++ before ++ part) := by
  cases offers with
  | outside phase outside unfinished => exact absurd rfl (unfinished outcome)
  | failed error =>
      cases settled
      have sending : Supplies source pipe _ none input (sent ++ before ++ []) :=
        .sending config path size chunk sent before rest [] input none positive nonempty whole
          .idle
      simp only [Delivery.answered]
      split
      · exact sending
      · split
        · rw [List.append_nil]
          exact .delaying config path size chunk sent before rest input positive nonempty whole
        · exact supplies_fail _ _ _ sending.short
  | produced part left isRest =>
      cases settled
      subst isRest
      have count : (Fin.ofNat ((part ++ left).length + 1) part.length).val = part.length :=
        Nat.mod_eq_of_lt (by rw [List.length_append]; omega)
      simp only [Delivery.answered, count]
      split
      · -- A FIFO that accepts nothing without an error ends the producer.
        refine supplies_fail _ _ _ ⟨left ++ input, ?_⟩
        rw [whole]
        simp
      · -- Only what was not accepted is offered again.
        rw [List.drop_left]
        cases left with
        | nil =>
            have delivered : Production.deliver
                ⟨config, path, size, .update .empty sent,
                  .sending chunk (before ++ (part ++ [])) (part ++ [])⟩
                chunk (before ++ (part ++ [])) (.start []) =
                ⟨config, path, size, .update .empty (sent ++ before ++ part),
                  .reading chunk⟩ := by
              simp [deliver]
            rw [delivered]
            exact .reading config path size chunk _ input positive (by rw [whole]; simp)
        | cons byte left =>
            have sending :
                Supplies source pipe _ none input (sent ++ (before ++ part) ++ []) :=
              .sending config path size chunk sent (before ++ part) (byte :: left) [] input none
                positive (by simp) (by rw [whole]; simp) .idle
            simpa [deliver, goTo] using sending

theorem Supplies.send {bound number : Nat} {transport : Transport}
    {producer later : Piping Production} {channel channel' : Channel}
    (supplies : Supplies source producer.pipe producer.program producer.call input
      channel.accepted)
    (endpoint : transport.backend = .pipe number) {data : List UInt8}
    {resume : ProgramReply (.send data) → Production}
    (asks : producer.program.turn = .ask (.send data) resume)
    (pursues : producer.Pursues bound transport number
      (fun transport => transport.produceCall? data) (.ok 0) (Party.settleSend data) resume
      later channel channel') :
    Supplies source later.pipe later.program later.call input channel'.accepted ∧
      ∃ more, channel' = channel.accept more := by
  obtain ⟨program, pipe, call⟩ := producer
  generalize isAccepted : channel.accepted = accepted at supplies
  cases supplies with
  | sending config path size chunk sent before rest part input call positive nonempty whole
      offers =>
      cases asks
      have begins : transport.produceCall? data =
          some (.pipe number (.start (.produce data))) := by
        simp [Transport.produceCall?, nonempty, endpoint]
      rcases pursues.offers begins offers with ⟨more, rfl, same, offers'⟩ |
        ⟨request, outcome, answer, running, settled, rfl, rfl⟩
      · refine ⟨?_, more, rfl⟩
        rw [same, Channel.accepted_accept, isAccepted, List.append_assoc]
        exact .sending config path size chunk sent before data (part ++ more) input _ positive
          nonempty whole offers'
      · refine ⟨?_, [], by simp⟩
        rw [isAccepted]
        cases running
        exact supplies_answered config path positive whole nonempty offers settled
  | done production result input accepted ends short complete =>
      cases request_of_ends ends asks
  | _ => cases asks

/-- A pipe has no count of its bytes, so the producer does not wait for them to be taken. -/
theorem Supplies.count {bound number : Nat} {transport : Transport}
    {producer later : Piping Production} {channel channel' : Channel}
    (supplies : Supplies source producer.pipe producer.program producer.call input accepted)
    (endpoint : transport.backend = .pipe number)
    {resume : ProgramReply .countPending → Production}
    (asks : producer.program.turn = .ask .countPending resume)
    (pursues : producer.Pursues bound transport number Transport.pendingCall? (.ok none)
      Party.settlePending resume later channel channel') :
    Supplies source later.pipe later.program later.call input accepted ∧ channel' = channel := by
  obtain ⟨program, pipe, call⟩ := producer
  cases supplies with
  | draining config path size seen =>
      cases asks
      obtain ⟨rfl, rfl⟩ := pursues.skipped rfl (by simp [Transport.pendingCall?, endpoint])
      refine ⟨.done _ (.ok _) [] _ (.inl rfl) List.prefix_rfl ?_, rfl⟩
      rintro report ⟨⟩
      exact ⟨rfl, rfl⟩
  | done production result input accepted ends short complete =>
      cases request_of_ends ends asks
  | _ => cases asks

theorem leaving_of_disconnect {resume : ProgramReply .disconnect → Production}
    (asks : production.turn = .ask .disconnect resume) : ∃ result,
    production.phase = .leaving result ∧ resume () = production.goTo (.finished result) := by
  unfold turn at asks
  split at asks <;> cases asks
  exact ⟨_, by assumption, rfl⟩

theorem Supplies.quit (supplies : Supplies source pipe production call input accepted)
    {resume : ProgramReply .disconnect → Production} {pipe' : Pipe}
    (asks : production.turn = .ask .disconnect resume) :
    Supplies source pipe' (resume ()) call input accepted := by
  obtain ⟨result, leaving, isNext⟩ := leaving_of_disconnect asks
  rw [isNext]
  cases supplies with
  | done production other input accepted ends short complete =>
      obtain rfl : other = result := by
        rcases ends with same | finished
        · exact ProducePhase.leaving.inj (same.symm.trans leaving)
        · rw [leaving] at finished
          cases finished
      exact .done _ other input accepted (.inr rfl) short complete
  | _ => cases leaving

end Production

end BoundedStream
