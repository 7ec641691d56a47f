import BoundedStream.Proofs.Pipe.Reception

/-!
# Streams through a pipe

A producer and a consumer of a stream at the two ends of a FIFO, which may split, refuse and
interrupt their transfers at will, and of which either may fail at any time.  What the
consumer writes is what the producer read, from the start and in order; nothing is missing
when both end well, and nothing beyond a limit is taken out.
-/

namespace BoundedStream

/-- A producer and a consumer at the two ends of a FIFO. -/
structure Conveyance where
  /-- What the producer has not read of its input. -/
  input : List UInt8
  producer : Piping Production
  channel : Channel
  consumer : Piping Consumption
  /-- What the consumer has written but has not left its memory. -/
  held : List UInt8
  output : List UInt8

namespace Conveyance

def start (sending receiving : Config) (input output : Option String) (size chunk : Nat)
    (limit : Option Nat) (source : List UInt8) : Conveyance where
  input := source
  producer := ⟨.start sending input size, .closed sending.path .producer sending.flags, none⟩
  channel := ⟨[], [], false⟩
  consumer :=
    ⟨.start receiving output limit chunk, .closed receiving.path .consumer receiving.flags,
      none⟩
  held := []
  output := []

/-- The producer has ended, or is about to. -/
def Ending (conveyance : Conveyance) : Prop :=
  ∃ result, conveyance.producer.program.phase = .leaving result ∨
    conveyance.producer.program.phase = .finished result

/-- Everything that may happen.  The input gives what it has in pieces of any size; what the
consumer writes is held back for any time, but not longer than until it is flushed. -/
inductive Step (bound : Nat) : Conveyance → Conveyance → Prop
  | produce {conveyance : Conveyance} (request : ProgramRequest)
      (resume : ProgramReply request → Production) (reply : ProgramReply request)
      (asks : conveyance.producer.program.turn = .ask request resume)
      (replies : request.Replies reply) :
      Step bound conveyance
        { conveyance with producer := { conveyance.producer with program := resume reply } }
  | read {conveyance : Conveyance} (length : Nat)
      (resume : ProgramReply (.readInput length) → Production) (data : Chunk length)
      (rest : List UInt8)
      (asks : conveyance.producer.program.turn = .ask (.readInput length) resume)
      (whole : conveyance.input = data.val ++ rest)
      (last : data.val = [] → length = 0 ∨ rest = []) :
      Step bound conveyance
        { conveyance with
          input := rest
          producer := { conveyance.producer with program := resume (.ok data) } }
  | send {conveyance : Conveyance} (data : List UInt8)
      (resume : ProgramReply (.send data) → Production) (transport : Transport) (number : Nat)
      (producer : Piping Production) (channel : Channel)
      (asks : conveyance.producer.program.turn = .ask (.send data) resume)
      (endpoint : transport.backend = .pipe number)
      (pursues : conveyance.producer.Pursues bound transport number
        (fun transport => transport.produceCall? data) (.ok 0) (Party.settleSend data) resume
        producer conveyance.channel channel) :
      Step bound conveyance { conveyance with producer, channel }
  | countSent {conveyance : Conveyance} (resume : ProgramReply .countPending → Production)
      (transport : Transport) (number : Nat) (producer : Piping Production)
      (channel : Channel)
      (asks : conveyance.producer.program.turn = .ask .countPending resume)
      (endpoint : transport.backend = .pipe number)
      (pursues : conveyance.producer.Pursues bound transport number Transport.pendingCall?
        (.ok none) Party.settlePending resume producer conveyance.channel channel) :
      Step bound conveyance { conveyance with producer, channel }
  | leaveProducer {conveyance : Conveyance} (resume : ProgramReply .disconnect → Production)
      (asks : conveyance.producer.program.turn = .ask .disconnect resume) :
      Step bound conveyance
        { conveyance with
          producer :=
            { conveyance.producer with
              program := resume (), pipe := { conveyance.producer.pipe with file := none } } }
  /-- The end of a producer that does not write any more is closed. -/
  | close {conveyance : Conveyance} (ending : conveyance.Ending) :
      Step bound conveyance
        { conveyance with channel := { conveyance.channel with closed := true } }
  | consume {conveyance : Conveyance} (request : ProgramRequest)
      (resume : ProgramReply request → Consumption) (reply : ProgramReply request)
      (asks : conveyance.consumer.program.turn = .ask request resume)
      (replies : request.Replies reply) :
      Step bound conveyance
        { conveyance with consumer := { conveyance.consumer with program := resume reply } }
  | countHeld {conveyance : Conveyance} (resume : ProgramReply .countPending → Consumption)
      (transport : Transport) (number : Nat) (consumer : Piping Consumption)
      (channel : Channel)
      (asks : conveyance.consumer.program.turn = .ask .countPending resume)
      (endpoint : transport.backend = .pipe number)
      (pursues : conveyance.consumer.Pursues bound transport number Transport.pendingCall?
        (.ok none) Party.settlePending resume consumer conveyance.channel channel) :
      Step bound conveyance { conveyance with consumer, channel }
  | receive {conveyance : Conveyance} (length : Nat)
      (resume : ProgramReply (.receive length) → Consumption) (transport : Transport)
      (number : Nat) (consumer : Piping Consumption) (channel : Channel)
      (asks : conveyance.consumer.program.turn = .ask (.receive length) resume)
      (endpoint : transport.backend = .pipe number)
      (pursues : conveyance.consumer.Pursues bound transport number
        (fun transport => transport.consumeCall? length) (.ok (.ofList length []))
        (Party.settleReceive length) resume consumer conveyance.channel channel) :
      Step bound conveyance { conveyance with consumer, channel }
  | write {conveyance : Conveyance} (data : List UInt8)
      (resume : ProgramReply (.writeOutput data) → Consumption)
      (asks : conveyance.consumer.program.turn = .ask (.writeOutput data) resume) :
      Step bound conveyance
        { conveyance with
          consumer := { conveyance.consumer with program := resume (.ok ()) }
          held := conveyance.held ++ data }
  | failWrite {conveyance : Conveyance} (data part : List UInt8)
      (resume : ProgramReply (.writeOutput data) → Consumption) (error : SystemError)
      (asks : conveyance.consumer.program.turn = .ask (.writeOutput data) resume)
      (starts : part <+: data) :
      Step bound conveyance
        { conveyance with
          consumer := { conveyance.consumer with program := resume (.error error) }
          held := conveyance.held ++ part }
  | spill {conveyance : Conveyance} (part rest : List UInt8)
      (whole : conveyance.held = part ++ rest) :
      Step bound conveyance
        { conveyance with held := rest, output := conveyance.output ++ part }
  | flush {conveyance : Conveyance} (resume : ProgramReply .flushOutput → Consumption)
      (asks : conveyance.consumer.program.turn = .ask .flushOutput resume)
      (empty : conveyance.held = []) :
      Step bound conveyance
        { conveyance with
          consumer := { conveyance.consumer with program := resume (.ok ()) } }
  | leaveConsumer {conveyance : Conveyance}
      (resume : ProgramReply .disconnect → Consumption)
      (asks : conveyance.consumer.program.turn = .ask .disconnect resume) :
      Step bound conveyance
        { conveyance with
          consumer :=
            { conveyance.consumer with
              program := resume (), pipe := { conveyance.consumer.pipe with file := none } } }

/-- Both ends rely on the FIFO, and the writer's end is closed only once it has ended. -/
structure Sound (conveyance : Conveyance) (source : List UInt8) (limit : Option Nat) :
    Prop where
  supplies : conveyance.producer.program.Supplies source conveyance.producer.pipe
    conveyance.producer.call conveyance.input conveyance.channel.accepted
  receives : conveyance.consumer.program.Receives conveyance.consumer.pipe
    conveyance.channel.Dry conveyance.held conveyance.consumer.call conveyance.channel.taken
    (conveyance.output ++ conveyance.held)
  limited : conveyance.consumer.program.limit = limit
  ended : conveyance.channel.closed = true → conveyance.Ending

variable {conveyance later : Conveyance} {source : List UInt8} {limit : Option Nat}
  {bound : Nat}

theorem sound_start (sending receiving : Config) (input output : Option String)
    {size chunk : Nat} (sends : 1 ≤ size) (receives : 1 ≤ chunk) (limit : Option Nat)
    (source : List UInt8) :
    (start sending receiving input output size chunk limit source).Sound source limit := by
  have producer : Production.start sending input size =
      ⟨sending, input, size, .empty, .openingInput⟩ := by
    simp [Production.start, Nat.ne_of_gt sends]
  have consumer : Consumption.start receiving output limit chunk =
      ⟨receiving, output, limit, chunk, .empty, .connecting⟩ := by
    simp [Consumption.start, Nat.ne_of_gt receives]
  refine ⟨?_, ?_, rfl, by rintro ⟨⟩⟩
  · simp only [start, producer]
    exact .openingInput sending input size sends
  · simp only [start, consumer]
    exact .connecting receiving output limit chunk receives

namespace Sound

theorem isOpen (sound : conveyance.Sound source limit) {request : ProgramRequest}
    {resume : ProgramReply request → Production}
    (asks : conveyance.producer.program.turn = .ask request resume)
    (busy : request ≠ .disconnect) : conveyance.channel.closed = false := by
  by_contra closed
  obtain ⟨result, ends⟩ := sound.ended (by simpa using closed)
  exact busy (Production.request_of_ends ends asks)

private theorem of_producer (sound : conveyance.Sound source limit) {request : ProgramRequest}
    {resume : ProgramReply request → Production}
    (asks : conveyance.producer.program.turn = .ask request resume)
    (busy : request ≠ .disconnect) {input more : List UInt8} {producer : Piping Production}
    {channel : Channel} (accepts : channel = conveyance.channel.accept more)
    (supplies : producer.program.Supplies source producer.pipe producer.call input
      channel.accepted) :
    ({ conveyance with input, producer, channel } : Conveyance).Sound source limit := by
  subst accepts
  have isOpen : (conveyance.channel.accept more).closed = false := sound.isOpen asks busy
  refine ⟨supplies, sound.receives.mono ?_ id, sound.limited, ?_⟩
  · rintro ⟨closed, -⟩
    exact absurd (isOpen.symm.trans closed) Bool.false_ne_true
  · intro closed
    exact absurd (isOpen.symm.trans closed) Bool.false_ne_true

private theorem limit_eq (sound : conveyance.Sound source limit) {request : ProgramRequest}
    {resume : ProgramReply request → Consumption}
    (asks : conveyance.consumer.program.turn = .ask request resume)
    {consumption : Consumption} (goes : consumption = conveyance.consumer.program ∨
      ∃ reply, consumption = resume reply) : consumption.limit = limit := by
  rcases goes with rfl | ⟨reply, rfl⟩
  · exact sound.limited
  · have goesOn : Turn.GoesOn Consumption.turn conveyance.consumer.program (resume reply) :=
      .answer request resume asks reply
    exact (Consumption.next_of_goesOn goesOn).limit_eq.trans sound.limited

private theorem of_consumer (sound : conveyance.Sound source limit) {request : ProgramRequest}
    {resume : ProgramReply request → Consumption}
    (asks : conveyance.consumer.program.turn = .ask request resume)
    (reply : ProgramReply request) {pipe : Pipe} {held output : List UInt8}
    (receives : (resume reply).Receives pipe conveyance.channel.Dry held
      conveyance.consumer.call conveyance.channel.taken (output ++ held)) :
    ({ conveyance with
        consumer := { conveyance.consumer with program := resume reply, pipe }
        held, output } : Conveyance).Sound source limit := by
  exact ⟨sound.supplies, receives, sound.limit_eq asks (.inr ⟨reply, rfl⟩), sound.ended⟩

theorem step (sound : conveyance.Sound source limit) (step : Step bound conveyance later) :
    later.Sound source limit := by
  cases step with
  | produce request resume reply asks replies =>
      refine sound.of_producer asks ?_ (Channel.accept_nil _).symm
        (sound.supplies.reply asks replies)
      rintro rfl
      cases replies
  | read length resume data rest asks whole last =>
      exact sound.of_producer asks (by simp) (Channel.accept_nil _).symm
        (sound.supplies.read asks whole last)
  | send data resume transport number producer channel asks endpoint pursues =>
      obtain ⟨supplies, more, accepts⟩ := sound.supplies.send endpoint asks pursues
      exact sound.of_producer asks (by simp) accepts supplies
  | countSent resume transport number producer channel asks endpoint pursues =>
      obtain ⟨supplies, rfl⟩ := sound.supplies.count endpoint asks pursues
      exact sound.of_producer asks (by simp) (Channel.accept_nil _).symm supplies
  | leaveProducer resume asks =>
      obtain ⟨result, -, isNext⟩ := Production.leaving_of_disconnect asks
      refine ⟨sound.supplies.quit asks, sound.receives, sound.limited, fun _ => ?_⟩
      exact ⟨result, .inr (by simp [isNext, Production.goTo])⟩
  | close ending =>
      refine ⟨sound.supplies, sound.receives.mono ?_ id, sound.limited, fun _ => ending⟩
      rintro ⟨-, empty⟩
      exact ⟨rfl, empty⟩
  | consume request resume reply asks replies =>
      exact sound.of_consumer asks reply (sound.receives.reply asks replies)
  | countHeld resume transport number consumer channel asks endpoint pursues =>
      obtain ⟨receives, rfl⟩ := sound.receives.count endpoint asks pursues
      exact ⟨sound.supplies, receives, sound.limit_eq asks pursues.program_eq, sound.ended⟩
  | receive length resume transport number consumer channel asks endpoint pursues =>
      obtain ⟨receives, accepted, closed⟩ := sound.receives.receive endpoint asks pursues
      refine ⟨?_, receives, sound.limit_eq asks pursues.program_eq, fun isClosed => ?_⟩
      · rw [accepted]
        exact sound.supplies
      · exact sound.ended (closed.symm.trans isClosed)
  | write data resume asks =>
      refine sound.of_consumer asks (.ok ()) ?_
      rw [← List.append_assoc]
      exact (sound.receives.write asks).1
  | failWrite data part resume error asks starts =>
      refine sound.of_consumer asks (.error error) ?_
      rw [← List.append_assoc]
      exact (sound.receives.write asks).2 error part starts
  | spill part rest whole =>
      refine ⟨sound.supplies, ?_, sound.limited, sound.ended⟩
      have receives := sound.receives
      rw [whole] at receives
      rw [List.append_assoc]
      refine receives.mono id fun nothing => ?_
      exact (List.append_eq_nil_iff.mp nothing).2
  | flush resume asks empty =>
      have receives := sound.receives
      rw [empty] at receives
      have flushed := sound.of_consumer asks (.ok ()) (receives.flush asks)
      rwa [empty]
  | leaveConsumer resume asks =>
      exact sound.of_consumer asks () (sound.receives.quit asks)

theorem steps (sound : conveyance.Sound source limit)
    (goesOn : Relation.ReflTransGen (Step bound) conveyance later) :
    later.Sound source limit := by
  induction goesOn with
  | refl => exact sound
  | tail _ next hypothesis => exact hypothesis.step next

/-! ## What was conveyed -/

theorem taken_prefix (sound : conveyance.Sound source limit) :
    conveyance.channel.taken <+: source :=
  (List.prefix_append _ _).trans sound.supplies.short

theorem output_prefix (sound : conveyance.Sound source limit) :
    conveyance.output <+: conveyance.channel.taken :=
  (List.prefix_append _ _).trans sound.receives.short

theorem length_taken_le (sound : conveyance.Sound source limit) {most : Nat}
    (isLimit : limit = some most) : conveyance.channel.taken.length ≤ most :=
  sound.receives.room most (sound.limited.trans isLimit)

theorem output_eq_taken (sound : conveyance.Sound source limit) {received : Report}
    (ends : conveyance.consumer.program.phase = .finished (.ok received)) :
    conveyance.output = conveyance.channel.taken := by
  obtain ⟨empty, written, -⟩ := sound.receives.complete ends
  rwa [empty, List.append_nil] at written

theorem taken_eq_source (sound : conveyance.Sound source limit) {sent : Report}
    (ends : conveyance.producer.program.phase = .finished (.ok sent))
    (dry : conveyance.channel.Dry) : conveyance.channel.taken = source := by
  obtain ⟨accepted, -⟩ := sound.supplies.complete ends
  rwa [Channel.accepted, dry.2, List.append_nil] at accepted

theorem dry_of_endless (sound : conveyance.Sound source none) {received : Report}
    (ends : conveyance.consumer.program.phase = .finished (.ok received)) :
    conveyance.channel.Dry := by
  obtain ⟨-, -, -, ⟨most, isLimit, -⟩ | dry⟩ := sound.receives.complete ends
  · rw [sound.limited] at isLimit
    cases isLimit
  · exact dry

theorem taken_eq_take (sound : conveyance.Sound source limit) {most : Nat} {received : Report}
    (isLimit : limit = some most)
    (ends : conveyance.consumer.program.phase = .finished (.ok received))
    (whole : most ≤ conveyance.output.length ∨ ∃ sent,
      conveyance.producer.program.phase = .finished (.ok sent)) :
    conveyance.channel.taken = source.take most := by
  have few := sound.length_taken_le isLimit
  have isOutput := sound.output_eq_taken ends
  obtain ⟨rest, isSource⟩ := sound.taken_prefix
  have reached : most ≤ conveyance.channel.taken.length →
      conveyance.channel.taken = source.take most := by
    intro enough
    rw [← isSource, List.take_append_of_le_length enough, List.take_of_length_le few]
  rcases whole with enough | ⟨sent, sends⟩
  · exact reached (by rwa [isOutput] at enough)
  · obtain ⟨-, -, -, ⟨other, isOther, enough⟩ | dry⟩ := sound.receives.complete ends
    · rw [sound.limited, isLimit] at isOther
      cases isOther
      exact reached enough
    · -- It ended below its limit, so the whole input was within the limit.
      have all := sound.taken_eq_source sends dry
      rw [all] at few ⊢
      exact (List.take_of_length_le few).symm

end Sound

/-- Whatever the FIFO answers, the consumer writes a part of the input from its start and no
more than its limit.  When both end well it has written all of the input and both report the
same; at its limit, or when the producer has ended well, it has written just the bytes within
the limit, and has taken no others out of the FIFO. -/
theorem conveys_stream {sending receiving : Config} {input output : Option String}
    {size chunk : Nat} (sends : 1 ≤ size) (receives : 1 ≤ chunk)
    (reaches : Relation.ReflTransGen (Step bound)
      (start sending receiving input output size chunk limit source) conveyance) :
    conveyance.output <+: source ∧
      (∀ most, limit = some most → conveyance.output.length ≤ most) ∧
      (∀ sent received, limit = none →
        conveyance.producer.program.phase = .finished (.ok sent) →
        conveyance.consumer.program.phase = .finished (.ok received) →
        conveyance.output = source ∧ received.summary = sent.summary ∧
          sent.summary = .update .empty source) ∧
      ∀ most received, limit = some most →
        conveyance.consumer.program.phase = .finished (.ok received) →
        (most ≤ conveyance.output.length ∨
          ∃ sent, conveyance.producer.program.phase = .finished (.ok sent)) →
        conveyance.output = source.take (min most source.length) ∧
          conveyance.channel.taken = conveyance.output := by
  have sound : conveyance.Sound source limit :=
    (sound_start sending receiving input output sends receives limit source).steps reaches
  refine ⟨sound.output_prefix.trans sound.taken_prefix, ?_, ?_, ?_⟩
  · intro most isLimit
    exact Nat.le_trans sound.output_prefix.length_le (sound.length_taken_le isLimit)
  · rintro sent received rfl sentWell receivedWell
    have all := sound.taken_eq_source sentWell (sound.dry_of_endless receivedWell)
    obtain ⟨-, reports⟩ := sound.supplies.complete sentWell
    obtain ⟨-, -, reported, -⟩ := sound.receives.complete receivedWell
    rw [all] at reported
    exact ⟨(sound.output_eq_taken receivedWell).trans all, reported.trans reports.symm, reports⟩
  · intro most received isLimit receivedWell whole
    have isOutput := sound.output_eq_taken receivedWell
    have isTaken := sound.taken_eq_take isLimit receivedWell whole
    refine ⟨?_, isOutput.symm⟩
    rw [isOutput, isTaken]
    rcases Nat.le_total most source.length with short | long
    · rw [Nat.min_eq_left short]
    · rw [Nat.min_eq_right long, List.take_of_length_le long, List.take_length]

/-- A FIFO at `p` that is open for both directions. -/
def brook : FileSystem :=
  ⟨[⟨0o755, .directory 0 [("p", 1)]⟩, ⟨0o600, .fifo ⟨[], 1, 1, 1, 1⟩⟩], 0, 0o022⟩

theorem open_brook (request : PipeRequest) (role : Role) : ∃ files file,
    PipeCall.step ⟨brook, ⟨"p", role, 0, none, true⟩⟩ ⟨request, .opening⟩ =
      some (⟨files, ⟨"p", role, 0, none, true⟩⟩, ⟨request, .keeping file⟩) := by
  cases role with
  | producer =>
      refine ⟨⟨[⟨0o755, .directory 0 [("p", 1)]⟩, ⟨0o600, .fifo ⟨[], 1, 2, 1, 2⟩⟩], 0, 0o022⟩,
        .forRole 1 true, ?_⟩
      rfl
  | consumer =>
      refine ⟨⟨[⟨0o755, .directory 0 [("p", 1)]⟩, ⟨0o600, .fifo ⟨[], 2, 1, 2, 1⟩⟩], 0, 0o022⟩,
        .forRole 1 false, ?_⟩
      rfl

/-- The first transfer at that FIFO opens its end. -/
theorem reaches_transferring {State Answer : Type} {bound : Nat} {transport : Transport}
    {begin? : Transport → Option Call} {idle : Answer}
    {settle : TransportOutcome → Party.Settled Answer} {resume : Answer → State}
    {program : State} {channel : Channel} (request : PipeRequest) (role : Role)
    (begins : begin? transport = some (.pipe 0 (.start request)))
    (place : Piping State → Conveyance)
    (goes : ∀ {pipe call later}, Piping.Pursues bound transport 0 begin? idle settle resume
      ⟨program, pipe, call⟩ later channel channel →
      Step bound (place ⟨program, pipe, call⟩) (place later)) :
    ∃ file, Relation.ReflTransGen (Step bound)
      (place ⟨program, .closed "p" role 0, none⟩)
      (place ⟨program, ⟨"p", role, 0, some file, false⟩,
        some ⟨request, .transferring request.progress⟩⟩) := by
  obtain ⟨files, file, opens⟩ := open_brook request role
  have apart : ∀ phase phase', (∀ progress, phase ≠ .transferring progress) →
      request.Serves bound phase phase' channel channel := fun phase phase' outside =>
    .apart phase phase' channel outside
  have begun : Relation.ReflTransGen (Step bound)
      (place ⟨program, .closed "p" role 0, none⟩)
      (place ⟨program, .closed "p" role 0, some ⟨request, .looking⟩⟩) :=
    .single (goes (.begin _ channel rfl begins))
  have missed := begun.tail (goes (.advance ⟨brook, _⟩ ⟨brook, .closed "p" role 0⟩ _
    ⟨request, .queueing⟩ _ _ rfl rfl rfl (apart _ _ (by simp))))
  have queued := missed.tail (goes (.advance ⟨brook, _⟩ ⟨brook, "p", role, 0, none, true⟩ _
    ⟨request, .rechecking⟩ _ _ rfl rfl rfl (apart _ _ (by simp))))
  have missedAgain := queued.tail (goes (.advance ⟨brook, _⟩ ⟨brook, "p", role, 0, none, true⟩
    _ ⟨request, .opening⟩ _ _ rfl rfl rfl (apart _ _ (by simp))))
  have opened := missedAgain.tail (goes (.advance ⟨brook, _⟩ _ _ _ _ _ rfl rfl opens
    (apart _ _ (by simp))))
  exact ⟨file.addFlags 0, opened.tail (goes (.advance ⟨files, _⟩
    ⟨files, "p", role, 0, some _, false⟩ _ ⟨request, .transferring _⟩ _ _ rfl rfl rfl
    (apart _ _ (by simp))))⟩

/-- A producer of two bytes, whose first write is refused and whose second one is short. -/
theorem reaches_produced {consumer : Piping Consumption} {output : List UInt8} :
    Relation.ReflTransGen (Step 4)
      ⟨[7, 8], ⟨.start (.namedPipe "p") none 5, .closed "p" .producer 0, none⟩,
        ⟨[], [], false⟩, consumer, [], output⟩
      ⟨[], ⟨⟨.namedPipe "p", none, 5, .update .empty [7, 8],
        .finished (.ok ⟨.producer, .namedPipe, .update .empty [7, 8], none⟩)⟩,
        ⟨"p", .producer, 0, none, false⟩, none⟩, ⟨[7, 8], [], true⟩, consumer, [], output⟩ := by
  let outlet : Transport := ⟨.namedPipe "p", .producer, .pipe 0⟩
  let sender : Production := ⟨.namedPipe "p", none, 5, .empty, .sending 5 [7, 8] [7, 8]⟩
  have goes : ∀ {pipe call later}, Piping.Pursues 4 outlet 0
      (fun transport => transport.produceCall? [7, 8]) (.ok 0) (Party.settleSend [7, 8])
      (fun reply => sender.deliver 5 [7, 8] (.answered [7, 8] reply))
      ⟨sender, pipe, call⟩ later ⟨[], [], false⟩ ⟨[], [], false⟩ →
      Step 4 ⟨[], ⟨sender, pipe, call⟩, ⟨[], [], false⟩, consumer, [], output⟩
        ⟨[], later, ⟨[], [], false⟩, consumer, [], output⟩ :=
    fun pursues => .send [7, 8] _ outlet 0 _ _ rfl rfl pursues
  obtain ⟨file, opened⟩ := reaches_transferring (.produce [7, 8]) .producer rfl
    (fun piping => ⟨[], piping, ⟨[], [], false⟩, consumer, [], output⟩) goes
  refine .head (.produce (.openInput none) _ (.ok ()) rfl (.openInput _ _)) ?_
  refine .head (.produce (.connect _ _) _ (.ok none) rfl (.connect _ _)) ?_
  refine .head (.produce (.allocate 5) _ () rfl (.allocate 5 (by decide))) ?_
  refine .head (.read 5 _ ⟨[7, 8], by decide⟩ [] rfl rfl (by simp)) ?_
  refine .trans opened ?_
  refine .head (.send [7, 8] _ outlet 0 _ _ rfl rfl (.react _ _ _ _ rfl
    (.refuseWrite [7, 8] _ (.number .tryAgain) rfl) (.refuse _ _ _ rfl))) ?_
  refine .head (.send [7, 8] _ outlet 0 _ _ rfl rfl (.answer _ _ _ _ rfl rfl)) ?_
  refine .head (.produce _ _ () rfl .pause) ?_
  refine .head (.send [7, 8] _ outlet 0 _ _ rfl rfl (.begin _ _ rfl rfl)) ?_
  refine .head (.send [7, 8] _ outlet 0 _ _ rfl rfl
    (.advance ⟨brook, _⟩ _ _ _ _ _ rfl rfl rfl (.apart _ _ _ (by simp [PipeCall.start])))) ?_
  refine .head (.send [7, 8] _ outlet 0 _ _ rfl rfl (.react _ _ _ _ rfl
    (.written [7, 8] _ 1 rfl) (.written _ [7] [8] _ rfl (Nat.le_of_ble_eq_true rfl)))) ?_
  refine .head (.send [7, 8] _ outlet 0 _ _ rfl rfl (.answer _ _ _ _ rfl rfl)) ?_
  refine .head (.send [8] _ outlet 0 _ _ rfl rfl (.begin _ _ rfl rfl)) ?_
  refine .head (.send [8] _ outlet 0 _ _ rfl rfl
    (.advance ⟨brook, _⟩ _ _ _ _ _ rfl rfl rfl (.apart _ _ _ (by simp [PipeCall.start])))) ?_
  refine .head (.send [8] _ outlet 0 _ _ rfl rfl (.react _ _ _ _ rfl
    (.written [8] _ 1 rfl) (.written _ [8] [] _ rfl (Nat.le_of_ble_eq_true rfl)))) ?_
  refine .head (.send [8] _ outlet 0 _ _ rfl rfl (.answer _ _ _ _ rfl rfl)) ?_
  refine .head (.read 5 _ ⟨[], by decide⟩ [] rfl rfl fun _ => .inr rfl) ?_
  refine .head (.countSent _ outlet 0 _ _ rfl rfl (.skip _ rfl rfl)) ?_
  refine .head (.leaveProducer _ rfl) ?_
  exact .single (.close ⟨_, .inr rfl⟩)

theorem reaches_receiving {producer : Piping Production} {input : List UInt8} :
    ∃ file, Relation.ReflTransGen (Step 4)
      ⟨input, producer, ⟨[], [], false⟩,
        ⟨.start (.namedPipe "p") none none 3, .closed "p" .consumer 0, none⟩, [], []⟩
      ⟨input, producer, ⟨[], [], false⟩,
        ⟨⟨.namedPipe "p", none, none, 3, .empty, .receiving 3⟩,
          ⟨"p", .consumer, 0, some file, false⟩,
          some ⟨.consume 3, .transferring (.start [])⟩⟩, [], []⟩ := by
  let inlet : Transport := ⟨.namedPipe "p", .consumer, .pipe 0⟩
  let receiver : Consumption := ⟨.namedPipe "p", none, none, 3, .empty, .receiving 3⟩
  have goes : ∀ {pipe call later}, Piping.Pursues 4 inlet 0
      (fun transport => transport.consumeCall? 3) (.ok (.ofList 3 []))
      (Party.settleReceive 3) receiver.received
      ⟨receiver, pipe, call⟩ later ⟨[], [], false⟩ ⟨[], [], false⟩ →
      Step 4 ⟨input, producer, ⟨[], [], false⟩, ⟨receiver, pipe, call⟩, [], []⟩
        ⟨input, producer, ⟨[], [], false⟩, later, [], []⟩ :=
    fun pursues => .receive 3 _ inlet 0 _ _ rfl rfl pursues
  obtain ⟨file, opened⟩ := reaches_transferring (.consume 3) .consumer rfl
    (fun piping => ⟨input, producer, ⟨[], [], false⟩, piping, [], []⟩) goes
  refine ⟨file, ?_⟩
  refine .head (.consume (.connect _ _) _ (.ok none) rfl (.connect _ _)) ?_
  refine .head (.consume (.createOutput none) _ (.ok ()) rfl (.createOutput _ _)) ?_
  refine .head (.consume (.allocate 3) _ () rfl (.allocate 3 (by decide))) ?_
  refine .head (.countHeld _ inlet 0 _ _ rfl rfl (.skip _ rfl rfl)) ?_
  exact opened

/-- A consumer of two bytes, whose first read is interrupted. -/
theorem reaches_consumed {producer : Piping Production} {file : OpenFile} :
    Relation.ReflTransGen (Step 4)
      ⟨[], producer, ⟨[7, 8], [], true⟩,
        ⟨⟨.namedPipe "p", none, none, 3, .empty, .receiving 3⟩,
          ⟨"p", .consumer, 0, some file, false⟩,
          some ⟨.consume 3, .transferring (.start [])⟩⟩, [], []⟩
      ⟨[], producer, ⟨[], [7, 8], true⟩,
        ⟨⟨.namedPipe "p", none, none, 3, .update .empty [7, 8],
          .finished (.ok ⟨.consumer, .namedPipe, .update .empty [7, 8], none⟩)⟩,
          ⟨"p", .consumer, 0, none, false⟩, none⟩, [], [7, 8]⟩ := by
  let inlet : Transport := ⟨.namedPipe "p", .consumer, .pipe 0⟩
  refine .head (.receive 3 _ inlet 0 _ _ rfl rfl (.react _ _ _ _ rfl
    (.refuseRead 3 _ (.number ⟨4⟩) rfl) (.refuse _ _ _ rfl))) ?_
  refine .head (.receive 3 _ inlet 0 _ _ rfl rfl (.answer _ _ _ _ rfl rfl)) ?_
  refine .head (.countHeld _ inlet 0 _ _ rfl rfl (.skip _ rfl rfl)) ?_
  refine .head (.receive 3 _ inlet 0 _ _ rfl rfl (.begin _ _ rfl rfl)) ?_
  refine .head (.receive 3 _ inlet 0 _ _ rfl rfl
    (.advance ⟨brook, _⟩ _ _ _ _ _ rfl rfl rfl (.apart _ _ _ (by simp [PipeCall.start])))) ?_
  refine .head (.receive 3 _ inlet 0 _ _ rfl rfl (.react _ _ _ _ rfl
    (.read 3 _ [7, 8] rfl) (.read 3 _ [7, 8] [] _ _ rfl (by decide) (by simp)))) ?_
  refine .head (.receive 3 _ inlet 0 _ _ rfl rfl (.answer _ _ _ _ rfl rfl)) ?_
  refine .head (.write [7, 8] _ rfl) ?_
  refine .head (.countHeld _ inlet 0 _ _ rfl rfl (.skip _ rfl rfl)) ?_
  refine .head (.receive 3 _ inlet 0 _ _ rfl rfl (.begin _ _ rfl rfl)) ?_
  refine .head (.receive 3 _ inlet 0 _ _ rfl rfl
    (.advance ⟨brook, _⟩ _ _ _ _ _ rfl rfl rfl (.apart _ _ _ (by simp [PipeCall.start])))) ?_
  refine .head (.receive 3 _ inlet 0 _ _ rfl rfl (.react _ _ _ _ rfl
    (.read 3 _ [] rfl) (.read 3 _ [] [] _ _ rfl (by decide) fun _ => .inr ⟨rfl, rfl⟩))) ?_
  refine .head (.receive 3 _ inlet 0 _ _ rfl rfl (.answer _ _ _ _ rfl rfl)) ?_
  refine .head (.spill [7, 8] [] rfl) ?_
  refine .head (.flush _ rfl rfl) ?_
  exact .head (.leaveConsumer _ rfl) .refl

theorem conveys_stream_of_two_bytes : ∃ (conveyance : Conveyance) (sent received : Report),
    Relation.ReflTransGen (Step 4)
      (start (.namedPipe "p") (.namedPipe "p") none none 5 3 none [7, 8]) conveyance ∧
      conveyance.producer.program.phase = .finished (.ok sent) ∧
      conveyance.consumer.program.phase = .finished (.ok received) ∧
      conveyance.output = [7, 8] ∧ received.summary = sent.summary := by
  obtain ⟨file, receives⟩ := reaches_receiving
  have reaches := (receives.trans reaches_produced).trans reaches_consumed
  obtain ⟨-, -, all, -⟩ := conveys_stream (by decide) (by decide) reaches
  obtain ⟨whole, same, -⟩ := all _ _ rfl rfl rfl
  exact ⟨_, _, _, reaches, rfl, rfl, whole, same⟩

end Conveyance

end BoundedStream
