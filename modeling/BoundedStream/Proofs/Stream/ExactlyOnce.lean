import BoundedStream.Proofs.Stream.Completion

/-!
# Exactly once

Every byte of the input reaches exactly one consumer, in its place.  Each side can trust how
it ends: a producer that ends well has nothing left in the ring, and a consumer that ends
well below its limit was the last one to take anything.  The producer does not wait until what
was taken is written, though.  A consumer without a limit and the producer never keep each
other from ending, as long as there is a buffer for the chunks of the consumer.
-/

namespace BoundedStream

/-- The bytes that a consumer has taken and not yet written. -/
def Party.inHand (party : Party) : List UInt8 :=
  match party.consumePhase? with
  | some (.writing bytes) => bytes
  | _ => Call.took none party.call

/-- A report on a stream that did not end at its limit. -/
def Report.EndsBelow (report : Report) : Prop :=
  ∀ limit, report.limit = some limit → report.summary.bytes < limit

namespace Relay

/-- The bytes in the ring of the region for a path, as long as it is there. -/
def contents (relay : Relay) (path : String) : List UInt8 :=
  (relay.host.memory.regionAt? path).elim [] fun region => region.guarded.ring.contents

/-- The input of a producer reaches its consumers exactly once. -/
structure Faithful (relay : Relay) (path : String) (input : List UInt8) : Prop where
  /-- What was taken, and then what the ring holds, is what was put in the ring. -/
  conserved : relay.took ++ relay.contents path = relay.put
  /-- What was put in the ring is the beginning of the input. -/
  inOrder : relay.put <+: input
  /-- What was taken was written by one consumer after the other, but for what the last one
  is about to write. -/
  outputs : relay.took = (relay.consumers.map Party.standardOutput).flatten ++
    relay.current.elim [] Party.inHand
  written : ∀ consumer ∈ relay.consumers, consumer.hasEnded = true → consumer.inHand = []
  /-- Only a consumer crashes, and only for want of a buffer for its chunks. -/
  alive : relay.producer.crash = none ∧ ∀ consumer ∈ relay.consumers, ∀ text,
    consumer.crash = some text →
      text = Party.unallocatable ∧ GuardedRing.greatestSize < consumer.chunk
  /-- A producer ends only well, with the ring empty and all of the input taken.  All of it is
  written when the last consumer has ended. -/
  produced : ∀ result, relay.producer.result? = some result →
    relay.contents path = [] ∧ relay.took = input ∧
      ((∀ consumer, relay.current = some consumer → consumer.hasEnded = true) →
        (relay.consumers.map Party.standardOutput).flatten = input) ∧
      ∃ report, result = .reported (.ok report) ∧ report.summary = .update .empty input
  /-- A consumer that ends well, and not at its limit, ends after all of the input. -/
  consumed : ∀ consumer ∈ relay.consumers, ∀ report,
    consumer.result? = some (.reported (.ok report)) →
      report.summary = .update .empty consumer.standardOutput ∧
        (report.EndsBelow → relay.took = input)
  /-- A consumer that is the only one ends only well. -/
  sole : relay.former = [] → ∀ consumer, relay.current = some consumer → ∀ result,
    consumer.result? = some result → ∃ report, result = .reported (.ok report) ∧
      (report.EndsBelow → consumer.standardOutput = input)
  /-- A consumer without a limit that is the only one, and for whose chunks there is a buffer,
  can always come to its end, and the producer with it. -/
  completes : relay.former = [] → ∀ consumer, relay.current = some consumer →
    consumer.limit? = none → consumer.chunk ≤ GuardedRing.greatestSize →
      ∃ roles later, relay.play roles = some later ∧ later.Complete input
  /-- The region goes away with those who used it. -/
  removed : relay.producer.hasEnded = true →
    (∀ consumer, relay.current = some consumer → consumer.hasEnded = true) →
      relay.host.memory.regionAt? path = none

end Relay

/-! ## How each side ends -/

namespace Producing

variable {config : Config} {chunk number capacity : Nat} {queue : List UInt8} {met : Prop}
  {party : Party} {sent rest : List UInt8}
  (producing : Producing config chunk number capacity queue met party sent rest)

include producing

theorem crash_eq : party.crash = none := by
  cases producing <;> rfl

theorem ends {result : ProgramResult} (isResult : party.result? = some result) :
    party.handles = 0 ∧
      result = .reported (.ok ⟨.producer, config.kind, .update .empty sent, none⟩) := by
  cases producing with
  | left sent peer empty =>
      cases isResult
      exact ⟨rfl, rfl⟩
  | attached acknowledged phase transport input call sent rest holds stands =>
      cases stands <;> cases isResult

end Producing

namespace Consumed

variable {config : Config} {limit : Option Nat} {chunk : Nat} {gone late : Prop}
  {party : Party} {taken : List UInt8}
  (consumed : Consumed config limit chunk gone late party taken)

include consumed

theorem chunk_of_crash {text : String} (crashed : party.crash = some text) :
    text = Party.unallocatable ∧ GuardedRing.greatestSize < party.chunk := by
  cases consumed with
  | left taken ended => cases crashed
  | missed error isLate => cases crashed
  | crashed taken great =>
      cases crashed
      exact ⟨rfl, great⟩

theorem inHand_eq : party.inHand = [] := by
  cases consumed <;> rfl

/-- A consumer that ends well reports what it wrote. -/
theorem ends {report : Report} (isResult : party.result? = some (.reported (.ok report))) :
    report.summary = .update .empty taken ∧ (report.EndsBelow → gone) := by
  cases consumed with
  | missed error isLate => cases isResult
  | crashed taken great => cases isResult
  | left taken ended =>
      cases isResult
      refine ⟨rfl, fun below => ?_⟩
      rcases ended with ⟨most, rfl, reached⟩ | gone
      · have fewer := below most rfl
        simp only [Summary.bytes_update, Summary.empty] at fewer
        omega
      · exact gone

theorem ends_well {result : ProgramResult} (isResult : party.result? = some result)
    (inTime : ¬ late) : ∃ report, result = .reported (.ok report) := by
  cases consumed with
  | missed error isLate => exact (inTime isLate).elim
  | crashed taken great => cases isResult
  | left taken ended =>
      cases isResult
      exact ⟨_, rfl⟩

end Consumed

namespace Relay

namespace Started

variable {memory : SharedMemory} {key number : Nat} {queue : List UInt8} {gone late : Prop}
  {party : Party} {taken : List UInt8}
  (started : Started memory key number queue gone late party taken)

include started

theorem chunk_of_crash {text : String} (crashed : party.crash = some text) :
    text = Party.unallocatable ∧ GuardedRing.greatestSize < party.chunk := by
  cases started with
  | connecting config limit chunk positive leads => cases crashed
  | connected config limit chunk positive party taken consuming =>
      cases consuming with
      | ended party taken consumed => exact consumed.chunk_of_crash crashed
      | attached written phase transport call taken holds stands => cases crashed

theorem taken_eq : taken = party.standardOutput ++ party.inHand := by
  cases started with
  | connecting config limit chunk positive leads => rfl
  | connected config limit chunk positive party taken consuming =>
      cases consuming with
      | ended party taken consumed =>
          rw [consumed.inHand_eq, List.append_nil, consumed.standardOutput_eq]
      | attached written phase transport call taken holds stands =>
          cases stands with
          | counting want call positive undecided =>
              simp only [Party.inHand, Party.consumePhase?, Party.consuming,
                undecided.took_none_eq, List.append_nil]
          | counted want pending phase positive decided held =>
              simp only [Party.inHand, Party.consumePhase?, Party.consuming,
                Call.took_none_of_decided decided, RingOutcome.taken, List.append_nil]
          | receiving length call positive held undecided =>
              simp only [Party.inHand, Party.consumePhase?, Party.consuming,
                undecided.took_none_eq, List.append_nil]
          | received length bytes phase nonempty fits decided =>
              simp only [Party.inHand, Party.consumePhase?, Party.consuming,
                Call.took_none_of_decided decided, RingOutcome.taken]
          | writing bytes => rfl
          | _ => simp [Party.consuming, Party.inHand, Party.consumePhase?]

end Started

variable {relay : Relay} {config : Config} {chunk key number : Nat}
  {input queue taken rest : List UInt8} {path : String}

namespace Underway

/-- The region is there as long as anybody has a handle. -/
theorem exists_regionAt?_eq
    (underway : relay.Underway config chunk key number input queue taken rest) :
    ∃ region, relay.host.memory.regionAt? config.path =
        (if relay.producer.handles + relay.consumerHandles = 0 then none else some region) ∧
      region.guarded.ring.Represents queue := by
  obtain ⟨region, found, accords, attended⟩ := underway.carries
  have present : relay.host.memory.regions.get? number = some region := found
  have finds := underway.sole.find?_eq found accords.key_eq
  rw [accords.removed_eq, Bool.false_or] at finds
  refine ⟨region, ?_, attended.represents⟩
  simp only [SharedMemory.regionAt?, underway.leads.derived, finds, decide_eq_true_eq]
  split
  · rfl
  · exact present

/-- The ring holds the queue, and once the region is gone the queue is empty. -/
theorem contents_eq
    (underway : relay.Underway config chunk key number input queue taken rest) :
    relay.contents config.path = queue := by
  obtain ⟨region, isRegion, represents⟩ := underway.exists_regionAt?_eq
  rw [contents, isRegion]
  split
  · rename_i deserted
    have gone : relay.producer.handles = 0 := by omega
    exact (underway.producing.of_gone gone).1.symm
  · exact represents.contents_eq

theorem removed (underway : relay.Underway config chunk key number input queue taken rest)
    (producerGone : relay.producer.handles = 0) (consumerGone : relay.consumerHandles = 0) :
    relay.host.memory.regionAt? config.path = none := by
  obtain ⟨region, isRegion, -⟩ := underway.exists_regionAt?_eq
  rw [isRegion, producerGone, consumerGone]
  rfl

theorem consumed_of_ended
    (underway : relay.Underway config chunk key number input queue taken rest)
    {consumer : Party} (member : consumer ∈ relay.consumers)
    (hasEnded : consumer.hasEnded = true) :
    ∃ config limit chunk, Consumed config limit chunk (relay.producer.handles = 0)
      (relay.former ≠ []) consumer consumer.standardOutput := by
  rcases List.mem_append.mp member with before | now
  · exact underway.former consumer before
  · have running : relay.current = some consumer := by simpa using now
    obtain ⟨config, limit, chunk, consumed⟩ :=
      (underway.current consumer running).consumed hasEnded
    rw [consumed.standardOutput_eq]
    exact ⟨config, limit, chunk, consumed⟩

theorem faithful (underway : relay.Underway config chunk key number input queue taken rest) :
    relay.Faithful config.path input where
  conserved := by rw [underway.contents_eq, underway.conserved]
  inOrder := ⟨rest, underway.whole⟩
  outputs := by
    rw [underway.took_eq]
    cases running : relay.current with
    | none => simp [consumers, running, (underway.nobody running).2]
    | some consumer =>
        have taken_eq := (underway.current consumer running).taken_eq
        simp [consumers, running, ← taken_eq]
  written := by
    intro consumer member hasEnded
    obtain ⟨_, _, _, consumed⟩ := underway.consumed_of_ended member hasEnded
    exact consumed.inHand_eq
  alive := by
    refine ⟨underway.producing.crash_eq, fun consumer member text crashed => ?_⟩
    rcases List.mem_append.mp member with before | now
    · obtain ⟨_, _, _, consumed⟩ := underway.former consumer before
      exact consumed.chunk_of_crash crashed
    · exact (underway.current consumer (by simpa using now)).chunk_of_crash crashed
  produced := by
    intro result isResult
    obtain ⟨gone, rfl⟩ := underway.producing.ends isResult
    obtain ⟨rfl, rfl, -⟩ := underway.producing.of_gone gone
    have sent : relay.put = input := by simpa using underway.whole
    have took := underway.took_eq_of_gone gone
    refine ⟨underway.contents_eq, took, fun alone => ?_, _, rfl, ?_⟩
    · rw [← underway.took_eq_outputs alone, took]
    · rw [sent]
  consumed := by
    intro consumer member report isResult
    have hasEnded : consumer.hasEnded = true := by simp [Party.hasEnded, isResult]
    obtain ⟨_, _, _, consumed⟩ := underway.consumed_of_ended member hasEnded
    obtain ⟨summary, gone⟩ := consumed.ends isResult
    exact ⟨summary, fun below => underway.took_eq_of_gone (gone below)⟩
  sole := by
    intro first consumer running result isResult
    have hasEnded : consumer.hasEnded = true := by simp [Party.hasEnded, isResult]
    obtain ⟨_, _, _, consumed⟩ := (underway.current consumer running).consumed hasEnded
    obtain ⟨report, rfl⟩ := consumed.ends_well isResult fun late => late first
    refine ⟨report, rfl, fun below => ?_⟩
    have took := underway.took_eq_of_gone ((consumed.ends isResult).2 below)
    rw [underway.took_eq, first] at took
    rw [consumed.standardOutput_eq]
    exact took
  completes := fun first consumer running endless moderate =>
    Paired.completes ⟨⟨number, queue, taken, rest, underway⟩, first, running, endless, moderate⟩
  removed := by
    intro producerEnded consumerEnded
    have producerGone : relay.producer.handles = 0 := by
      cases isResult : relay.producer.result? with
      | none =>
          simp [Party.hasEnded, isResult, underway.producing.crash_eq] at producerEnded
      | some result => exact (underway.producing.ends isResult).1
    refine underway.removed producerGone ?_
    cases running : relay.current with
    | none => simp [consumerHandles, running]
    | some consumer =>
        obtain ⟨_, _, _, consumed⟩ :=
          (underway.current consumer running).consumed (consumerEnded consumer running)
        simp [consumerHandles, running, consumed.handles_eq]

end Underway

/-- At every moment of every run, the input of the producer reaches its consumers exactly
once. -/
theorem run_faithful (host : Host) (config : Config) (chunk key : Nat) (input : List UInt8)
    (positive : 1 ≤ chunk) (leads : config.LeadsTo host.memory .producer key)
    (nowhere : host.memory.regions.find? key = none) {relay : Relay}
    (reached : Relation.ReflTransGen (Step key) (.start host config chunk input) relay) :
    relay.Faithful config.path input := by
  -- `Sound` carries the induction; the promises are read off it at the end.
  have sound : Sound host config chunk key input relay := by
    induction reached with
    | refl => exact .start host config positive key input
    | tail _ step sound => exact sound.step leads nowhere positive step
  cases sound with
  | underway relay number queue taken rest underway => exact underway.faithful
  | before phase early =>
      have absent : host.memory.regionAt? config.path = none := by
        simp [SharedMemory.regionAt?, leads.derived, nowhere]
      exact {
        conserved := by simp [contents, absent]
        inOrder := List.nil_prefix
        outputs := rfl
        written := by simp [consumers]
        alive := ⟨rfl, by simp [consumers]⟩
        produced := by
          intro result isResult
          rcases early with rfl | rfl <;> cases isResult
        consumed := by simp [consumers]
        sole := by simp
        completes := by simp
        removed := fun _ _ => absent }

/-- Every input can be sent to one consumer as a whole. -/
theorem exists_complete_run (host : Host) (config : Config) (chunk key : Nat)
    (input : List UInt8) (positive : 1 ≤ chunk)
    (leads : ∀ role, config.LeadsTo host.memory role key)
    (nowhere : host.memory.regions.find? key = none) :
    ∃ relay, Relation.ReflTransGen (Step key) (.start host config chunk input) relay ∧
      relay.Complete input := by
  have opened : Step key (.start host config chunk input)
      ⟨host, .producing config chunk .empty .connecting none input none, [], none, [], []⟩ := by
    rw [start, Party.produce_eq config input positive]
    exact .produce host _ rfl
  have stepped : ∃ host' producer, (Party.producing config chunk .empty .connecting none input
      none).step host = some (host', producer) := ⟨_, _, rfl⟩
  obtain ⟨host', producer, stepped⟩ := stepped
  obtain ⟨underway, idle⟩ :=
    Sound.underway_of_connect (leads .producer) nowhere positive stepped
  have connected : Step key
      ⟨host, .producing config chunk .empty .connecting none input none, [], none, [], []⟩
      ⟨host', producer, [], none, [], []⟩ := by
    have step : Step key ⟨host, .producing config chunk .empty .connecting none input none,
        [], none, [], []⟩ _ := .produce host' producer stepped
    rwa [idle, Call.put_none, List.append_nil] at step
  have attached : producer.handles + 0 ≠ 0 := by
    intro gone
    obtain ⟨-, -, sent | former | ⟨consumer, running, -⟩⟩ := underway.producing.of_gone gone
    · exact sent rfl
    · exact former rfl
    · cases running
  obtain ⟨region, isRegion, -⟩ := underway.exists_regionAt?_eq
  rw [consumerHandles, Option.elim_none, if_neg attached] at isRegion
  have leadsOn : config.LeadsTo host'.memory .consumer key :=
    { leads .consumer with derived := underway.leads.derived }
  have started : Step key ⟨host', producer, [], none, [], []⟩ _ :=
    .start config none 1 leadsOn (Nat.le_refl 1) (by rw [isRegion]; rfl) (by simp)
  have underway' := underway.start none leadsOn (Nat.le_refl 1) (by simp)
  have moderate : 1 ≤ GuardedRing.greatestSize := by decide
  obtain ⟨roles, later, played, complete⟩ :=
    Paired.completes ⟨⟨_, _, _, _, underway'⟩, rfl, rfl, rfl, moderate⟩
  exact ⟨later, .head opened (.head connected (.head started (steps_of_play played))), complete⟩

/-- A host with nothing but one file. -/
def quay : Host := Host.fresh.place "a" (.file [])

theorem leadsTo_quay (role : Role) :
    (Config.sharedMemory "a" 4).LeadsTo quay.memory role 2 :=
  ⟨rfl, by cases role <;> rfl, rfl⟩

theorem run_faithful_of_three_bytes : ∃ relay,
    Relation.ReflTransGen (Step 2) (.start quay (.sharedMemory "a" 4) 3 [1, 2, 3]) relay ∧
      relay.Complete [1, 2, 3] ∧ relay.Faithful "a" [1, 2, 3] := by
  have nowhere : quay.memory.regions.find? 2 = none := rfl
  obtain ⟨relay, reached, complete⟩ := exists_complete_run quay (.sharedMemory "a" 4) 3 2
    [1, 2, 3] (by decide) leadsTo_quay nowhere
  exact ⟨relay, reached, complete, run_faithful quay (.sharedMemory "a" 4) 3 2 [1, 2, 3]
    (by decide) (leadsTo_quay .producer) nowhere reached⟩

/-! ## What the two do not promise -/

/-- The producer of one byte has made its region. -/
def boarded : Relay where
  host := { quay with memory := ⟨quay.files, ⟨[Region.new 2 4 0o600]⟩⟩ }
  producer :=
    { Party.produce (.sharedMemory "a" 4) none 3 [7] with
      program := .produce ⟨.sharedMemory "a" 4, none, 3, .empty, .allocating 2⟩
      transport := some ⟨.sharedMemory "a" 4, .producer, .segment ⟨"a", 0, true, true⟩⟩ }
  former := []
  current := none
  put := []
  took := []

/-- A consumer without a limit has come to it. -/
def manned (chunk : Nat) : Relay where
  host := { quay with memory := ⟨quay.files, ⟨[(Region.new 2 4 0o600).joined]⟩⟩ }
  producer := boarded.producer
  former := []
  current := some
    { Party.consume (.sharedMemory "a" 4) none none chunk with
      program := .consume
        ⟨.sharedMemory "a" 4, none, none, chunk, .empty, .creatingOutput⟩
      transport := some ⟨.sharedMemory "a" 4, .consumer, .segment ⟨"a", 0, false, true⟩⟩ }
  put := []
  took := []

theorem reaches_manned {chunk : Nat} (positive : 1 ≤ chunk) : Relation.ReflTransGen (Step 2)
    (.start quay (.sharedMemory "a" 4) 3 [7]) (manned chunk) := by
  have opened : (start quay (.sharedMemory "a" 4) 3 [7]).play [.producer, .producer] =
      some boarded := rfl
  have leads : (Config.sharedMemory "a" 4).LeadsTo boarded.host.memory .consumer 2 :=
    (leadsTo_quay .consumer).of_files rfl
  have present : (boarded.host.memory.regionAt? "a").isSome = true := rfl
  have alone : ∀ consumer, boarded.current = some consumer → consumer.hasEnded = true := by
    rintro consumer ⟨⟩
  have started := Step.start (.sharedMemory "a" 4) none chunk leads positive present alone
  have joined : Relay.play { boarded with
      former := boarded.consumers
      current := some (.consume (.sharedMemory "a" 4) none none chunk) } [.consumer] =
        some (manned chunk) := by
    simp only [play, advance, Option.bind_some, Party.consume_eq _ _ positive]
    rw [Party.step_consume rfl rfl rfl]
    dsimp only
    rfl
  exact ((steps_of_play opened).tail started).trans (steps_of_play joined)

/-- A consumer that has crashed does nothing more. -/
theorem current_of_play {roles : List Role} {relay later : Relay} {consumer : Party}
    (running : relay.current = some consumer) (crashed : consumer.crash ≠ none)
    (played : relay.play roles = some later) : later.current = some consumer := by
  induction roles generalizing relay with
  | nil =>
      cases played
      exact running
  | cons role roles ih =>
      simp only [play, Option.bind_eq_some_iff] at played
      obtain ⟨next, advanced, played⟩ := played
      refine ih ?_ played
      cases role with
      | producer =>
          simp only [advance, Option.map_eq_some_iff] at advanced
          obtain ⟨_, -, rfl⟩ := advanced
          exact running
      | consumer =>
          simp only [advance, running, Option.bind_some, Option.map_eq_some_iff] at advanced
          obtain ⟨_, stepped, -⟩ := advanced
          exact absurd (Party.alive_of_step stepped) crashed

/-- It is not so that all of the input is written once the producer has ended well, nor that
every single consumer without a limit can come to its end: the last bytes may have been taken
and not yet written, and there may be no buffer for the chunks of the consumer. -/
theorem not_always_written :
    (¬ ∀ (host : Host) (config : Config) (chunk key : Nat) (input : List UInt8)
      (relay : Relay), 1 ≤ chunk → config.LeadsTo host.memory .producer key →
      host.memory.regions.find? key = none →
      Relation.ReflTransGen (Step key) (.start host config chunk input) relay →
      ∀ report, relay.producer.result? = some (.reported (.ok report)) →
        (relay.consumers.map Party.standardOutput).flatten = input) ∧
    ¬ ∀ (host : Host) (config : Config) (chunk key : Nat) (input : List UInt8)
      (relay : Relay), 1 ≤ chunk → config.LeadsTo host.memory .producer key →
      host.memory.regions.find? key = none →
      Relation.ReflTransGen (Step key) (.start host config chunk input) relay →
      relay.former = [] → ∀ consumer, relay.current = some consumer → consumer.limit? = none →
        ∃ roles later, relay.play roles = some later ∧ later.Complete input := by
  have nowhere : quay.memory.regions.find? 2 = none := rfl
  constructor
  · intro always
    have taken : ∃ later, (manned 4).play (List.replicate 11 .producer ++
        List.replicate 17 .consumer ++ List.replicate 9 .producer) = some later ∧
          (∃ report, later.producer.result? = some (.reported (.ok report))) ∧
          (later.consumers.map Party.standardOutput).flatten = [] :=
      ⟨_, rfl, ⟨_, rfl⟩, rfl⟩
    obtain ⟨later, played, ⟨report, isResult⟩, nothing⟩ := taken
    have reached := (reaches_manned (by decide)).trans (steps_of_play played)
    have written := always quay _ 3 2 [7] later (by decide) (leadsTo_quay .producer) nowhere
      reached report isResult
    rw [nothing] at written
    cases written
  · intro always
    have great : 1 ≤ GuardedRing.greatestSize + 1 := by decide
    have wrecked : ∃ later consumer, (manned (GuardedRing.greatestSize + 1)).play
        [.consumer, .consumer] = some later ∧ later.former = [] ∧
          later.current = some consumer ∧ consumer.limit? = none ∧
          consumer.crash = some Party.unallocatable ∧ consumer.result? = none :=
      ⟨_, _, rfl, rfl, rfl, rfl, rfl, rfl⟩
    obtain ⟨later, consumer, played, first, running, endless, crashed, unfinished⟩ := wrecked
    obtain ⟨roles, last, goesOn, -, other, report, isCurrent, isResult, -⟩ :=
      always quay _ 3 2 [7] later (by decide) (leadsTo_quay .producer) nowhere
        ((reaches_manned great).trans (steps_of_play played)) first consumer running endless
    rw [current_of_play running (by rw [crashed]; exact Option.some_ne_none _) goesOn] at isCurrent
    cases isCurrent
    rw [unfinished] at isResult
    cases isResult

end Relay

end BoundedStream
