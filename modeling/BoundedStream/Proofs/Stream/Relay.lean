import BoundedStream.Proofs.Stream.Consumer
import BoundedStream.Proofs.Stream.Producer
import Mathlib.Logic.Relation

/-!
# Relays

A producer sends its input through one region, and beside it consumers run one after
another.  The steps of both sides come in any order.  Whatever happens, the bytes that were
taken, those that the ring holds and those that were not yet sent are the input.
-/

namespace BoundedStream

/-- A producer, beside which consumers run one after another. -/
structure Relay where
  host : Host
  producer : Party
  /-- The consumers that have ended, in the order in which they were started. -/
  former : List Party
  /-- The consumer that was started last. -/
  current : Option Party
  /-- The bytes that were put in the ring. -/
  put : List UInt8
  /-- The bytes that were taken out of it. -/
  took : List UInt8

namespace Relay

/-- A producer at its beginning. -/
def start (host : Host) (config : Config) (chunk : Nat) (input : List UInt8) : Relay :=
  ⟨host, .produce config none chunk input, [], none, [], []⟩

/-- All consumers that were started, in order. -/
def consumers (relay : Relay) : List Party := relay.former ++ relay.current.toList

/-- Everything that may happen next where the region is that of a key.  The input may come
in pieces of any size, and a consumer is started only while the region is there. -/
inductive Step (key : Nat) : Relay → Relay → Prop
  | produce {relay : Relay} (host : Host) (producer : Party)
      (stepped : relay.producer.step relay.host = some (host, producer)) :
      Step key relay
        { relay with
          host
          producer
          put := relay.put ++ Call.put relay.producer.call producer.call }
  | read {relay : Relay} (production : Production) (size : Nat) (data : Chunk size)
      (later : List UInt8) (isProgram : relay.producer.program = .produce production)
      (isPhase : production.phase = .reading size) (nonempty : data.val ≠ [])
      (whole : data.val ++ later = relay.producer.standardInput) :
      Step key relay
        { relay with
          producer := { relay.producer with standardInput := later }.goOn
            (.produce (production.inputRead size (.ok data))) }
  | consume {relay : Relay} (host : Host) (consumer consumer' : Party)
      (running : relay.current = some consumer)
      (stepped : consumer.step relay.host = some (host, consumer')) :
      Step key relay
        { relay with
          host
          current := some consumer'
          took := relay.took ++ Call.took consumer.call consumer'.call }
  | start {relay : Relay} (config : Config) (limit : Option Nat) (chunk : Nat)
      (leads : config.LeadsTo relay.host.memory .consumer key) (positive : 1 ≤ chunk)
      (present : (relay.host.memory.regionAt? config.path).isSome = true)
      (alone : ∀ consumer, relay.current = some consumer → consumer.hasEnded = true) :
      Step key relay
        { relay with
          former := relay.consumers
          current := some (.consume config none limit chunk) }

/-- One step of one side, if it can take one. -/
def advance (relay : Relay) : Role → Option Relay
  | .producer =>
    (relay.producer.step relay.host).map fun (host, producer) =>
      { relay with
        host
        producer
        put := relay.put ++ Call.put relay.producer.call producer.call }
  | .consumer =>
    relay.current.bind fun consumer =>
      (consumer.step relay.host).map fun (host, consumer') =>
        { relay with
          host
          current := some consumer'
          took := relay.took ++ Call.took consumer.call consumer'.call }

/-- Steps of both sides in a given order, if they can be taken. -/
def play (relay : Relay) : List Role → Option Relay
  | [] => some relay
  | role :: roles => (relay.advance role).bind fun later => later.play roles

variable {key : Nat} {relay later : Relay}

theorem step_of_advance {role : Role} (advanced : relay.advance role = some later) :
    Step key relay later := by
  cases role with
  | producer =>
      simp only [advance, Option.map_eq_some_iff, Prod.exists] at advanced
      obtain ⟨host, producer, stepped, rfl⟩ := advanced
      exact .produce host producer stepped
  | consumer =>
      simp only [advance, Option.bind_eq_some_iff, Option.map_eq_some_iff,
        Prod.exists] at advanced
      obtain ⟨consumer, running, host, consumer', stepped, rfl⟩ := advanced
      exact .consume host consumer consumer' running stepped

theorem steps_of_play {roles : List Role} (played : relay.play roles = some later) :
    Relation.ReflTransGen (Step key) relay later := by
  induction roles generalizing relay with
  | nil =>
      cases played
      exact .refl
  | cons role roles ih =>
      simp only [play, Option.bind_eq_some_iff] at played
      obtain ⟨next, advanced, played⟩ := played
      exact .head (step_of_advance advanced) (ih played)

/-! ## What is known at every moment -/

/-- The calls on the ring. -/
def calls (relay : Relay) : Role → Option RingCall
  | .producer => Call.onRing? relay.producer.call
  | .consumer => relay.current.bind fun consumer => Call.onRing? consumer.call

/-- The number of handles that consumers have. -/
def consumerHandles (relay : Relay) : Nat := relay.current.elim 0 Party.handles

/-- A consumer has come to the region. -/
def Met (relay : Relay) : Prop :=
  relay.former ≠ [] ∨ ∃ consumer, relay.current = some consumer ∧
    consumer.consumePhase? ≠ some .connecting

/-- A consumer that was started: on its way to the region of a key, or past that. -/
inductive Started (memory : SharedMemory) (key number : Nat) (queue : List UInt8)
    (gone late : Prop) : Party → List UInt8 → Prop
  | connecting (config : Config) (limit : Option Nat) (chunk : Nat) (positive : 1 ≤ chunk)
      (leads : config.LeadsTo memory .consumer key) :
      Started memory key number queue gone late
        (.consuming config limit chunk .empty .connecting none [] none) []
  | connected (config : Config) (limit : Option Nat) (chunk : Nat) (positive : 1 ≤ chunk)
      (party : Party) (taken : List UInt8)
      (consuming : Consuming config limit chunk number queue gone late party taken) :
      Started memory key number queue gone late party taken

/-- The producer has made its region, which holds a queue; the consumer that was started
last has taken some bytes, and the rest of the input was not yet sent. -/
structure Underway (relay : Relay) (config : Config) (chunk key number : Nat)
    (input queue taken rest : List UInt8) : Prop where
  leads : config.LeadsTo relay.host.memory .producer key
  sole : relay.host.memory.regions.Sole key number
  carries : relay.host.Carries number ⟨key, config.capacity, false⟩
    (relay.producer.handles + relay.consumerHandles) relay.calls queue
  producing : Producing config chunk number config.capacity queue relay.Met relay.producer
    relay.put rest
  former : ∀ consumer ∈ relay.former, ∃ config limit chunk, Consumed config limit chunk
    (relay.producer.handles = 0) (relay.former ≠ []) consumer consumer.standardOutput
  current : ∀ consumer, relay.current = some consumer →
    Started relay.host.memory key number queue (relay.producer.handles = 0)
      (relay.former ≠ []) consumer taken
  nobody : relay.current = none → relay.former = [] ∧ taken = []
  took_eq : relay.took = (relay.former.map Party.standardOutput).flatten ++ taken
  conserved : relay.took ++ queue = relay.put
  whole : relay.put ++ rest = input

/-- What is known of a relay at every moment. -/
inductive Sound (host : Host) (config : Config) (chunk key : Nat) (input : List UInt8) :
    Relay → Prop
  | before (phase : ProducePhase) (early : phase = .openingInput ∨ phase = .connecting) :
      Sound host config chunk key input
        ⟨host, .producing config chunk .empty phase none input none, [], none, [], []⟩
  | underway (relay : Relay) (number : Nat) (queue taken rest : List UInt8)
      (underway : relay.Underway config chunk key number input queue taken rest) :
      Sound host config chunk key input relay

namespace Started

variable {memory : SharedMemory} {key number : Nat} {queue : List UInt8} {gone late : Prop}
  {party : Party} {taken : List UInt8}

theorem mono {memory' : SharedMemory} {queue' : List UInt8} {gone' late' : Prop}
    (started : Started memory key number queue gone late party taken)
    (files : memory'.files = memory.files) (grows : queue.length ≤ queue'.length)
    (ends : gone → gone') (misses : late → late') :
    Started memory' key number queue' gone' late' party taken := by
  cases started with
  | connecting config limit chunk positive leads =>
      exact .connecting config limit chunk positive (leads.of_files files)
  | connected config limit chunk positive party taken consuming =>
      exact .connected config limit chunk positive party taken
        (consuming.mono grows ends misses)

theorem consumed (started : Started memory key number queue gone late party taken)
    (hasEnded : party.hasEnded = true) :
    ∃ config limit chunk, Consumed config limit chunk gone late party taken := by
  cases started with
  | connecting config limit chunk positive leads => cases hasEnded
  | connected config limit chunk positive party taken consuming =>
      exact ⟨config, limit, chunk, consuming.consumed hasEnded⟩

end Started

namespace Underway

variable {relay : Relay} {config : Config} {chunk key number : Nat}
  {input queue taken rest : List UInt8}

/-- Only a consumer that has come to the region has a handle. -/
theorem met_of_handles
    (underway : relay.Underway config chunk key number input queue taken rest)
    (held : 0 < relay.consumerHandles) : relay.Met := by
  cases running : relay.current with
  | none => simp [consumerHandles, running] at held
  | some consumer =>
      refine .inr ⟨consumer, running, ?_⟩
      cases underway.current consumer running with
      | connecting config limit chunk positive leads =>
          simp [consumerHandles, running, Party.handles, Party.consuming] at held
      | connected config limit chunk positive party taken consuming => exact consuming.joined

theorem consumerHandles_le_one (relay : Relay) : relay.consumerHandles ≤ 1 := by
  cases running : relay.current with
  | none => simp [consumerHandles, running]
  | some consumer => simpa [consumerHandles, running] using consumer.handles_le_one

theorem put_length_le
    (underway : relay.Underway config chunk key number input queue taken rest) :
    relay.put.length ≤ input.length := by
  rw [← underway.whole, List.length_append]
  omega

theorem took_length_le
    (underway : relay.Underway config chunk key number input queue taken rest) :
    relay.took.length ≤ input.length := by
  have fits := underway.put_length_le
  rw [← underway.conserved, List.length_append] at fits
  omega

/-- Once the producer is gone, all of the input was taken. -/
theorem took_eq_of_gone
    (underway : relay.Underway config chunk key number input queue taken rest)
    (gone : relay.producer.handles = 0) : relay.took = input := by
  obtain ⟨rfl, rfl, -⟩ := underway.producing.of_gone gone
  rw [← underway.whole, ← underway.conserved]
  simp

theorem produce (underway : relay.Underway config chunk key number input queue taken rest)
    {host : Host} {producer : Party}
    (stepped : relay.producer.step relay.host = some (host, producer)) :
    ∃ queue' rest', Underway
      { relay with
        host
        producer
        put := relay.put ++ Call.put relay.producer.call producer.call }
      config chunk key number input queue' taken rest' := by
  have carries : relay.host.Carries number ⟨key, config.capacity, false⟩
      (relay.consumerHandles + relay.producer.handles) relay.calls queue := by
    rw [Nat.add_comm]
    exact underway.carries
  have isCalled : relay.calls .producer = Call.onRing? relay.producer.call := rfl
  obtain ⟨queue', ⟨rest', rfl, whole, producing'⟩, carries', apart⟩ :=
    underway.producing.step carries isCalled (consumerHandles_le_one relay)
      underway.met_of_handles stepped
  have ends : relay.producer.handles = 0 → producer.handles = 0 := fun gone =>
    absurd stepped (underway.producing.rests_of_gone gone)
  refine ⟨queue ++ Call.put relay.producer.call producer.call, rest', ?_⟩
  refine ⟨underway.leads.of_files apart.files, apart.sole underway.sole, ?_, producing', ?_,
    ?_, underway.nobody, underway.took_eq, ?_, ?_⟩
  · rw [Nat.add_comm]
    exact carries'.of_calls (by rintro (_ | _) <;> rfl)
  · intro consumer member
    obtain ⟨settings, limit, size, consumed⟩ := underway.former consumer member
    exact ⟨settings, limit, size, consumed.mono ends id⟩
  · intro consumer running
    exact (underway.current consumer running).mono apart.files (by simp) ends id
  · rw [← underway.conserved, List.append_assoc]
  · rw [List.append_assoc, whole]
    exact underway.whole

theorem read (underway : relay.Underway config chunk key number input queue taken rest)
    {production : Production} {size : Nat} {data : Chunk size} {later : List UInt8}
    (isProgram : relay.producer.program = .produce production)
    (isPhase : production.phase = .reading size) (nonempty : data.val ≠ [])
    (whole : data.val ++ later = relay.producer.standardInput) :
    Underway
      { relay with
        producer := { relay.producer with standardInput := later }.goOn
          (.produce (production.inputRead size (.ok data))) }
      config chunk key number input queue taken rest := by
  obtain ⟨idle, producing'⟩ := underway.producing.read isProgram isPhase nonempty whole
  have carries := underway.carries
  refine { underway with producing := producing', carries := carries.of_calls ?_ }
  rintro (_ | _)
  · rw [calls, calls, idle]
    rfl
  · rfl

theorem consume (underway : relay.Underway config chunk key number input queue taken rest)
    {host : Host} {consumer consumer' : Party} (running : relay.current = some consumer)
    (stepped : consumer.step relay.host = some (host, consumer')) :
    consumer'.consumePhase? ≠ some .connecting ∧ consumer'.limit? = consumer.limit? ∧
      consumer'.chunk = consumer.chunk ∧ ∃ queue' taken', Underway
        { relay with
          host
          current := some consumer'
          took := relay.took ++ Call.took consumer.call consumer'.call }
        config chunk key number input queue' taken' rest := by
  have isCalled : relay.calls .consumer = Call.onRing? consumer.call := by
    rw [calls, running]
    rfl
  have carries : relay.host.Carries number ⟨key, config.capacity, false⟩
      (relay.producer.handles + consumer.handles) relay.calls queue := by
    have carries := underway.carries
    rwa [consumerHandles, running] at carries
  have few := relay.producer.handles_le_one
  have moves : relay.host.Moves number ⟨key, config.capacity, false⟩ relay.producer.handles
      relay.calls .consumer (fun queue' =>
        queue = Call.took consumer.call consumer'.call ++ queue' ∧
          Started host.memory key number queue' (relay.producer.handles = 0)
            (relay.former ≠ []) consumer' (taken ++ Call.took consumer.call consumer'.call) ∧
          consumer'.consumePhase? ≠ some .connecting ∧ consumer'.limit? = consumer.limit? ∧
          consumer'.chunk = consumer.chunk)
      host consumer' := by
    cases underway.current consumer running with
    | connecting settings limit size positive leads =>
        have misses : relay.producer.handles = 0 → relay.former ≠ [] := by
          intro gone first
          obtain ⟨rfl, -, sent | unmet | ⟨other, isOther, joined⟩⟩ :=
            underway.producing.of_gone gone
          · have conserved := underway.conserved
            rw [underway.took_eq, first] at conserved
            exact sent conserved.symm
          · exact unmet first
          · rw [running] at isOther
            cases isOther
            exact joined rfl
        obtain ⟨queue', ⟨whole, consuming'⟩, carries', apart⟩ :=
          Consuming.step_connecting carries isCalled underway.sole leads rfl few misses rfl
            stepped
        exact ⟨queue', ⟨whole, .connected settings limit size positive _ _ consuming',
          consuming'.joined, consuming'.limit?_eq, consuming'.chunk_eq⟩, carries', apart⟩
    | connected settings limit size positive _ _ consuming =>
        obtain ⟨queue', ⟨whole, consuming'⟩, carries', apart⟩ :=
          consuming.step carries isCalled positive few id stepped
        exact ⟨queue', ⟨whole, .connected settings limit size positive _ _ consuming',
          consuming'.joined, consuming'.limit?_eq.trans consuming.limit?_eq.symm,
          consuming'.chunk_eq.trans consuming.chunk_eq.symm⟩, carries', apart⟩
  obtain ⟨queue', ⟨whole, started', joined, sameLimit, sameChunk⟩, carries', apart⟩ := moves
  have shrinks : queue = [] → queue' = [] := by
    rintro rfl
    exact (List.append_eq_nil_iff.mp whole.symm).2
  refine ⟨joined, sameLimit, sameChunk, queue', taken ++ Call.took consumer.call consumer'.call, ?_⟩
  refine ⟨underway.leads.of_files apart.files, apart.sole underway.sole,
    carries'.of_calls (by rintro (_ | _) <;> rfl),
    underway.producing.mono shrinks fun _ => .inr ⟨consumer', rfl, joined⟩, underway.former,
    ?_, ?_, ?_, ?_, underway.whole⟩
  · rintro other ⟨⟩
    exact started'
  · intro nobody
    cases nobody
  · change relay.took ++ _ = _
    rw [underway.took_eq, List.append_assoc]
  · change relay.took ++ _ ++ queue' = relay.put
    rw [List.append_assoc, ← whole, underway.conserved]

/-- What was taken was written, as long as no consumer is at work. -/
theorem took_eq_outputs
    (underway : relay.Underway config chunk key number input queue taken rest)
    (alone : ∀ consumer, relay.current = some consumer → consumer.hasEnded = true) :
    relay.took = (relay.consumers.map Party.standardOutput).flatten := by
  rw [underway.took_eq]
  cases running : relay.current with
  | none =>
      rw [(underway.nobody running).2]
      simp [consumers, running]
  | some consumer =>
      obtain ⟨_, _, _, consumed⟩ :=
        (underway.current consumer running).consumed (alone consumer running)
      simp [consumers, running, consumed.standardOutput_eq]

theorem start (underway : relay.Underway config chunk key number input queue taken rest)
    {settings : Config} (limit : Option Nat) {size : Nat}
    (leads : settings.LeadsTo relay.host.memory .consumer key) (positive : 1 ≤ size)
    (alone : ∀ consumer, relay.current = some consumer → consumer.hasEnded = true) :
    Underway
      { relay with
        former := relay.consumers
        current := some (.consume settings none limit size) }
      config chunk key number input queue [] rest := by
  have isIdle : relay.consumerHandles = 0 ∧ relay.calls .consumer = none := by
    cases running : relay.current with
    | none => simp [consumerHandles, calls, running]
    | some consumer =>
        obtain ⟨_, _, _, consumed⟩ :=
          (underway.current consumer running).consumed (alone consumer running)
        simp [consumerHandles, calls, running, consumed.handles_eq, consumed.call_eq,
          Call.onRing?]
  have meets : relay.Met → relay.consumers ≠ [] := by
    rintro (former | ⟨consumer, running, -⟩)
    · simp [consumers, former]
    · simp [consumers, running]
  rw [Party.consume_eq settings limit positive]
  refine { underway with
    carries := ?_, producing := ?_, former := ?_, current := ?_, nobody := ?_, took_eq := ?_ }
  · have carries := underway.carries
    rw [isIdle.1] at carries
    refine carries.of_calls ?_
    rintro (_ | _)
    · rfl
    · rw [isIdle.2]
      rfl
  · exact underway.producing.mono id fun met => .inl (meets met)
  · intro other member
    rcases List.mem_append.mp member with before | now
    · obtain ⟨settings, limit, size, consumed⟩ := underway.former other before
      exact ⟨settings, limit, size, consumed.mono id fun former => meets (.inl former)⟩
    · have running : relay.current = some other := by simpa using now
      obtain ⟨settings, limit, size, consumed⟩ :=
        (underway.current other running).consumed (alone other running)
      rw [consumed.standardOutput_eq]
      exact ⟨settings, limit, size, consumed.mono id fun former => meets (.inl former)⟩
  · rintro other ⟨⟩
    exact .connecting settings limit size positive leads
  · intro nobody
    cases nobody
  · rw [List.append_nil]
    exact underway.took_eq_outputs alone

end Underway

namespace Sound

variable {host : Host} {config : Config} {chunk key : Nat} {input : List UInt8}
  {relay later : Relay}

theorem start (host : Host) (config : Config) (positive : 1 ≤ chunk) (key : Nat)
    (input : List UInt8) :
    Sound host config chunk key input (.start host config chunk input) := by
  rw [Relay.start, Party.produce_eq config input positive]
  exact .before .openingInput (.inl rfl)

/-- Once connected, the producer is about to take a buffer for chunks of at most half of the
ring. -/
theorem underway_of_connect (leads : config.LeadsTo host.memory .producer key)
    (nowhere : host.memory.regions.find? key = none) (positive : 1 ≤ chunk)
    {host' : Host} {producer : Party}
    (stepped : (Party.producing config chunk .empty .connecting none input none).step host =
      some (host', producer)) :
    Underway ⟨host', producer, [], none, [], []⟩ config chunk key
      host.memory.regions.regions.length input [] [] input ∧ producer.call = none := by
  rw [Party.step_produce rfl rfl rfl] at stepped
  simp only [Party.serve, Party.connect] at stepped
  obtain ⟨transport, joined, opened, holds, carries, sole, files⟩ :=
    Host.connect_producer (fun _ : Role => none) leads nowhere fun _ => rfl
  rw [opened] at stepped
  have capacity : transport.capacity? joined = some config.capacity ∧
      0 < config.capacity := by
    obtain ⟨region, found, accords, attended⟩ := carries
    have positive := attended.represents.capacity_pos
    have same : region.capacity = config.capacity := accords.capacity_eq
    rw [holds.capacity?_eq found, same]
    exact ⟨rfl, by rwa [← same]⟩
  cases stepped
  have moderate : config.capacity ≤ GuardedRing.greatestSize :=
    Nat.le_trans leads.capacity_le (by decide)
  refine ⟨⟨leads.of_files files, sole, carries.of_calls ?_, ?_, ?_, ?_, ?_, rfl, rfl, rfl⟩,
    rfl⟩
  · rintro (_ | _) <;> rfl
  · simp only [capacity.1, Production.connected, Production.chunkFor]
    refine .attached [] _ transport input none [] input holds (.allocating _ input ?_ ?_ ?_)
    · omega
    · omega
    · omega
  · intro consumer member
    cases member
  · intro consumer running
    cases running
  · intro nobody
    exact ⟨rfl, rfl⟩

/-- Everything that may happen leaves what is known of a relay true. -/
theorem step (leads : config.LeadsTo host.memory .producer key)
    (nowhere : host.memory.regions.find? key = none) (positive : 1 ≤ chunk)
    (sound : Sound host config chunk key input relay) (step : Step key relay later) :
    Sound host config chunk key input later := by
  cases sound with
  | underway relay number queue taken rest underway =>
      cases step with
      | produce host' producer stepped =>
          obtain ⟨queue', rest', underway'⟩ := underway.produce stepped
          exact .underway _ number queue' taken rest' underway'
      | read production size data later isProgram isPhase nonempty whole =>
          exact .underway _ number queue taken rest
            (underway.read isProgram isPhase nonempty whole)
      | consume host' consumer consumer' running stepped =>
          obtain ⟨-, -, -, queue', taken', underway'⟩ := underway.consume running stepped
          exact .underway _ number queue' taken' rest underway'
      | start settings limit size leads positive present alone =>
          exact .underway _ number queue [] rest
            (underway.start limit leads positive alone)
  | before phase early =>
      cases step with
      | produce host' producer stepped =>
          rcases early with rfl | rfl
          · rw [Party.step_produce rfl rfl rfl] at stepped
            cases stepped
            exact .before .connecting (.inr rfl)
          · obtain ⟨underway', idle⟩ := underway_of_connect leads nowhere positive stepped
            rw [idle]
            exact .underway _ _ [] [] input underway'
      | read production size data later isProgram isPhase nonempty whole =>
          cases isProgram
          rcases early with rfl | rfl <;> cases isPhase
      | consume host' consumer consumer' running stepped => cases running
      | start settings limit size leadsHere positive present alone =>
          rw [SharedMemory.regionAt?, leadsHere.derived] at present
          simp [nowhere] at present

end Sound

end Relay

end BoundedStream
