import BoundedStream.Proofs.Stream.Carrier

/-!
# The consumer of a stream

A consumer asks the ring for no more than it holds, so that it never waits for bytes, and
writes all that it takes.  It ends its stream at its limit, or when everything was taken:
it finds the ring empty and no other handle, and then the producer is gone for good.
-/

namespace BoundedStream

/-- A consumer that writes to the standard output. -/
def Party.consuming (config : Config) (limit : Option Nat) (chunk : Nat) (summary : Summary)
    (phase : ConsumePhase) (transport : Option Transport) (standardOutput : List UInt8)
    (call : Option Call) : Party :=
  ⟨.consume ⟨config, none, limit, chunk, summary, phase⟩, transport, [], standardOutput, none,
    none, call, none⟩

theorem Party.consume_eq (config : Config) (limit : Option Nat) {chunk : Nat}
    (positive : 1 ≤ chunk) : Party.consume config none limit chunk =
      .consuming config limit chunk .empty .connecting none [] none := by
  have nonzero : chunk ≠ 0 := Nat.ne_of_gt positive
  simp [consume, start, consuming, Consumption.start, nonzero]

/-- The bytes reach the limit of a consumer, if it has one. -/
def ReachesLimit (limit : Option Nat) (bytes : List UInt8) : Prop :=
  ∃ most, limit = some most ∧ most ≤ bytes.length

namespace ConsumePhase

variable (config : Config) (limit : Option Nat) (number : Nat) (queue : List UInt8)
  (gone : Prop) (written : List UInt8)

/-- What a consumer relies on in its phase: its call and all that it has taken. -/
inductive Stands : ConsumePhase → Option Call → List UInt8 → Prop
  | creatingOutput : Stands .creatingOutput none written
  | allocating : Stands .allocating none written
  | counting (want : Nat) (call : Option Call) (positive : 1 ≤ want)
      (undecided : Call.Undecided number .measure call) :
      Stands (.counting want) call written
  | counted (want pending : Nat) (phase : RingPhase) (positive : 1 ≤ want)
      (decided : phase.decided? = some (.measured pending)) (held : pending ≤ queue.length) :
      Stands (.counting want) (some (.ring (.region number) ⟨.measure, phase⟩)) written
  | observing (want : Nat) (positive : 1 ≤ want) : Stands (.observing want) none written
  | resting (want : Nat) (positive : 1 ≤ want) : Stands (.resting want) none written
  | receiving (length : Nat) (call : Option Call) (positive : 1 ≤ length)
      (held : length ≤ queue.length)
      (undecided : Call.Undecided number (.consume length true) call) :
      Stands (.receiving length) call written
  | received (length : Nat) (bytes : List UInt8) (phase : RingPhase) (nonempty : bytes ≠ [])
      (fits : bytes.length ≤ length) (decided : phase.decided? = some (.consumed bytes)) :
      Stands (.receiving length)
        (some (.ring (.region number) ⟨.consume length true, phase⟩)) (written ++ bytes)
  | writing (bytes : List UInt8) : Stands (.writing bytes) none (written ++ bytes)
  | flushing (ended : ReachesLimit limit written ∨ gone) : Stands .flushing none written
  | leaving (ended : ReachesLimit limit written ∨ gone) :
      Stands (.leaving (.ok ⟨.consumer, config.kind, .update .empty written, limit⟩)) none
        written

variable {config limit number queue gone written}

/-- What a consumer knows stays true while others only put bytes in the ring. -/
theorem Stands.mono {phase : ConsumePhase} {call : Option Call} {taken queue' : List UInt8}
    {gone' : Prop} (stands : phase.Stands config limit number queue gone written call taken)
    (grows : queue.length ≤ queue'.length) (ends : gone → gone') :
    phase.Stands config limit number queue' gone' written call taken := by
  cases stands with
  | creatingOutput => exact .creatingOutput
  | allocating => exact .allocating
  | counting want call positive undecided => exact .counting want call positive undecided
  | counted want pending phase positive decided held =>
      exact .counted want pending phase positive decided (Nat.le_trans held grows)
  | observing want positive => exact .observing want positive
  | resting want positive => exact .resting want positive
  | receiving length call positive held undecided =>
      exact .receiving length call positive (Nat.le_trans held grows) undecided
  | received length bytes phase nonempty fits decided =>
      exact .received length bytes phase nonempty fits decided
  | writing bytes => exact .writing bytes
  | flushing ended => exact .flushing (ended.imp_right ends)
  | leaving ended => exact .leaving (ended.imp_right ends)

end ConsumePhase

/-- A consumer that has ended: with all that it took written, because it came when the region
was gone, or because its buffer would be greater than any object. -/
inductive Consumed (config : Config) (limit : Option Nat) (chunk : Nat) (gone late : Prop) :
    Party → List UInt8 → Prop
  | left (taken : List UInt8) (ended : ReachesLimit limit taken ∨ gone) :
      Consumed config limit chunk gone late
        (.consuming config limit chunk (.update .empty taken)
          (.finished (.ok ⟨.consumer, config.kind, .update .empty taken, limit⟩)) none taken
          none)
        taken
  | missed (error : RunError) (isLate : late) :
      Consumed config limit chunk gone late
        (.consuming config limit chunk .empty (.finished (.error error)) none [] none) []
  | crashed (taken : List UInt8) (great : GuardedRing.greatestSize < chunk) :
      Consumed config limit chunk gone late
        { Party.consuming config limit chunk (.update .empty taken) .allocating none taken none
            with crash := some Party.unallocatable }
        taken

/-- A consumer at work on the ring of a region, or done with it. -/
inductive Consuming (config : Config) (limit : Option Nat) (chunk number : Nat)
    (queue : List UInt8) (gone late : Prop) : Party → List UInt8 → Prop
  | attached (written : List UInt8) (phase : ConsumePhase) (transport : Transport)
      (call : Option Call) (taken : List UInt8) (holds : transport.Holds number)
      (stands : phase.Stands config limit number queue gone written call taken) :
      Consuming config limit chunk number queue gone late
        (.consuming config limit chunk (.update .empty written) phase (some transport) written
          call)
        taken
  | ended (party : Party) (taken : List UInt8)
      (consumed : Consumed config limit chunk gone late party taken) :
      Consuming config limit chunk number queue gone late party taken

namespace Consumed

variable {config : Config} {limit : Option Nat} {chunk : Nat} {gone late : Prop}
  {party : Party} {taken : List UInt8}
  (consumed : Consumed config limit chunk gone late party taken)

include consumed

theorem standardOutput_eq : party.standardOutput = taken := by
  cases consumed <;> rfl

theorem handles_eq : party.handles = 0 := by
  cases consumed <;> rfl

theorem call_eq : party.call = none := by
  cases consumed <;> rfl

theorem mono {gone' late' : Prop} (ends : gone → gone') (misses : late → late') :
    Consumed config limit chunk gone' late' party taken := by
  cases consumed with
  | left taken ended => exact .left taken (ended.imp_right ends)
  | missed error isLate => exact .missed error (misses isLate)
  | crashed taken great => exact .crashed taken great

/-- A consumer without a limit that came in time ends well, once the producer is gone. -/
theorem of_endless (endless : limit = none) (inTime : ¬ late)
    (moderate : chunk ≤ GuardedRing.greatestSize) :
    gone ∧ ∃ report, party.result? = some (.reported (.ok report)) := by
  subst endless
  cases consumed with
  | missed error isLate => exact (inTime isLate).elim
  | crashed taken great => omega
  | left taken ended =>
      refine ⟨ended.resolve_left ?_, _, rfl⟩
      rintro ⟨most, isLimit, -⟩
      cases isLimit

end Consumed

namespace Consumption

theorem received_ofList (consumption : Consumption) {length : Nat} {bytes : List UInt8}
    (nonempty : bytes ≠ []) (fits : bytes.length ≤ length) :
    consumption.received (.ok (.ofList length bytes)) = consumption.goTo (.writing bytes) := by
  have whole : Chunk.ofList length bytes = ⟨bytes, fits⟩ :=
    Subtype.ext (List.take_of_length_le fits)
  rw [whole]
  cases bytes with
  | nil => exact absurd rfl nonempty
  | cons byte rest => rfl

end Consumption

namespace Consuming

variable {Caller : Type} [DecidableEq Caller] {config : Config} {limit : Option Nat}
  {chunk number : Nat} {founding : Founding} {others : Nat}
  {calls : Caller → Option RingCall} {caller : Caller} {queue : List UInt8}
  {gone late : Prop} {host host' : Host} {party party' : Party} {taken : List UInt8}

/-- What a step of a consumer makes of its stream: it has taken a part of the queue. -/
def Takes (config : Config) (limit : Option Nat) (chunk number : Nat) (queue : List UInt8)
    (gone late : Prop) (before : Option Call) (taken : List UInt8) (party' : Party)
    (queue' : List UInt8) : Prop :=
  queue = Call.took before party'.call ++ queue' ∧
    Consuming config limit chunk number queue' gone late party'
      (taken ++ Call.took before party'.call)

theorem takes_of_took {before : Option Call} {data queue' : List UInt8}
    (isTook : Call.took before party'.call = data) (whole : data ++ queue' = queue)
    (consuming' : Consuming config limit chunk number queue' gone late party'
      (taken ++ data)) :
    Takes config limit chunk number queue gone late before taken party' queue' := by
  subst isTook
  exact ⟨whole.symm, consuming'⟩

theorem takes_of_nothing {before : Option Call}
    (nothing : Call.took before party'.call = [])
    (consuming' : Consuming config limit chunk number queue gone late party' taken) :
    Takes config limit chunk number queue gone late before taken party' queue :=
  takes_of_took nothing rfl (by rwa [List.append_nil])

/-- A round that begins ends the stream at the limit, and else counts. -/
theorem of_begin {transport : Transport} {phase : ConsumePhase} (positive : 1 ≤ chunk)
    (holds : transport.Holds number) :
    Consuming config limit chunk number queue gone late
      ⟨.consume (⟨config, none, limit, chunk, .update .empty taken, phase⟩ :
          Consumption).begin, some transport, [], taken, none, none, none, none⟩ taken := by
  have counts : ∀ want, 1 ≤ want → Consuming config limit chunk number queue gone late
      (.consuming config limit chunk (.update .empty taken) (.counting want) (some transport)
        taken none) taken := fun want wanted =>
    .attached taken _ transport none taken holds
      (.counting want none wanted (Call.undecided_none number _))
  cases limit with
  | none => exact counts chunk positive
  | some most =>
      simp only [Consumption.begin, Consumption.want?, Summary.bytes_update, Summary.empty,
        Nat.zero_add]
      by_cases reached : most ≤ taken.length
      · rw [if_pos reached]
        exact .attached taken _ transport none taken holds
          (.flushing (.inl ⟨most, rfl, reached⟩))
      · rw [if_neg reached]
        exact counts _ (by omega)

omit [DecidableEq Caller] in
/-- A consumer sees from the number of handles whether it is alone. -/
theorem showsEnd_references {transport : Transport}
    (carries : host.Carries number founding (others + 1) calls queue)
    (holds : transport.Holds number) (few : others ≤ 1) :
    Consumption.showsEnd (transport.references? host) = decide (others = 0) := by
  rw [carries.references?_eq holds]
  obtain rfl | rfl : others = 0 ∨ others = 1 := by omega
  · rfl
  · rfl

section

variable (carries : host.Carries number founding (others + party.handles) calls queue)
  (isCalled : calls caller = Call.onRing? party.call)

include carries isCalled

variable {written : List UInt8} {transport : Transport} {call : Option Call}

private theorem moves_of_counting {want : Nat} (holds : transport.Holds number)
    (positive : 1 ≤ want) (undecided : Call.Undecided number .measure call)
    (isParty : party = .consuming config limit chunk (.update .empty taken) (.counting want)
      (some transport) taken call)
    (stepped : party.step host = some (host', party')) :
    host.Moves number founding others calls caller
      (Takes config limit chunk number queue gone late party.call taken party') host'
      party' := by
  subst isParty
  rw [Party.step_consume rfl rfl rfl] at stepped
  simp only [Party.serve] at stepped
  have pursuit := Party.pursuit_of_pursue rfl holds.pendingCall?_eq undecided.onRing stepped
  refine Host.moves_of_undecided carries isCalled pursuit undecided ?_ ?_
  · intro call open? quiet
    exact takes_of_nothing (Call.took_of_quiet quiet)
      (.attached taken _ transport _ _ holds (.counting want call positive open?))
  · rintro after outcome queue' decided ⟨⟩ effect
    exact takes_of_nothing (Call.took_of_effect effect)
      (.attached taken _ transport _ _ holds (.counted want _ after positive decided
        (Nat.le_refl _)))

private theorem moves_of_counted {want pending : Nat} {phase : RingPhase}
    (holds : transport.Holds number) (positive : 1 ≤ want)
    (decided : phase.decided? = some (.measured pending)) (held : pending ≤ queue.length)
    (isParty : party = .consuming config limit chunk (.update .empty taken) (.counting want)
      (some transport) taken (some (.ring (.region number) ⟨.measure, phase⟩)))
    (stepped : party.step host = some (host', party')) :
    host.Moves number founding others calls caller
      (Takes config limit chunk number queue gone late party.call taken party') host'
      party' := by
  subst isParty
  rw [Party.step_consume rfl rfl rfl] at stepped
  simp only [Party.serve] at stepped
  have pursuit := Party.pursuit_of_pursue rfl holds.pendingCall?_eq
    (by rintro other ⟨⟩; exact ⟨_, rfl⟩) stepped
  refine Host.moves_of_decided carries isCalled pursuit rfl decided ?_ rfl ?_
  · intro after decided quiet
    exact takes_of_nothing (Call.took_of_quiet quiet)
      (.attached taken _ transport _ _ holds (.counted want pending after positive decided
        held))
  · refine takes_of_nothing (Call.took_none _) ?_
    cases pending with
    | zero => exact .attached taken _ transport _ _ holds (.observing want positive)
    | succ pending =>
        exact .attached taken _ transport _ _ holds (.receiving (min (pending + 1) want) _
          (by omega) (by omega) (Call.undecided_none number _))

private theorem moves_of_observing {want : Nat} (holds : transport.Holds number)
    (positive : 1 ≤ want) (few : others ≤ 1) (ends : others = 0 → gone)
    (isParty : party = .consuming config limit chunk (.update .empty taken) (.observing want)
      (some transport) taken none)
    (stepped : party.step host = some (host', party')) :
    host.Moves number founding others calls caller
      (Takes config limit chunk number queue gone late party.call taken party') host'
      party' := by
  subst isParty
  rw [Party.step_consume rfl rfl rfl] at stepped
  cases stepped
  refine Host.moves_of_quiet carries isCalled (by simp [Party.consuming, Call.onRing?]) rfl
    rfl (takes_of_nothing (Call.took_none _) ?_)
  have shows := showsEnd_references carries holds few
  simp only [Party.references?, Party.consuming, Option.bind_some,
    Consumption.referencesCounted, shows]
  split
  · rename_i alone
    exact .attached taken _ transport _ _ holds
      (.flushing (.inr (ends (of_decide_eq_true alone))))
  · exact .attached taken _ transport _ _ holds (.resting want positive)

private theorem moves_of_receiving {length : Nat} (holds : transport.Holds number)
    (positive : 1 ≤ length) (held : length ≤ queue.length)
    (undecided : Call.Undecided number (.consume length true) call)
    (isParty : party = .consuming config limit chunk (.update .empty taken)
      (.receiving length) (some transport) taken call)
    (stepped : party.step host = some (host', party')) :
    host.Moves number founding others calls caller
      (Takes config limit chunk number queue gone late party.call taken party') host'
      party' := by
  subst isParty
  rw [Party.step_consume rfl rfl rfl] at stepped
  simp only [Party.serve] at stepped
  have pursuit := Party.pursuit_of_pursue rfl
    (holds.consumeCall?_eq (Nat.ne_of_gt positive)) undecided.onRing stepped
  have admitted : (RingRequest.consume length true).rejection? founding.capacity = none :=
    RingRequest.rejection?_eq_none positive (Nat.le_trans held carries.length_le)
  refine Host.moves_of_undecided carries isCalled pursuit undecided ?_ ?_
  · intro call open? quiet
    exact takes_of_nothing (Call.took_of_quiet quiet)
      (.attached taken _ transport _ _ holds (.receiving length call positive held open?))
  · intro after outcome queue' decided answered effect
    obtain ⟨rfl, enough, rfl⟩ := GuardedRing.eq_of_consume admitted answered
    have isFull : (queue.take length).length = length := List.length_take_of_le enough
    have nonempty : queue.take length ≠ [] := by
      intro nothing
      rw [nothing, List.length_nil] at isFull
      omega
    exact takes_of_took (Call.took_of_effect effect) (List.take_append_drop length queue)
      (.attached taken _ transport _ _ holds (.received length _ after nonempty
        (Nat.le_of_eq isFull) decided))

private theorem moves_of_received {length : Nat} {bytes : List UInt8} {phase : RingPhase}
    (holds : transport.Holds number) (nonempty : bytes ≠ []) (fits : bytes.length ≤ length)
    (decided : phase.decided? = some (.consumed bytes))
    (isParty : party = .consuming config limit chunk (.update .empty written)
      (.receiving length) (some transport) written
      (some (.ring (.region number) ⟨.consume length true, phase⟩)))
    (isTaken : taken = written ++ bytes)
    (stepped : party.step host = some (host', party')) :
    host.Moves number founding others calls caller
      (Takes config limit chunk number queue gone late party.call taken party') host'
      party' := by
  subst isParty isTaken
  have positive : length ≠ 0 := by
    have := List.length_pos_iff.mpr nonempty
    omega
  rw [Party.step_consume rfl rfl rfl] at stepped
  simp only [Party.serve] at stepped
  have pursuit := Party.pursuit_of_pursue rfl (holds.consumeCall?_eq positive)
    (by rintro other ⟨⟩; exact ⟨_, rfl⟩) stepped
  refine Host.moves_of_decided carries isCalled pursuit rfl decided ?_ rfl ?_
  · intro after decided quiet
    exact takes_of_nothing (Call.took_of_quiet quiet)
      (.attached written _ transport _ _ holds (.received length bytes after nonempty fits
        decided))
  · refine takes_of_nothing (Call.took_none _) ?_
    rw [Consumption.received_ofList _ nonempty fits]
    exact .attached written _ transport _ _ holds (.writing bytes)

/-- A consumer takes its buffer, unless that would be greater than any object: then it gives
its endpoint up. -/
private theorem moves_of_allocating (holds : transport.Holds number) (positive : 1 ≤ chunk)
    (few : others ≤ 1)
    (isParty : party = .consuming config limit chunk (.update .empty taken) .allocating
      (some transport) taken none)
    (stepped : party.step host = some (host', party')) :
    host.Moves number founding others calls caller
      (Takes config limit chunk number queue gone late party.call taken party') host'
      party' := by
  subst isParty
  rw [Party.step_consume rfl rfl rfl] at stepped
  simp only [Party.serve, Party.allocate] at stepped
  by_cases moderate : chunk ≤ GuardedRing.greatestSize
  · rw [if_pos moderate] at stepped
    cases stepped
    refine Host.moves_of_quiet carries isCalled (by simp [Party.consuming, Call.onRing?]) rfl
      rfl (takes_of_nothing (Call.took_none _) ?_)
    exact of_begin positive holds
  · rw [if_neg moderate] at stepped
    cases stepped
    exact Host.moves_of_leave carries isCalled (by omega) rfl holds rfl rfl rfl
      (takes_of_nothing (Call.took_none _)
        (.ended _ _ (.crashed taken (Nat.lt_of_not_le moderate))))

/-- A consumer that connects joins the region, unless everybody has left it. -/
theorem step_connecting (sole : host.memory.regions.Sole founding.key number)
    (leads : config.LeadsTo host.memory .consumer founding.key)
    (standing : founding.removed = false) (few : others ≤ 1) (misses : others = 0 → late)
    (isParty : party = .consuming config limit chunk .empty .connecting none [] none)
    (stepped : party.step host = some (host', party')) :
    host.Moves number founding others calls caller
      (Takes config limit chunk number queue gone late party.call [] party') host' party' := by
  subst isParty
  rw [Party.step_consume rfl rfl rfl] at stepped
  have absent : host.Carries number founding others calls queue := carries
  have connected := absent.connect leads sole standing (by omega)
  simp only [Party.serve, Party.connect] at stepped
  rcases connected with ⟨deserted, error, refused⟩ | ⟨-, transport, joined, opened, holds,
    carries', apart⟩
  · rw [refused] at stepped
    cases stepped
    refine Host.moves_of_quiet carries isCalled (by simp [Party.consuming, Call.onRing?]) rfl
      rfl (takes_of_nothing (Call.took_none _) ?_)
    exact .ended _ _ (.missed _ (misses deserted))
  · rw [opened] at stepped
    cases stepped
    refine ⟨queue, takes_of_nothing (Call.took_none _) ?_, ?_, apart⟩
    · exact .attached [] _ transport none [] holds (.creatingOutput)
    · refine carries'.replace caller none ?_ (by simp)
      rw [isCalled]
      simp [Party.consuming, Call.onRing?]

end

/-- Every step of a consumer leaves it a consumer, and takes from the queue what it adds to
what it has taken. -/
theorem step
    (consuming : Consuming config limit chunk number queue gone late party taken)
    (carries : host.Carries number founding (others + party.handles) calls queue)
    (isCalled : calls caller = Call.onRing? party.call) (positive : 1 ≤ chunk)
    (few : others ≤ 1) (ends : others = 0 → gone)
    (stepped : party.step host = some (host', party')) :
    host.Moves number founding others calls caller
      (Takes config limit chunk number queue gone late party.call taken party') host'
      party' := by
  cases consuming with
  | ended party taken consumed => cases consumed <;> cases stepped
  | attached written phase transport call taken holds stands =>
      cases stands with
      | creatingOutput =>
          rw [Party.step_consume rfl rfl rfl] at stepped
          cases stepped
          refine Host.moves_of_quiet carries isCalled
            (by simp [Party.consuming, Call.onRing?]) rfl rfl
            (takes_of_nothing (Call.took_none _) ?_)
          exact .attached _ _ transport _ _ holds .allocating
      | allocating =>
          exact moves_of_allocating carries isCalled holds positive few rfl stepped
      | counting want call positive undecided =>
          exact moves_of_counting carries isCalled holds positive undecided rfl stepped
      | counted want pending phase positive decided held =>
          exact moves_of_counted carries isCalled holds positive decided held rfl stepped
      | observing want positive =>
          exact moves_of_observing carries isCalled holds positive few ends rfl stepped
      | resting want wanted =>
          rw [Party.step_consume rfl rfl rfl] at stepped
          cases stepped
          refine Host.moves_of_quiet carries isCalled
            (by simp [Party.consuming, Call.onRing?]) rfl rfl
            (takes_of_nothing (Call.took_none _) ?_)
          exact .attached taken _ transport _ _ holds (.counting want none wanted
            (Call.undecided_none number _))
      | receiving length call positive held undecided =>
          exact moves_of_receiving carries isCalled holds positive held undecided rfl stepped
      | received length bytes phase nonempty fits decided =>
          exact moves_of_received carries isCalled holds nonempty fits decided rfl rfl stepped
      | writing bytes =>
          rw [Party.step_consume rfl rfl rfl] at stepped
          cases stepped
          refine Host.moves_of_quiet carries isCalled
            (by simp [Party.consuming, Call.onRing?]) rfl rfl
            (takes_of_nothing (Call.took_none _) ?_)
          simp only [Party.goOn, Party.consuming, Consumption.written,
            ← Summary.update_append]
          exact of_begin positive holds
      | flushing ended =>
          rw [Party.step_consume rfl rfl rfl] at stepped
          cases stepped
          refine Host.moves_of_quiet carries isCalled
            (by simp [Party.consuming, Call.onRing?]) rfl rfl
            (takes_of_nothing (Call.took_none _) ?_)
          exact .attached taken _ transport _ _ holds (.leaving ended)
      | leaving ended =>
          rw [Party.step_consume rfl rfl rfl] at stepped
          cases stepped
          exact Host.moves_of_leave carries isCalled (by omega) rfl holds rfl rfl rfl
            (takes_of_nothing (Call.took_none _) (.ended _ _ (.left taken ended)))

theorem joined (consuming : Consuming config limit chunk number queue gone late party taken) :
    party.consumePhase? ≠ some .connecting := by
  cases consuming with
  | attached written phase transport call taken holds stands =>
      cases stands <;> simp [Party.consumePhase?, Party.consuming]
  | ended party taken consumed =>
      cases consumed <;> simp [Party.consumePhase?, Party.consuming]

theorem consumed (consuming : Consuming config limit chunk number queue gone late party taken)
    (hasEnded : party.hasEnded = true) :
    Consumed config limit chunk gone late party taken := by
  cases consuming with
  | ended party taken consumed => exact consumed
  | attached written phase transport call taken holds stands =>
      cases stands <;> cases hasEnded

/-- A consumer at work has its handle until it ends. -/
theorem handles_of_unfinished
    (consuming : Consuming config limit chunk number queue gone late party taken)
    (unfinished : party.hasEnded = false) : party.handles = 1 := by
  cases consuming with
  | ended party taken consumed => cases consumed <;> cases unfinished
  | attached written phase transport call taken holds stands => rfl

theorem limit?_eq
    (consuming : Consuming config limit chunk number queue gone late party taken) :
    party.limit? = limit := by
  cases consuming with
  | attached written phase transport call taken holds stands => rfl
  | ended party taken consumed => cases consumed <;> rfl

theorem chunk_eq
    (consuming : Consuming config limit chunk number queue gone late party taken) :
    party.chunk = chunk := by
  cases consuming with
  | attached written phase transport call taken holds stands => rfl
  | ended party taken consumed => cases consumed <;> rfl

theorem mono {queue' : List UInt8} {gone' late' : Prop}
    (consuming : Consuming config limit chunk number queue gone late party taken)
    (grows : queue.length ≤ queue'.length) (ends : gone → gone') (misses : late → late') :
    Consuming config limit chunk number queue' gone' late' party taken := by
  cases consuming with
  | attached written phase transport call taken holds stands =>
      exact .attached written phase transport call taken holds (stands.mono grows ends)
  | ended party taken consumed => exact .ended party taken (consumed.mono ends misses)

end Consuming

end BoundedStream
