import BoundedStream.Proofs.Stream.Progress
import BoundedStream.Proofs.Stream.Relay

/-!
# Completion

A producer beside a single consumer without a limit never comes to a point from which the
two cannot both end.  Whoever holds the mutex goes on until it leaves it.  Then the consumer
goes on as long as the ring holds bytes or the producer is gone, and else the producer.
-/

namespace BoundedStream

/-- One, as long as a consumer has not come to the region. -/
def Party.absence (party : Party) : Nat :=
  match party.consumePhase? with
  | some .connecting => 1
  | _ => 0

theorem Party.absence_of_joined {party : Party}
    (joined : party.consumePhase? ≠ some .connecting) : party.absence = 0 := by
  unfold absence
  split
  · rename_i connecting
    exact absurd connecting joined
  · rfl

namespace Relay

/-- Both sides have ended well, and the consumer has written all of the input. -/
def Complete (relay : Relay) (input : List UInt8) : Prop :=
  (∃ report, relay.producer.result? = some (.reported (.ok report))) ∧
    ∃ consumer report, relay.current = some consumer ∧
      consumer.result? = some (.reported (.ok report)) ∧ consumer.standardOutput = input

/-- A single consumer without a limit, for whose chunks there is a buffer, runs beside a
producer. -/
structure Paired (config : Config) (chunk key : Nat) (input : List UInt8) (relay : Relay)
    (consumer : Party) : Prop where
  underway : ∃ number queue taken rest,
    relay.Underway config chunk key number input queue taken rest
  first : relay.former = []
  running : relay.current = some consumer
  endless : consumer.limit? = none
  moderate : consumer.chunk ≤ GuardedRing.greatestSize

/-- It is the producer's turn: it is still there, and all that it sent was taken. -/
def Drained (relay : Relay) : Prop := relay.producer.handles ≠ 0 ∧ relay.put = relay.took

instance (relay : Relay) : Decidable relay.Drained := inferInstanceAs (Decidable (_ ∧ _))

/-- What there is to do: bytes to put and to take, a producer that is to leave and a consumer
that is to come. -/
def chores (relay : Relay) (input : List UInt8) (consumer : Party) : Nat :=
  (input.length - relay.put.length) + (input.length - relay.took.length) +
    relay.producer.handles + consumer.absence

/-- How far off the next change of the chores is. -/
def distance (relay : Relay) (consumer : Party) : Nat :=
  if relay.Drained then relay.producer.produceRank + consumer.grip
  else consumer.consumeRank relay.producer.handles + relay.producer.grip

/-- There is less to do, or no more and the next change of that is closer. -/
def Closer (input : List UInt8) (later : Relay) (consumer' : Party) (relay : Relay)
    (consumer : Party) : Prop :=
  later.chores input consumer' < relay.chores input consumer ∨
    later.chores input consumer' ≤ relay.chores input consumer ∧
      later.distance consumer' < relay.distance consumer

/-- Somebody can take a step that leaves less to do, or comes closer to that. -/
def Goes (config : Config) (chunk key : Nat) (input : List UInt8) (relay : Relay)
    (consumer : Party) : Prop :=
  ∃ role later consumer', relay.advance role = some later ∧
    Paired config chunk key input later consumer' ∧ Closer input later consumer' relay consumer

variable {config : Config} {chunk key : Nat} {input : List UInt8}

namespace Paired

variable {relay : Relay} {consumer : Party}
  (paired : Paired config chunk key input relay consumer)

include paired

/-- A consumer that comes, takes bytes, or comes closer to that makes a useful step. -/
theorem consume {host : Host} {consumer' : Party}
    (stepped : consumer.step relay.host = some (host, consumer'))
    (near : consumer.consumePhase? = some .connecting ∨
      Call.took consumer.call consumer'.call ≠ [] ∨
      relay.Drained ∧ consumer'.grip < consumer.grip ∨
      ¬ relay.Drained ∧ consumer'.consumeRank relay.producer.handles <
        consumer.consumeRank relay.producer.handles) :
    Goes config chunk key input relay consumer := by
  obtain ⟨number, queue, taken, rest, underway⟩ := paired.underway
  obtain ⟨joined, sameLimit, sameChunk, queue', taken', underway'⟩ :=
    underway.consume paired.running stepped
  have advanced : relay.advance .consumer = some
      { relay with
        host
        current := some consumer'
        took := relay.took ++ Call.took consumer.call consumer'.call } := by
    simp [advance, paired.running, stepped]
  refine ⟨_, _, _, advanced, ⟨⟨number, queue', taken', rest, underway'⟩, paired.first, rfl,
    sameLimit.trans paired.endless, sameChunk ▸ paired.moderate⟩, ?_⟩
  have fits := underway'.took_length_le
  have come := Party.absence_of_joined joined
  simp only [List.length_append] at fits
  simp only [Closer, chores, List.length_append, come]
  by_cases nothing : Call.took consumer.call consumer'.call = []
  · rcases near with connecting | taking | ⟨drained, nearer⟩ | ⟨undrained, nearer⟩
    · have absent : consumer.absence = 1 := by simp [Party.absence, connecting]
      left
      omega
    · exact absurd nothing taking
    · refine .inr ⟨by omega, ?_⟩
      rw [distance, distance, if_pos drained, if_pos (by simpa [Drained, nothing] using drained)]
      exact Nat.add_lt_add_left nearer _
    · refine .inr ⟨by omega, ?_⟩
      rw [distance, distance, if_neg undrained,
        if_neg (by simpa [Drained, nothing] using undrained)]
      exact Nat.add_lt_add_right nearer _
  · have some := List.length_pos_iff.mpr nothing
    left
    omega

/-- A producer that puts bytes in the ring, or comes closer to that, makes a useful step. -/
theorem produce {host : Host} {producer : Party}
    (stepped : relay.producer.step relay.host = some (host, producer))
    (near : Call.put relay.producer.call producer.call ≠ [] ∨
      relay.Drained ∧ producer.produceRank < relay.producer.produceRank ∨
      ¬ relay.Drained ∧ producer.grip < relay.producer.grip) :
    Goes config chunk key input relay consumer := by
  obtain ⟨number, queue, taken, rest, underway⟩ := paired.underway
  obtain ⟨queue', rest', underway'⟩ := underway.produce stepped
  have advanced : relay.advance .producer = some
      { relay with
        host
        producer
        put := relay.put ++ Call.put relay.producer.call producer.call } := by
    simp [advance, stepped]
  refine ⟨_, _, consumer, advanced, ⟨⟨number, queue', taken, rest', underway'⟩, paired.first,
    paired.running, paired.endless, paired.moderate⟩, ?_⟩
  have fits := underway'.put_length_le
  have few := producer.handles_le_one
  have attached : relay.producer.handles ≠ 0 := fun gone =>
    underway.producing.rests_of_gone gone stepped
  simp only [List.length_append] at fits
  simp only [Closer, chores, List.length_append]
  by_cases nothing : Call.put relay.producer.call producer.call = []
  · by_cases leaves : producer.handles = 0
    · left
      omega
    · have same : producer.handles = relay.producer.handles := by
        have most := relay.producer.handles_le_one
        omega
      refine .inr ⟨by omega, ?_⟩
      rcases near with putting | ⟨drained, nearer⟩ | ⟨undrained, nearer⟩
      · exact absurd nothing putting
      · rw [distance, distance, if_pos drained,
          if_pos (by simpa [Drained, nothing, same] using drained)]
        exact Nat.add_lt_add_right nearer _
      · rw [distance, distance, if_neg undrained, same,
          if_neg (by simpa [Drained, nothing, same] using undrained)]
        exact Nat.add_lt_add_left nearer _
  · have some := List.length_pos_iff.mpr nothing
    left
    omega

variable {number : Nat} {queue taken rest : List UInt8}
  (underway : relay.Underway config chunk key number input queue taken rest)

include underway

/-- Once all was taken, the producer goes on when the consumer has left the mutex. -/
private theorem goes_of_drained (drained : relay.Drained) (attached : consumer.handles = 1)
    (release : ∀ call, Call.onRing? consumer.call = some call → call.phase.holds = true →
      ∃ host' consumer', consumer.step relay.host = some (host', consumer') ∧
        consumer'.grip < consumer.grip) : Goes config chunk key input relay consumer := by
  by_cases inside : ∃ call, Call.onRing? consumer.call = some call ∧ call.phase.holds = true
  · obtain ⟨call, running, holds⟩ := inside
    obtain ⟨host', consumer', stepped, closer⟩ := release call running holds
    exact paired.consume stepped (.inr (.inr (.inl ⟨drained, closer⟩)))
  · have empty : queue = [] := by
      have conserved := underway.conserved
      rw [drained.2] at conserved
      simpa using conserved
    subst empty
    have carries := underway.carries
    rw [consumerHandles, paired.running, Option.elim_some, attached, Nat.add_comm] at carries
    have alone : ∀ other call, other ≠ .producer → relay.calls other = some call →
        call.phase.holds = false := by
      rintro (_ | _) call differs present
      · exact absurd rfl differs
      · rw [calls, paired.running] at present
        by_contra holds
        exact inside ⟨call, present, by simpa using holds⟩
    obtain ⟨host', producer', stepped, near⟩ := underway.producing.nears carries rfl alone
      (underway.producing.unfinished_of_attached drained.1)
    exact paired.produce stepped (near.imp_right fun closer => .inl ⟨drained, closer⟩)

/-- Until all was taken, and when the producer is gone, the consumer goes on when the
producer has left the mutex. -/
private theorem goes_of_undrained {settings : Config} {size : Nat}
    (undrained : ¬ relay.Drained) (consuming : Consuming settings none size number queue
      (relay.producer.handles = 0) (relay.former ≠ []) consumer taken)
    (unfinished : consumer.hasEnded = false) : Goes config chunk key input relay consumer := by
  by_cases inside : ∃ call, Call.onRing? relay.producer.call = some call ∧
      call.phase.holds = true
  · obtain ⟨call, running, holds⟩ := inside
    obtain ⟨host', producer', stepped, closer⟩ :=
      underway.producing.release underway.carries running holds
    exact paired.produce stepped (.inr (.inr ⟨undrained, closer⟩))
  · have carries := underway.carries
    rw [consumerHandles, paired.running, Option.elim_some] at carries
    have isCalled : relay.calls .consumer = Call.onRing? consumer.call := by
      rw [calls, paired.running]
      rfl
    have alone : ∀ other call, other ≠ .consumer → relay.calls other = some call →
        call.phase.holds = false := by
      rintro (_ | _) call differs present
      · by_contra holds
        exact inside ⟨call, present, by simpa using holds⟩
      · exact absurd rfl differs
    have useful : relay.producer.handles = 0 ∨ queue ≠ [] := by
      by_contra neither
      rw [not_or, not_not] at neither
      refine undrained ⟨neither.1, ?_⟩
      rw [← underway.conserved, neither.2, List.append_nil]
    obtain ⟨host', consumer', stepped, near⟩ := consuming.nears carries isCalled alone
      relay.producer.handles_le_one useful (consuming.chunk_eq ▸ paired.moderate) unfinished
    exact paired.consume stepped (.inr (near.imp_right fun closer => .inr ⟨undrained, closer⟩))

end Paired

/-- As long as the two have not ended, one of them goes on. -/
theorem Paired.goes {relay : Relay} {consumer : Party}
    (paired : Paired config chunk key input relay consumer) :
    relay.Complete input ∨ Goes config chunk key input relay consumer := by
  obtain ⟨number, queue, taken, rest, underway⟩ := paired.underway
  cases underway.current consumer paired.running with
  | connecting settings limit size positive leads =>
      have stepped : ∃ host' consumer', (Party.consuming settings limit size .empty
          .connecting none [] none).step relay.host = some (host', consumer') := ⟨_, _, rfl⟩
      obtain ⟨host', consumer', stepped⟩ := stepped
      exact .inr (paired.consume stepped (.inl rfl))
  | connected settings limit size positive party taken consuming =>
      obtain rfl : limit = none := consuming.limit?_eq.symm.trans paired.endless
      by_cases hasEnded : consumer.hasEnded = true
      · left
        have consumed := consuming.consumed hasEnded
        obtain ⟨gone, report, isResult⟩ :=
          consumed.of_endless rfl (fun late => late paired.first)
            (consuming.chunk_eq ▸ paired.moderate)
        refine ⟨underway.producing.result?_of_gone gone, consumer, report, paired.running,
          isResult, ?_⟩
        have took := underway.took_eq_of_gone gone
        rw [underway.took_eq, paired.first] at took
        rw [consumed.standardOutput_eq]
        exact took
      · right
        have unfinished : consumer.hasEnded = false := by simpa using hasEnded
        by_cases drained : relay.Drained
        · exact paired.goes_of_drained underway drained
            (consuming.handles_of_unfinished unfinished)
            fun call => consuming.release underway.carries
        · exact paired.goes_of_undrained underway drained consuming unfinished

/-- The two can always come to their ends. -/
theorem Paired.completes {relay : Relay} {consumer : Party}
    (paired : Paired config chunk key input relay consumer) :
    ∃ roles later, relay.play roles = some later ∧ later.Complete input := by
  rcases paired.goes with done | ⟨role, next, consumer', advanced, paired', closer⟩
  · exact ⟨[], relay, rfl, done⟩
  · obtain ⟨roles, later, played, complete⟩ := paired'.completes
    refine ⟨role :: roles, later, ?_, complete⟩
    rw [play, advanced]
    exact played
-- The distance may grow again whenever there is less to do.
termination_by (relay.chores input consumer, relay.distance consumer)
decreasing_by
  rcases closer with fewer | ⟨noMore, closer⟩
  · exact .left _ _ fewer
  · exact Prod.Lex.right' _ noMore closer

end Relay

end BoundedStream
