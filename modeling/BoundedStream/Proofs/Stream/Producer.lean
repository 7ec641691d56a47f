import BoundedStream.Proofs.Stream.Carrier

/-!
# The producer of a stream

From the moment at which its region was made, a producer has sent a part of its input and
has the rest before it.  It leaves only after it has seen the ring empty with nothing left
to send, and after a consumer was there.
-/

namespace BoundedStream

/-- A producer that reads the standard input. -/
def Party.producing (config : Config) (chunk : Nat) (summary : Summary)
    (phase : ProducePhase) (transport : Option Transport) (standardInput : List UInt8)
    (call : Option Call) : Party :=
  ⟨.produce ⟨config, none, chunk, summary, phase⟩, transport, standardInput, [], none, none,
    call, none⟩

theorem Party.produce_eq (config : Config) {chunk : Nat} (input : List UInt8)
    (positive : 1 ≤ chunk) : Party.produce config none chunk input =
      .producing config chunk .empty .openingInput none input none := by
  have nonzero : chunk ≠ 0 := Nat.ne_of_gt positive
  simp [produce, start, producing, Production.start, nonzero]

namespace ProducePhase

variable (config : Config) (number capacity : Nat) (queue : List UInt8) (met : Prop)
  (acknowledged : List UInt8)

/-- What a producer relies on in its phase: its call, its standard input, what it has sent
of the stream and what it has not.  It remembers the summary of what was acknowledged. -/
inductive Stands : ProducePhase → Option Call → List UInt8 → List UInt8 → List UInt8 → Prop
  | allocating (size : Nat) (input : List UInt8) (positive : 1 ≤ size)
      (small : size ≤ capacity) (moderate : size ≤ GuardedRing.greatestSize) :
      Stands (.allocating size) none input acknowledged input
  | reading (size : Nat) (input : List UInt8) (positive : 1 ≤ size) (small : size ≤ capacity) :
      Stands (.reading size) none input acknowledged input
  | sending (size : Nat) (data input rest : List UInt8) (call : Option Call)
      (positive : 1 ≤ size) (small : size ≤ capacity) (nonempty : data ≠ [])
      (fits : data.length ≤ size) (whole : data ++ input = rest)
      (undecided : Call.Undecided number (.produce data true) call) :
      Stands (.sending size data data) call input acknowledged rest
  | sent (size : Nat) (data input : List UInt8) (phase : RingPhase) (positive : 1 ≤ size)
      (small : size ≤ capacity) (nonempty : data ≠ [])
      (decided : phase.decided? = some (.produced data.length)) :
      Stands (.sending size data data)
        (some (.ring (.region number) ⟨.produce data true, phase⟩)) input
        (acknowledged ++ data) input
  | draining (seen : Bool) (call : Option Call) (peer : seen = true → acknowledged ≠ [] ∨ met)
      (undecided : Call.Undecided number .measure call) :
      Stands (.draining seen) call [] acknowledged []
  | drained (seen : Bool) (phase : RingPhase) (pending : Nat)
      (peer : seen = true → acknowledged ≠ [] ∨ met)
      (decided : phase.decided? = some (.measured pending))
      (empty : pending = 0 → queue = []) :
      Stands (.draining seen) (some (.ring (.region number) ⟨.measure, phase⟩)) []
        acknowledged []
  | observing (seen : Bool) (pending : Nat) (peer : seen = true → acknowledged ≠ [] ∨ met)
      (empty : pending = 0 → queue = []) :
      Stands (.observing seen pending) none [] acknowledged []
  | resting (seen : Bool) (peer : seen = true → acknowledged ≠ [] ∨ met) :
      Stands (.resting seen) none [] acknowledged []
  | leaving (peer : acknowledged ≠ [] ∨ met) (empty : queue = []) :
      Stands (.leaving (.ok ⟨.producer, config.kind, .update .empty acknowledged, none⟩)) none
        [] acknowledged []

variable {config number capacity queue met acknowledged}

/-- What a producer knows stays true while others only take bytes, and come. -/
theorem Stands.mono {phase : ProducePhase} {call : Option Call} {input sent rest : List UInt8}
    {queue' : List UInt8} {met' : Prop}
    (stands : phase.Stands config number capacity queue met acknowledged call input sent rest)
    (shrinks : queue = [] → queue' = []) (meets : met → met') :
    phase.Stands config number capacity queue' met' acknowledged call input sent rest := by
  cases stands with
  | allocating size input positive small moderate =>
      exact .allocating size input positive small moderate
  | reading size input positive small => exact .reading size input positive small
  | sending size data input rest call positive small nonempty fits whole undecided =>
      exact .sending size data input rest call positive small nonempty fits whole undecided
  | sent size data input phase positive small nonempty decided =>
      exact .sent size data input phase positive small nonempty decided
  | draining seen call peer undecided =>
      exact .draining seen call (fun isSeen => (peer isSeen).imp_right meets) undecided
  | drained seen phase pending peer decided empty =>
      exact .drained seen phase pending (fun isSeen => (peer isSeen).imp_right meets) decided
        fun none => shrinks (empty none)
  | observing seen pending peer empty =>
      exact .observing seen pending (fun isSeen => (peer isSeen).imp_right meets)
        fun none => shrinks (empty none)
  | resting seen peer => exact .resting seen fun isSeen => (peer isSeen).imp_right meets
  | leaving peer empty => exact .leaving (peer.imp_right meets) (shrinks empty)

end ProducePhase

/-- A producer at work on the ring of a region, or done with it. -/
inductive Producing (config : Config) (chunk number capacity : Nat) (queue : List UInt8)
    (met : Prop) : Party → List UInt8 → List UInt8 → Prop
  | attached (acknowledged : List UInt8) (phase : ProducePhase) (transport : Transport)
      (input : List UInt8) (call : Option Call) (sent rest : List UInt8)
      (holds : transport.Holds number)
      (stands : phase.Stands config number capacity queue met acknowledged call input sent
        rest) :
      Producing config chunk number capacity queue met
        (.producing config chunk (.update .empty acknowledged) phase (some transport) input
          call)
        sent rest
  | left (sent : List UInt8) (peer : sent ≠ [] ∨ met) (empty : queue = []) :
      Producing config chunk number capacity queue met
        (.producing config chunk (.update .empty sent)
          (.finished (.ok ⟨.producer, config.kind, .update .empty sent, none⟩)) none [] none)
        sent []

namespace Production

theorem inputRead_of_nonempty (production : Production) {size : Nat} {data : Chunk size}
    (nonempty : data.val ≠ []) :
    production.inputRead size (.ok data) =
      production.goTo (.sending size data.val data.val) := by
  obtain ⟨data, fits⟩ := data
  cases data with
  | nil => exact absurd rfl nonempty
  | cons byte rest => rfl

/-- A ring takes all of a chunk at once, which then counts as sent. -/
theorem deliver_answered (production : Production) (size : Nat) {data : List UInt8}
    (nonempty : data ≠ []) :
    production.deliver size data
        (.answered data (.ok (Fin.ofNat (data.length + 1) data.length))) =
      { production with
        summary := production.summary.update data, phase := .reading size } := by
  have positive : data.length ≠ 0 := by simpa using nonempty
  simp [Delivery.answered, positive, deliver]

end Production

namespace Producing

variable {Caller : Type} [DecidableEq Caller] {config : Config} {chunk number : Nat}
  {founding : Founding} {others : Nat} {calls : Caller → Option RingCall} {caller : Caller}
  {queue : List UInt8} {met : Prop} {host host' : Host} {party party' : Party}
  {sent rest : List UInt8}

/-- What a step of a producer makes of its stream: it has put a part of the rest in the
ring. -/
def Sends (config : Config) (chunk number capacity : Nat) (queue : List UInt8) (met : Prop)
    (before : Option Call) (sent rest : List UInt8) (party' : Party)
    (queue' : List UInt8) : Prop :=
  ∃ rest', queue' = queue ++ Call.put before party'.call ∧
    Call.put before party'.call ++ rest' = rest ∧
    Producing config chunk number capacity queue' met party'
      (sent ++ Call.put before party'.call) rest'

theorem sends_of_put {capacity : Nat} {before : Option Call} {data rest' : List UInt8}
    (isPut : Call.put before party'.call = data) (whole : data ++ rest' = rest)
    (producing' : Producing config chunk number capacity (queue ++ data) met party'
      (sent ++ data) rest') :
    Sends config chunk number capacity queue met before sent rest party'
      (queue ++ data) := by
  subst isPut
  exact ⟨rest', rfl, whole, producing'⟩

theorem sends_of_nothing {capacity : Nat} {before : Option Call}
    (nothing : Call.put before party'.call = [])
    (producing' : Producing config chunk number capacity queue met party' sent rest) :
    Sends config chunk number capacity queue met before sent rest party' queue := by
  refine ⟨rest, ?_, ?_, ?_⟩
  · rw [nothing, List.append_nil]
  · rw [nothing, List.nil_append]
  · rwa [nothing, List.append_nil]

/-- However much of its input a producer reads at once, it sends that next. -/
theorem of_read {capacity : Nat} {transport : Transport} {size : Nat}
    {input input' : List UInt8} {data : Chunk size} (holds : transport.Holds number)
    (positive : 1 ≤ size) (small : size ≤ capacity) (whole : data.val ++ input' = input)
    (last : data.val = [] → input = []) :
    Producing config chunk number capacity queue met
      ⟨.produce ((⟨config, none, chunk, .update .empty sent, .reading size⟩ :
          Production).inputRead size (.ok data)),
        some transport, input', [], none, none, none, none⟩ sent input := by
  by_cases isEnd : data.val = []
  · obtain rfl := last isEnd
    obtain ⟨data, fits⟩ := data
    obtain ⟨rfl, rfl⟩ := List.append_eq_nil_iff.mp whole
    refine .attached _ _ transport _ _ _ _ holds (.draining _ none ?_ ?_)
    · intro seen
      left
      rintro rfl
      simp [Summary.update, Summary.empty] at seen
    · exact Call.undecided_none number _
  · rw [Production.inputRead_of_nonempty _ isEnd]
    exact .attached _ _ transport _ _ _ _ holds (.sending size data.val input' input none
      positive small isEnd data.property whole (Call.undecided_none number _))

omit [DecidableEq Caller] in
/-- A producer sees from the number of handles whether anybody else has one. -/
theorem showsPeer_references {transport : Transport}
    (carries : host.Carries number founding (others + 1) calls queue)
    (holds : transport.Holds number) (few : others ≤ 1) :
    Production.showsPeer (transport.references? host) = decide (0 < others) := by
  rw [carries.references?_eq holds]
  obtain rfl | rfl : others = 0 ∨ others = 1 := by omega
  · rfl
  · rfl

section

variable (carries : host.Carries number founding (others + party.handles) calls queue)
  (isCalled : calls caller = Call.onRing? party.call)

include carries isCalled

variable {acknowledged : List UInt8} {transport : Transport} {input : List UInt8}
  {call : Option Call}

/-- The chunks are small, so there is a buffer for them. -/
private theorem moves_of_allocating {size : Nat} (holds : transport.Holds number)
    (positive : 1 ≤ size) (small : size ≤ founding.capacity)
    (moderate : size ≤ GuardedRing.greatestSize)
    (isParty : party = .producing config chunk (.update .empty sent) (.allocating size)
      (some transport) rest none)
    (stepped : party.step host = some (host', party')) :
    host.Moves number founding others calls caller
      (Sends config chunk number founding.capacity queue met party.call sent rest party')
      host' party' := by
  subst isParty
  rw [Party.step_produce rfl rfl rfl] at stepped
  simp only [Party.serve, Party.allocate, if_pos moderate] at stepped
  cases stepped
  exact Host.moves_of_quiet carries isCalled (by simp [Party.producing, Call.onRing?]) rfl
    rfl (sends_of_nothing (Call.put_none _)
      (.attached _ _ transport _ _ _ _ holds (.reading size rest positive small)))

private theorem moves_of_reading {size : Nat} (holds : transport.Holds number)
    (positive : 1 ≤ size) (small : size ≤ founding.capacity)
    (isParty : party = .producing config chunk (.update .empty sent) (.reading size)
      (some transport) rest none)
    (stepped : party.step host = some (host', party')) :
    host.Moves number founding others calls caller
      (Sends config chunk number founding.capacity queue met party.call sent rest party')
      host' party' := by
  subst isParty
  rw [Party.step_produce rfl rfl rfl] at stepped
  cases stepped
  refine Host.moves_of_quiet carries isCalled (by simp [Party.producing, Call.onRing?]) rfl
    rfl (sends_of_nothing (Call.put_none _) ?_)
  refine of_read holds positive small (List.take_append_drop size _) fun isEnd => ?_
  simpa [Party.producing, Chunk.ofList, Nat.ne_of_gt positive] using isEnd

private theorem moves_of_sending {size : Nat} {data : List UInt8}
    (holds : transport.Holds number) (positive : 1 ≤ size)
    (small : size ≤ founding.capacity) (nonempty : data ≠ []) (fits : data.length ≤ size)
    (whole : data ++ input = rest)
    (undecided : Call.Undecided number (.produce data true) call)
    (isParty : party = .producing config chunk (.update .empty sent)
      (.sending size data data) (some transport) input call)
    (stepped : party.step host = some (host', party')) :
    host.Moves number founding others calls caller
      (Sends config chunk number founding.capacity queue met party.call sent rest party')
      host' party' := by
  subst isParty
  rw [Party.step_produce rfl rfl rfl] at stepped
  simp only [Party.serve] at stepped
  have pursuit := Party.pursuit_of_pursue rfl (holds.produceCall?_eq nonempty)
    undecided.onRing stepped
  have admitted : (RingRequest.produce data true).rejection? founding.capacity = none :=
    RingRequest.rejection?_eq_none (List.length_pos_iff.mpr nonempty)
      (Nat.le_trans fits small)
  refine Host.moves_of_undecided carries isCalled pursuit undecided ?_ ?_
  · intro call open? quiet
    exact sends_of_nothing (Call.put_of_quiet quiet)
      (.attached _ _ transport input _ _ _ holds (.sending size data input rest call positive
        small nonempty fits whole open?))
  · intro after outcome queue' decided answered effect
    obtain ⟨rfl, rfl⟩ := GuardedRing.eq_of_produce admitted answered
    exact sends_of_put (Call.put_of_effect effect) whole
      (.attached _ _ transport input _ _ _ holds (.sent size data input after positive small
        nonempty decided))

private theorem moves_of_sent {size : Nat} {data : List UInt8} {phase : RingPhase}
    (holds : transport.Holds number) (positive : 1 ≤ size)
    (small : size ≤ founding.capacity) (nonempty : data ≠ [])
    (decided : phase.decided? = some (.produced data.length))
    (isParty : party = .producing config chunk (.update .empty acknowledged)
      (.sending size data data) (some transport) rest
      (some (.ring (.region number) ⟨.produce data true, phase⟩)))
    (isSent : sent = acknowledged ++ data)
    (stepped : party.step host = some (host', party')) :
    host.Moves number founding others calls caller
      (Sends config chunk number founding.capacity queue met party.call sent rest party')
      host' party' := by
  subst isParty isSent
  rw [Party.step_produce rfl rfl rfl] at stepped
  simp only [Party.serve] at stepped
  have pursuit := Party.pursuit_of_pursue rfl (holds.produceCall?_eq nonempty)
    (by rintro other ⟨⟩; exact ⟨_, rfl⟩) stepped
  refine Host.moves_of_decided carries isCalled pursuit rfl decided ?_ rfl ?_
  · intro after decided quiet
    exact sends_of_nothing (Call.put_of_quiet quiet)
      (.attached _ _ transport _ _ _ _ holds (.sent size data rest after positive small
        nonempty decided))
  · refine sends_of_nothing (Call.put_none _) ?_
    have delivered := Production.deliver_answered
      ⟨config, none, chunk, .update .empty acknowledged, .sending size data data⟩ size
      nonempty
    rw [delivered, ← Summary.update_append]
    exact .attached _ _ transport _ _ _ _ holds (.reading size rest positive small)

private theorem moves_of_draining {seen : Bool} (holds : transport.Holds number)
    (seenPeer : seen = true → sent ≠ [] ∨ met)
    (undecided : Call.Undecided number .measure call)
    (isParty : party = .producing config chunk (.update .empty sent) (.draining seen)
      (some transport) [] call)
    (isEnd : rest = []) (stepped : party.step host = some (host', party')) :
    host.Moves number founding others calls caller
      (Sends config chunk number founding.capacity queue met party.call sent rest party')
      host' party' := by
  subst isParty isEnd
  rw [Party.step_produce rfl rfl rfl] at stepped
  simp only [Party.serve] at stepped
  have pursuit := Party.pursuit_of_pursue rfl holds.pendingCall?_eq undecided.onRing stepped
  refine Host.moves_of_undecided carries isCalled pursuit undecided ?_ ?_
  · intro call open? quiet
    exact sends_of_nothing (Call.put_of_quiet quiet)
      (.attached _ _ transport _ _ _ _ holds (.draining seen call seenPeer open?))
  · rintro after outcome queue' decided ⟨⟩ effect
    exact sends_of_nothing (Call.put_of_effect effect)
      (.attached _ _ transport _ _ _ _ holds (.drained seen after _ seenPeer decided
        List.eq_nil_of_length_eq_zero))

private theorem moves_of_drained {seen : Bool} {phase : RingPhase} {pending : Nat}
    (holds : transport.Holds number) (seenPeer : seen = true → sent ≠ [] ∨ met)
    (decided : phase.decided? = some (.measured pending)) (empty : pending = 0 → queue = [])
    (isParty : party = .producing config chunk (.update .empty sent) (.draining seen)
      (some transport) [] (some (.ring (.region number) ⟨.measure, phase⟩)))
    (isEnd : rest = []) (stepped : party.step host = some (host', party')) :
    host.Moves number founding others calls caller
      (Sends config chunk number founding.capacity queue met party.call sent rest party')
      host' party' := by
  subst isParty isEnd
  rw [Party.step_produce rfl rfl rfl] at stepped
  simp only [Party.serve] at stepped
  have pursuit := Party.pursuit_of_pursue rfl holds.pendingCall?_eq
    (by rintro other ⟨⟩; exact ⟨_, rfl⟩) stepped
  refine Host.moves_of_decided carries isCalled pursuit rfl decided ?_ rfl ?_
  · intro after decided quiet
    exact sends_of_nothing (Call.put_of_quiet quiet)
      (.attached _ _ transport _ _ _ _ holds (.drained seen after pending seenPeer decided
        empty))
  · exact sends_of_nothing (Call.put_none _)
      (.attached _ _ transport _ _ _ _ holds (.observing seen pending seenPeer empty))

private theorem moves_of_observing {seen : Bool} {pending : Nat}
    (holds : transport.Holds number) (seenPeer : seen = true → sent ≠ [] ∨ met)
    (empty : pending = 0 → queue = []) (few : others ≤ 1) (peer : 0 < others → met)
    (isParty : party = .producing config chunk (.update .empty sent)
      (.observing seen pending) (some transport) [] none)
    (isEnd : rest = []) (stepped : party.step host = some (host', party')) :
    host.Moves number founding others calls caller
      (Sends config chunk number founding.capacity queue met party.call sent rest party')
      host' party' := by
  subst isParty isEnd
  rw [Party.step_produce rfl rfl rfl] at stepped
  cases stepped
  refine Host.moves_of_quiet carries isCalled (by simp [Party.producing, Call.onRing?]) rfl
    rfl (sends_of_nothing (Call.put_none _) ?_)
  have shows := showsPeer_references carries holds few
  have peerNow : (seen || decide (0 < others)) = true → sent ≠ [] ∨ met := by
    intro shown
    rcases Bool.or_eq_true_iff.mp shown with before | now
    · exact seenPeer before
    · exact .inr (peer (of_decide_eq_true now))
  simp only [Party.references?, Party.producing, Option.bind_some,
    Production.referencesCounted, shows]
  split
  · rename_i leaves
    exact .attached _ _ transport _ _ _ _ holds (.leaving (peerNow leaves.2) (empty leaves.1))
  · exact .attached _ _ transport _ _ _ _ holds (.resting _ peerNow)

private theorem moves_of_leaving (holds : transport.Holds number)
    (peer : sent ≠ [] ∨ met) (empty : queue = []) (few : others ≤ 1)
    (isParty : party = .producing config chunk (.update .empty sent)
      (.leaving (.ok ⟨.producer, config.kind, .update .empty sent, none⟩)) (some transport) []
      none)
    (isEnd : rest = []) (stepped : party.step host = some (host', party')) :
    host.Moves number founding others calls caller
      (Sends config chunk number founding.capacity queue met party.call sent rest party')
      host' party' := by
  subst isParty isEnd
  rw [Party.step_produce rfl rfl rfl] at stepped
  cases stepped
  exact Host.moves_of_leave carries isCalled (by omega) rfl holds rfl rfl rfl
    (sends_of_nothing (Call.put_none _) (.left _ peer empty))

end

/-- Every step of a producer leaves it a producer, and adds to the queue what it sends of
its input. -/
theorem step
    (producing : Producing config chunk number founding.capacity queue met party sent rest)
    (carries : host.Carries number founding (others + party.handles) calls queue)
    (isCalled : calls caller = Call.onRing? party.call)
    (few : others ≤ 1) (peer : 0 < others → met)
    (stepped : party.step host = some (host', party')) :
    host.Moves number founding others calls caller
      (Sends config chunk number founding.capacity queue met party.call sent rest party')
      host' party' := by
  cases producing with
  | left sent peer empty => cases stepped
  | attached acknowledged phase transport input call sent rest holds stands =>
      cases stands with
      | allocating size input positive small moderate =>
          exact moves_of_allocating carries isCalled holds positive small moderate rfl stepped
      | reading size input positive small =>
          exact moves_of_reading carries isCalled holds positive small rfl stepped
      | sending size data input rest call positive small nonempty fits whole undecided =>
          exact moves_of_sending carries isCalled holds positive small nonempty fits whole
            undecided rfl stepped
      | sent size data input phase positive small nonempty decided =>
          exact moves_of_sent carries isCalled holds positive small nonempty decided rfl rfl
            stepped
      | draining seen call seenPeer undecided =>
          exact moves_of_draining carries isCalled holds seenPeer undecided rfl rfl stepped
      | drained seen phase pending seenPeer decided empty =>
          exact moves_of_drained carries isCalled holds seenPeer decided empty rfl rfl stepped
      | observing seen pending seenPeer empty =>
          exact moves_of_observing carries isCalled holds seenPeer empty few peer rfl rfl
            stepped
      | resting seen seenPeer =>
          rw [Party.step_produce rfl rfl rfl] at stepped
          cases stepped
          refine Host.moves_of_quiet carries isCalled
            (by simp [Party.producing, Call.onRing?]) rfl rfl
            (sends_of_nothing (Call.put_none _) ?_)
          exact .attached _ _ transport _ _ _ _ holds (.draining seen none seenPeer
            (Call.undecided_none number _))
      | leaving seenPeer empty =>
          exact moves_of_leaving carries isCalled holds seenPeer empty few rfl rfl stepped

/-- A producer gives its endpoint up when everything was sent and taken. -/
theorem of_gone {capacity : Nat}
    (producing : Producing config chunk number capacity queue met party sent rest)
    (gone : party.handles = 0) : queue = [] ∧ rest = [] ∧ (sent ≠ [] ∨ met) := by
  cases producing with
  | left sent peer empty => exact ⟨empty, rfl, peer⟩
  | attached acknowledged phase transport input call sent rest holds stands => cases gone

theorem result?_of_gone {capacity : Nat}
    (producing : Producing config chunk number capacity queue met party sent rest)
    (gone : party.handles = 0) :
    ∃ report, party.result? = some (.reported (.ok report)) := by
  cases producing with
  | left sent peer empty => exact ⟨_, rfl⟩
  | attached acknowledged phase transport input call sent rest holds stands => cases gone

theorem unfinished_of_attached {capacity : Nat}
    (producing : Producing config chunk number capacity queue met party sent rest)
    (attached : party.handles ≠ 0) : party.hasEnded = false := by
  cases producing with
  | left sent peer empty => exact absurd rfl attached
  | attached acknowledged phase transport input call sent rest holds stands =>
      cases stands <;> rfl

theorem rests_of_gone {capacity : Nat}
    (producing : Producing config chunk number capacity queue met party sent rest)
    (gone : party.handles = 0) : party.step host ≠ some (host', party') := by
  cases producing with
  | left sent peer empty =>
      intro stepped
      cases stepped
  | attached acknowledged phase transport input call sent rest holds stands => cases gone

theorem read {capacity : Nat}
    (producing : Producing config chunk number capacity queue met party sent rest)
    {production : Production} {size : Nat} {data : Chunk size} {later : List UInt8}
    (isProgram : party.program = .produce production)
    (isPhase : production.phase = .reading size) (nonempty : data.val ≠ [])
    (whole : data.val ++ later = party.standardInput) :
    party.call = none ∧
      Producing config chunk number capacity queue met
        ({ party with standardInput := later }.goOn
          (.produce (production.inputRead size (.ok data)))) sent rest := by
  cases producing with
  | left sent peer empty =>
      cases isProgram
      cases isPhase
  | attached acknowledged phase transport standardInput call sent rest holds stands =>
      cases isProgram
      cases isPhase
      cases stands with
      | reading size input positive small =>
          exact ⟨rfl, of_read holds positive small whole fun nothing =>
            absurd nothing nonempty⟩

theorem mono {capacity : Nat} {queue' : List UInt8} {met' : Prop}
    (producing : Producing config chunk number capacity queue met party sent rest)
    (shrinks : queue = [] → queue' = []) (meets : met → met') :
    Producing config chunk number capacity queue' met' party sent rest := by
  cases producing with
  | attached acknowledged phase transport input call sent rest holds stands =>
      exact .attached acknowledged phase transport input call sent rest holds
        (stands.mono shrinks meets)
  | left sent peer empty => exact .left sent (peer.imp_right meets) (shrinks empty)

end Producing

end BoundedStream
