import BoundedStream.Proofs.Host.Holding
import BoundedStream.Proofs.Party.Pursuit
import BoundedStream.Proofs.Region.Lifecycle

/-!
# The region of a stream

A stream is carried by one region, whose ring is attended by its parties and whose handles
are those of its parties.  Whatever one of them does leaves all other regions and all files
alone.
-/

namespace BoundedStream

/-- The number of handles that a party has. -/
def Party.handles (party : Party) : Nat := if party.transport.isSome then 1 else 0

theorem Party.handles_le_one (party : Party) : party.handles ≤ 1 := by
  unfold handles
  split <;> omega

/-- A configuration leads an endpoint to the region of a key. -/
structure Config.LeadsTo (config : Config) (memory : SharedMemory) (role : Role)
    (key : Nat) : Prop where
  kind_eq : config.kind = .sharedMemory
  valid : config.checkFor role = .ok ()
  derived : memory.deriveKey config.path = .ok key

/-- Where a configuration leads depends on the files alone. -/
theorem Config.LeadsTo.of_files {config : Config} {memory later : SharedMemory} {role : Role}
    {key : Nat} (leads : config.LeadsTo memory role key) (same : later.files = memory.files) :
    config.LeadsTo later role key :=
  { leads with derived := by rw [SharedMemory.deriveKey, same]; exact leads.derived }

/-- A producer asks for a capacity that a region can have. -/
theorem Config.LeadsTo.admitted {config : Config} {memory : SharedMemory} {key : Nat}
    (leads : config.LeadsTo memory .producer key) :
    RegionTable.capacityRefusal? config.capacity = none := by
  have valid := leads.valid
  have inside : leastCapacity ≤ config.capacity ∧ config.capacity ≤ greatestCapacity := by
    by_contra outside
    simp only [checkFor, checkBackend, leads.kind_eq, outside] at valid
    split at valid
    · cases valid
    · split at valid
      · cases valid
      · simp at valid
  obtain ⟨positive, small⟩ := inside
  have accepted : ¬ (config.capacity = 0 ∨
      RegionTable.greatestCapacity < config.capacity) := by
    simp only [leastCapacity, greatestCapacity, RegionTable.greatestCapacity] at *
    omega
  rw [RegionTable.capacityRefusal?, if_neg accepted]

theorem Config.LeadsTo.capacity_le {config : Config} {memory : SharedMemory} {key : Nat}
    (leads : config.LeadsTo memory .producer key) :
    config.capacity ≤ RegionTable.greatestCapacity := by
  by_contra beyond
  have admitted := leads.admitted
  rw [RegionTable.capacityRefusal?, if_pos (.inr (Nat.lt_of_not_le beyond))] at admitted
  cases admitted

namespace Host

variable {Caller : Type} {host later : Host} {number : Nat} {founding : Founding}
  {handles : Nat} {calls : Caller → Option RingCall} {queue : List UInt8}

/-- A region of a host carries the stream of some callers, who have so many handles. -/
def Carries (host : Host) (number : Nat) (founding : Founding) (handles : Nat)
    (calls : Caller → Option RingCall) (queue : List UInt8) : Prop :=
  ∃ region, host.region? number = some region ∧ region.Accords founding handles ∧
    region.guarded.Attended calls queue

/-- No region but one has changed, and no file. -/
structure Apart (host later : Host) (number : Nat) : Prop where
  files : later.memory.files = host.memory.files
  elsewhere : ∀ other, other ≠ number → later.region? other = host.region? other

theorem Apart.sole (apart : host.Apart later number) {key : Nat}
    (sole : host.memory.regions.Sole key number) :
    later.memory.regions.Sole key number := by
  intro other region distinct found
  exact sole other region distinct ((apart.elsewhere other distinct).symm.trans found)

theorem apart_refl : host.Apart host number := ⟨rfl, fun _ _ => rfl⟩

theorem apart_setGuarded (guarded : GuardedRing) :
    host.Apart (host.setGuarded (.region number) guarded) number :=
  ⟨rfl, fun other distinct => by rw [region?_setGuarded, if_neg (Ne.symm distinct)]⟩

theorem apart_updateRegion (change : Region → Region) :
    host.Apart (host.updateRegion number change) number :=
  ⟨rfl, fun _ distinct => RegionTable.get?_update_of_ne _ distinct⟩

namespace Carries

theorem of_calls (carries : host.Carries number founding handles calls queue)
    {calls' : Caller → Option RingCall} (same : ∀ caller, calls' caller = calls caller) :
    host.Carries number founding handles calls' queue := by
  rwa [funext same]

theorem length_le (carries : host.Carries number founding handles calls queue) :
    queue.length ≤ founding.capacity := by
  obtain ⟨region, -, accords, attended⟩ := carries
  have capacity : region.guarded.ring.capacity = founding.capacity := accords.capacity_eq
  rw [← capacity]
  exact attended.represents.length_le

theorem references?_eq (carries : host.Carries number founding handles calls queue)
    {transport : Transport} (holds : transport.Holds number) :
    transport.references? host = some (Int32.ofNat handles) := by
  obtain ⟨region, found, accords, -⟩ := carries
  rw [holds.references?_eq found, accords.references_eq]

theorem leave (carries : host.Carries number founding (handles + 1) calls queue)
    (few : handles < 1 <<< 31) {transport : Transport} (holds : transport.Holds number) :
    (transport.close host).Carries number founding handles calls queue ∧
      host.Apart (transport.close host) number := by
  obtain ⟨region, found, accords, attended⟩ := carries
  rw [holds.close_eq found]
  refine ⟨⟨_, region?_updateRegion_self found _, (accords.leave few).2, ?_⟩,
    apart_updateRegion _⟩
  rw [region.guarded_leave]
  exact attended

/-- An endpoint that is opened joins the region as long as anybody has it. -/
theorem connect (carries : host.Carries number founding handles calls queue)
    {config : Config} (leads : config.LeadsTo host.memory .consumer founding.key)
    (sole : host.memory.regions.Sole founding.key number)
    (standing : founding.removed = false) (few : handles < 1 <<< 31) :
    (handles = 0 ∧ ∃ error,
        Transport.connect host config .consumer = (.error (.error error), host)) ∨
      (0 < handles ∧ ∃ transport host',
        Transport.connect host config .consumer = (.ok transport, host') ∧
          transport.Holds number ∧
          host'.Carries number founding (handles + 1) calls queue ∧
          host.Apart host' number) := by
  obtain ⟨region, found, accords, attended⟩ := carries
  have finds := sole.find?_eq found accords.key_eq
  rw [accords.removed_eq, standing, Bool.false_or] at finds
  simp only [Transport.connect, leads.valid, Transport.openBackend, leads.kind_eq]
  by_cases deserted : handles = 0
  · rw [if_pos (by simpa using deserted)] at finds
    rw [SharedMemory.attach_eq_error leads.derived finds]
    exact .inl ⟨deserted, _, rfl⟩
  · rw [if_neg (by simpa using deserted)] at finds
    have held : 0 < handles := Nat.pos_of_ne_zero deserted
    obtain ⟨joins, accords'⟩ := accords.join held few config.path
    rw [SharedMemory.attach_eq_ok leads.derived finds found joins]
    refine .inr ⟨held, _, _, rfl, ⟨_, rfl, rfl, rfl⟩, ?_, apart_updateRegion _⟩
    exact ⟨_, region?_updateRegion_self found _, accords', attended⟩

variable [DecidableEq Caller] {caller : Caller}

theorem replace (carries : host.Carries number founding handles calls queue)
    (caller : Caller) (next : Option RingCall)
    (outside : ∀ call, calls caller = some call → call.phase.holds = false)
    (fresh : ∀ call, next = some call → call.phase = .arriving) :
    host.Carries number founding handles (Function.update calls caller next) queue := by
  obtain ⟨region, found, accords, attended⟩ := carries
  exact ⟨region, found, accords, attended.replace caller next outside fresh⟩

theorem advance (carries : host.Carries number founding handles calls queue)
    {request : RingRequest} {phase : RingPhase} {call' : RingCall}
    {guarded guarded' : GuardedRing} (running : calls caller = some ⟨request, phase⟩)
    (present : host.guarded? (.region number) = some guarded)
    (stepped : RingCall.step guarded ⟨request, phase⟩ = some (guarded', call')) :
    guarded.ring.capacity = founding.capacity ∧
      ∃ phase' queue', call' = ⟨request, phase'⟩ ∧
        (host.setGuarded (.region number) guarded').Carries number founding handles
          (Function.update calls caller (some call')) queue' ∧
        GuardedRing.Took founding.capacity request phase phase' queue queue' := by
  obtain ⟨region, found, accords, attended⟩ := carries
  rw [guarded?_region found] at present
  cases present
  obtain ⟨sameRequest, queue', attended', took⟩ := attended.step running stepped
  have sameCapacity := (RingCall.step_cases stepped).2.capacity_eq
  have capacity : region.guarded.ring.capacity = founding.capacity := accords.capacity_eq
  obtain ⟨request', phase'⟩ := call'
  cases sameRequest
  rw [capacity] at took
  exact ⟨capacity, phase', queue', rfl,
    ⟨_, region?_setGuarded_self found guarded', accords.setGuarded sameCapacity, attended'⟩,
    took⟩

end Carries

/-- A producer makes the region of its key, and it holds nothing. -/
theorem connect_producer (calls : Caller → Option RingCall) {config : Config} {key : Nat}
    (leads : config.LeadsTo host.memory .producer key)
    (nowhere : host.memory.regions.find? key = none) (idle : ∀ caller, calls caller = none) :
    ∃ transport host',
      Transport.connect host config .producer = (.ok transport, host') ∧
        transport.Holds host.memory.regions.regions.length ∧
        host'.Carries host.memory.regions.regions.length ⟨key, config.capacity, false⟩ 1
          calls [] ∧
        host'.memory.regions.Sole key host.memory.regions.regions.length ∧
        host'.memory.files = host.memory.files := by
  have admitted := leads.admitted
  have positive : 0 < config.capacity := by
    by_contra zero
    have isZero : config.capacity = 0 := by omega
    simp [RegionTable.capacityRefusal?, isZero] at admitted
  have created := SharedMemory.create_eq config.mode leads.derived admitted
  rw [nowhere] at created
  simp only [Transport.connect, leads.valid, Transport.openBackend, leads.kind_eq, created]
  refine ⟨_, _, rfl, ⟨_, rfl, rfl, rfl⟩, ?_, RegionTable.sole_insert nowhere, rfl⟩
  refine ⟨_, RegionTable.get?_insert_self,
    (Region.pristine_new key config.mode admitted).toAccords, ?_⟩
  refine .of_idle (Ring.represents_empty positive) rfl ?_
  intro caller call running
  rw [idle] at running
  cases running

/-! ## Steps of a party -/

/-- What the step of a party leads to where the bytes that are then held are good. -/
def Moves [DecidableEq Caller] (host : Host) (number : Nat) (founding : Founding)
    (others : Nat) (calls : Caller → Option RingCall) (caller : Caller)
    (good : List UInt8 → Prop) (host' : Host) (party' : Party) : Prop :=
  ∃ queue', good queue' ∧
    host'.Carries number founding (others + party'.handles)
      (Function.update calls caller (Call.onRing? party'.call)) queue' ∧
    host.Apart host' number

section Moves

variable [DecidableEq Caller] {caller : Caller} {others : Nat} {host' : Host}
  {party party' : Party} {good : List UInt8 → Prop}
  (carries : host.Carries number founding (others + party.handles) calls queue)
  (isCalled : calls caller = Call.onRing? party.call)

include carries isCalled

theorem moves_of_quiet
    (outside : ∀ call, Call.onRing? party.call = some call → call.phase.holds = false)
    (idle : party'.call = none) (sameHandles : party'.handles = party.handles)
    (fine : good queue) :
    host.Moves number founding others calls caller good host party' := by
  refine ⟨queue, fine, ?_, apart_refl⟩
  rw [sameHandles, idle]
  refine carries.replace caller none ?_ (by simp)
  rw [isCalled]
  exact outside

theorem moves_of_begin {request : RingRequest} (idle : party.call = none)
    (begun : party'.call = some (.ring (.region number) (.start request)))
    (sameHandles : party'.handles = party.handles) (fine : good queue) :
    host.Moves number founding others calls caller good host party' := by
  refine ⟨queue, fine, ?_, apart_refl⟩
  rw [sameHandles, begun]
  refine carries.replace caller _ ?_ ?_
  · rw [isCalled, idle]
    simp [Call.onRing?]
  · rintro call ⟨⟩
    rfl

theorem moves_of_advance {request : RingRequest} {before : RingPhase} {call' : RingCall}
    {guarded guarded' : GuardedRing}
    (running : party.call = some (.ring (.region number) ⟨request, before⟩))
    (present : host.guarded? (.region number) = some guarded)
    (stepped : RingCall.step guarded ⟨request, before⟩ = some (guarded', call')) :
    ∃ after queue', call' = ⟨request, after⟩ ∧
      GuardedRing.Took founding.capacity request before after queue queue' ∧
      ∀ good : List UInt8 → Prop, good queue' →
        host.Moves number founding others calls caller good
          (host.setGuarded (.region number) guarded')
          { party with call := some (.ring (.region number) call') } := by
  have called : calls caller = some ⟨request, before⟩ := by
    rw [isCalled, running]
    rfl
  obtain ⟨-, after, queue', rfl, carries', took⟩ := carries.advance called present stepped
  exact ⟨after, queue', rfl, took, fun _ fine =>
    ⟨queue', fine, carries', apart_setGuarded guarded'⟩⟩

section Transfers

variable {Answer : Type} {request : RingRequest}
  {settle : TransportOutcome → Party.Settled Answer} {resume : Answer → Program}
  {good : Party → List UInt8 → Prop}
  (pursuit : party.Pursuit host (.region number) request settle resume host' party')

include pursuit

/-- A transfer that has not taken effect is still to do so after a step, or takes effect with
what the bytes that are held answer. -/
theorem moves_of_undecided (undecided : Call.Undecided number request party.call)
    (waits : ∀ call, Call.Undecided number request call → Call.effect? party.call call = none →
      good { party with call } queue)
    (effects : ∀ after outcome queue', after.decided? = some outcome →
      request.answer? founding.capacity queue = some (outcome, queue') →
        Call.effect? party.call (some (.ring (.region number) ⟨request, after⟩)) =
            some (request, outcome) →
          good { party with call := some (.ring (.region number) ⟨request, after⟩) } queue') :
    host.Moves number founding others calls caller (good party') host' party' := by
  cases pursuit with
  | begin idle =>
      refine moves_of_begin carries isCalled idle rfl rfl
        (waits _ (Call.undecided_start number request) ?_)
      rw [idle]
      rfl
  | advance call call' guarded guarded' running present ringStep =>
      obtain ⟨before, isCall, open?⟩ := undecided _ running
      cases isCall
      obtain ⟨after, queue', rfl, took, moves⟩ :=
        moves_of_advance carries isCalled running present ringStep
      refine moves (good _) ?_
      rw [running] at waits effects
      cases took with
      | nothing same =>
          exact waits _ (Call.undecided_of_same same open?) (Call.effect?_of_same same)
      | effect outcome _ decided answered =>
          exact effects after outcome queue' decided answered
            (Call.effect?_of_decided open? decided)
  | answer request' outcome answer running settled =>
      exact (undecided.not_finished running).elim
  | crash request' outcome text running settled =>
      exact (undecided.not_finished running).elim

/-- A transfer that has taken effect goes on with its outcome, which the program is told in
the end. -/
theorem moves_of_decided {phase : RingPhase} {outcome : RingOutcome} {answer : Answer}
    (running : party.call = some (.ring (.region number) ⟨request, phase⟩))
    (decided : phase.decided? = some outcome)
    (waits : ∀ after, after.decided? = some outcome →
      Call.effect? party.call (some (.ring (.region number) ⟨request, after⟩)) = none →
        good { party with call := some (.ring (.region number) ⟨request, after⟩) } queue)
    (settles : settle (Outcome.ring outcome).onTransport = .answer answer)
    (answers : good (party.goOn (resume answer)) queue) :
    host.Moves number founding others calls caller (good party') host' party' := by
  cases pursuit with
  | begin idle =>
      rw [idle] at running
      cases running
  | advance call call' guarded guarded' runs present ringStep =>
      cases running.symm.trans runs
      obtain ⟨after, queue', rfl, took, moves⟩ :=
        moves_of_advance carries isCalled running present ringStep
      obtain ⟨rfl, same⟩ := took.of_decided decided
      rw [running] at waits
      exact moves (good _) (waits after (same.trans decided) (Call.effect?_of_same same))
  | answer request' finished answer' runs settled =>
      cases running.symm.trans runs
      cases decided
      cases settles.symm.trans settled
      refine moves_of_quiet carries isCalled ?_ rfl rfl answers
      simp [running, Call.onRing?, RingPhase.holds]
  | crash request' finished text runs settled =>
      cases running.symm.trans runs
      cases decided
      cases settles.symm.trans settled

end Transfers

/-- A party that gives its endpoint up has no handle left. -/
theorem moves_of_leave {transport : Transport} (few : others < 1 <<< 31)
    (opened : party.transport = some transport) (holds : transport.Holds number)
    (idle : party.call = none) (closed : party'.transport = none)
    (stillIdle : party'.call = none) (fine : good queue) :
    host.Moves number founding others calls caller good (transport.close host) party' := by
  have one : party.handles = 1 := by simp [Party.handles, opened]
  have zero : party'.handles = 0 := by simp [Party.handles, closed]
  rw [one] at carries
  obtain ⟨left, apart⟩ := carries.leave few holds
  refine ⟨queue, fine, ?_, apart⟩
  rw [zero, stillIdle]
  refine left.replace caller none ?_ (by simp)
  rw [isCalled, idle]
  simp [Call.onRing?]

end Moves

end Host

end BoundedStream
