import BoundedStream.Proofs.Region.Lifecycle

/-!
# Whether a handle may join

Any process may have written the header of a region.  A handle that wants to join looks
whether the region has room for a header, whether a ring was announced in it, whether that
ring ends inside, and whether anybody holds the region.  It is told of the first of these
that fails, and then nothing has changed.

The end of the ring is computed in 64 bits.  For the greatest capacities, of which there are
as many as the header has bytes, it is no address: the handle crashes where it should be
refused, and leaves the region mapped.
-/

namespace BoundedStream

namespace Region

variable {region : Region} {path : String} {error : RegionError}

/-! ## Where the announced ring ends -/

/-- The announced ring fits behind the header. -/
def Fits (region : Region) : Prop := region.capacity ≤ region.size - headerSize

/-- The end of the announced ring is no address. -/
def Overflows (region : Region) : Prop := addressSpace - headerSize ≤ region.capacity

theorem overflows_iff : region.Overflows ↔ addressSpace ≤ region.announcedEnd := by
  have header : headerSize < addressSpace := by decide
  unfold Overflows announcedEnd
  omega

theorem fits_iff (header : headerSize < region.size) :
    region.Fits ↔ region.announcedEnd ≤ region.size := by
  unfold Fits announcedEnd
  omega

/-! ## Who may join -/

/-- What a handle that joins a region has seen in it. -/
structure Admits (region : Region) : Prop where
  header : headerSize < region.size
  announced : 0 < region.capacity
  inside : region.Fits
  held : region.references ≠ 0

/-- Why a region is not joined.  Each reason is given where no earlier one stands. -/
inductive Obstacle (region : Region) (path : String) : RegionError → Prop
  | short (short : region.size ≤ headerSize) :
      Obstacle region path (.layoutMismatch path ("segment of " ++ toString region.size ++
        " bytes cannot hold the " ++ toString headerSize ++ " byte header"))
  | blank (header : headerSize < region.size) (unannounced : region.capacity = 0) :
      Obstacle region path (.notInitialized path)
  | large (header : headerSize < region.size) (plain : ¬ region.Overflows)
      (beyond : ¬ region.Fits) :
      Obstacle region path (.layoutMismatch path ("ring capacity " ++
        toString region.capacity ++ " does not fit a " ++ toString region.size ++
          " byte segment"))
  | deserted (header : headerSize < region.size) (announced : 0 < region.capacity)
      (inside : region.Fits) (nobody : region.references = 0) :
      Obstacle region path (.notFound path)

/-- A region in front of which a handle crashes. -/
structure Trips (region : Region) : Prop where
  header : headerSize < region.size
  overflows : region.Overflows

theorem capacity_pos_of_overflows (overflows : region.Overflows) : 0 < region.capacity :=
  Nat.lt_of_lt_of_le (by decide) overflows

theorem capacity_pos_of_not_fits (beyond : ¬ region.Fits) : 0 < region.capacity := by
  unfold Fits at beyond
  omega

section

variable (addressed : region.size < addressSpace)

include addressed

theorem join_of_admits (path : String) (admits : region.Admits) :
    region.join path = (.ok (), region.joined) := by
  obtain ⟨header, announced, inside, held⟩ := admits
  have ends := (fits_iff header).mp inside
  have accepted : region.refusal? path = none := by
    rw [refusal?, if_neg (Nat.not_le.mpr header), if_neg (Nat.ne_of_gt announced),
      if_neg (Nat.not_le.mpr (Nat.lt_of_le_of_lt ends addressed)),
      if_neg (Nat.not_lt.mpr ends)]
  rw [join_eq, accepted]
  exact if_neg held

theorem join_of_obstacle (obstacle : region.Obstacle path error) :
    region.join path = (.error (.error error), region) := by
  rw [join_eq, refusal?]
  cases obstacle with
  | short short => rw [if_pos short]
  | blank header unannounced => rw [if_neg (Nat.not_le.mpr header), if_pos unannounced]
  | large header plain beyond =>
      have announced := capacity_pos_of_not_fits beyond
      rw [if_neg (Nat.not_le.mpr header), if_neg (Nat.ne_of_gt announced),
        if_neg (mt overflows_iff.mpr plain),
        if_pos (Nat.lt_of_not_le (mt (fits_iff header).mpr beyond))]
  | deserted header announced inside nobody =>
      have ends := (fits_iff header).mp inside
      rw [if_neg (Nat.not_le.mpr header), if_neg (Nat.ne_of_gt announced),
        if_neg (Nat.not_le.mpr (Nat.lt_of_le_of_lt ends addressed)),
        if_neg (Nat.not_lt.mpr ends)]
      exact if_pos nobody

omit addressed in
theorem join_of_trips (path : String) (trips : region.Trips) :
    region.join path = (.error (.crash overflow), region.map) := by
  have announced := capacity_pos_of_overflows trips.overflows
  rw [join_eq, refusal?, if_neg (Nat.not_le.mpr trips.header),
    if_neg (Nat.ne_of_gt announced), if_pos (overflows_iff.mp trips.overflows)]

omit addressed in
/-- There is an obstacle wherever a region neither admits a handle nor lets it crash. -/
theorem admits_or_obstacle_or_trips (region : Region) (path : String) :
    region.Admits ∨ (∃ error, region.Obstacle path error) ∨ region.Trips := by
  by_cases header : headerSize < region.size
  case neg => exact .inr (.inl ⟨_, .short (Nat.le_of_not_lt header)⟩)
  by_cases announced : 0 < region.capacity
  case neg => exact .inr (.inl ⟨_, .blank header (Nat.eq_zero_of_not_pos announced)⟩)
  by_cases overflows : region.Overflows
  case pos => exact .inr (.inr ⟨header, overflows⟩)
  by_cases inside : region.Fits
  case neg => exact .inr (.inl ⟨_, .large header overflows inside⟩)
  by_cases held : region.references = 0
  · exact .inr (.inl ⟨_, .deserted header announced inside held⟩)
  · exact .inl ⟨header, announced, inside, held⟩

omit addressed in
/-- Nothing else makes a handle crash. -/
theorem trips_of_refusal? {text : String} (crashes : region.refusal? path = some (.crash text)) :
    region.Trips ∧ text = overflow := by
  unfold refusal? at crashes
  split at crashes
  · cases crashes
  · rename_i header
    split at crashes
    · cases crashes
    · split at crashes
      · rename_i beyond
        cases crashes
        exact ⟨⟨Nat.lt_of_not_le header, overflows_iff.mpr beyond⟩, rfl⟩
      · split at crashes <;> cases crashes

end

end Region

namespace SharedMemory

variable {memory : SharedMemory} {path : String} {key number : Nat} {region : Region}

section

variable (derived : memory.deriveKey path = .ok key)
  (leads : memory.regions.find? key = some number)
  (found : memory.regions.get? number = some region)

include derived leads found

theorem attach_of_admits (addressed : region.size < Region.addressSpace)
    (admits : region.Admits) :
    memory.attach path = (.ok ⟨path, number, false, true⟩,
      { memory with regions := memory.regions.update number fun _ => region.joined }) :=
  attach_eq_ok derived leads found (Region.join_of_admits addressed path admits)

theorem attach_of_obstacle (addressed : region.size < Region.addressSpace)
    {error : RegionError} (obstacle : region.Obstacle path error) :
    memory.attach path = (.error (.error error), memory) := by
  rw [attach_eq_join derived leads found, Region.join_of_obstacle addressed obstacle]
  -- The region that was looked at is put in its own place.
  dsimp only
  rw [RegionTable.update_of_get?_eq_some found]
  rfl

theorem attach_of_trips (trips : region.Trips) :
    memory.attach path = (.error (.crash Region.overflow),
      { memory with regions := memory.regions.update number fun _ => region.map }) := by
  rw [attach_eq_join derived leads found, Region.join_of_trips path trips]
  rfl

/-- Whatever the memory of a region holds, a handle joins it exactly if the region admits it,
and then the region has one more handle and nothing else has changed.  It is told of the
first obstacle, if there is one, and then nothing has changed at all.  Only where the end of
the announced ring is no address does it crash, and then the region stays mapped. -/
theorem attach_verdict (addressed : region.size < Region.addressSpace) :
    ((∃ segment, (memory.attach path).1 = .ok segment) ↔ region.Admits) ∧
      (∀ error, (memory.attach path).1 = .error (.error error) ↔
        region.Obstacle path error) ∧
      (∀ text, (memory.attach path).1 = .error (.crash text) ↔
        region.Trips ∧ text = Region.overflow) ∧
      (region.Admits → memory.attach path = (.ok ⟨path, number, false, true⟩,
        { memory with regions := memory.regions.update number fun _ => region.joined })) ∧
      (∀ error, region.Obstacle path error → (memory.attach path).2 = memory) ∧
      (region.Trips → (memory.attach path).2 =
        { memory with regions := memory.regions.update number fun _ => region.map }) := by
  have admitted := attach_of_admits derived leads found addressed
  have obstructed : ∀ error, region.Obstacle path error →
      memory.attach path = (.error (.error error), memory) :=
    fun _ => attach_of_obstacle derived leads found addressed
  have tripped := attach_of_trips derived leads found
  -- One of three things happens, and each of them tells on the result.
  have outcome := region.admits_or_obstacle_or_trips path
  refine ⟨⟨?_, fun admits => ⟨_, congrArg Prod.fst (admitted admits)⟩⟩,
    fun error => ⟨?_, fun obstacle => congrArg Prod.fst (obstructed error obstacle)⟩,
    fun text => ⟨?_, ?_⟩, admitted, fun error obstacle => ?_, fun trips => ?_⟩
  · rintro ⟨segment, joined⟩
    obtain admits | ⟨actual, obstacle⟩ | trips := outcome
    · exact admits
    · rw [obstructed actual obstacle] at joined
      cases joined
    · rw [tripped trips] at joined
      cases joined
  · intro refused
    obtain admits | ⟨actual, obstacle⟩ | trips := outcome
    · rw [admitted admits] at refused
      cases refused
    · rw [obstructed actual obstacle] at refused
      cases refused
      exact obstacle
    · rw [tripped trips] at refused
      cases refused
  · intro crashed
    obtain admits | ⟨actual, obstacle⟩ | trips := outcome
    · rw [admitted admits] at crashed
      cases crashed
    · rw [obstructed actual obstacle] at crashed
      cases crashed
    · rw [tripped trips] at crashed
      cases crashed
      exact ⟨trips, rfl⟩
  · rintro ⟨trips, rfl⟩
    rw [tripped trips]
  · rw [obstructed error obstacle]
  · rw [tripped trips]

end

/-- A region of 200 bytes in which the greatest capacity was announced. -/
def overlong : SharedMemory :=
  ⟨Occupancy.twoNames, ⟨[.zeroed 2 200 (Region.addressSpace - 1) 1]⟩⟩

theorem trips_overlong : (Region.zeroed 2 200 (Region.addressSpace - 1) 1).Trips :=
  ⟨by decide, Nat.le_of_ble_eq_true rfl⟩

theorem attach_verdict_of_overlong :
    overlong.deriveKey "a" = .ok 2 ∧ overlong.regions.find? 2 = some 0 ∧
      ∃ region, overlong.regions.get? 0 = some region ∧
        region.size < Region.addressSpace ∧
        (overlong.attach "a").1 = .error (.crash Region.overflow) ∧
        (overlong.attach "a").2 =
          { overlong with regions := overlong.regions.update 0 fun _ => region.map } := by
  obtain ⟨-, -, crashes_iff, -, -, crashed⟩ :=
    @attach_verdict overlong "a" 2 0 _ rfl rfl rfl (by decide)
  exact ⟨rfl, rfl, _, rfl, by decide, (crashes_iff _).mpr ⟨trips_overlong, rfl⟩,
    crashed trips_overlong⟩

/-- It is not true that a region whose ring does not fit behind its header is always refused
for its layout and left as it was, nor that no handle crashes. -/
theorem misfit_not_always_refused :
    (¬ ∀ (memory : SharedMemory) (path : String) (key number : Nat) (region : Region),
      memory.deriveKey path = .ok key → memory.regions.find? key = some number →
        memory.regions.get? number = some region → region.size < Region.addressSpace →
          region.capacity < Region.addressSpace → Region.headerSize < region.size →
            region.size - Region.headerSize < region.capacity →
              ∃ text, memory.attach path =
                (.error (.error (.layoutMismatch path text)), memory)) ∧
      ¬ ∀ (memory : SharedMemory) (path : String) (text : String),
        (memory.attach path).1 ≠ .error (.crash text) := by
  have crashed := @attach_of_trips overlong "a" 2 0 _ rfl rfl rfl trips_overlong
  constructor
  · intro always
    obtain ⟨text, refused⟩ := always overlong "a" 2 0 _ rfl rfl rfl (by decide) (by decide)
      (by decide) (by decide)
    rw [crashed] at refused
    cases refused
  · intro never
    exact never overlong "a" _ (congrArg Prod.fst crashed)

end SharedMemory

end BoundedStream
