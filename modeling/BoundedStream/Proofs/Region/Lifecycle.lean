import BoundedStream.Proofs.Region.Occupancy

/-!
# The life of a region

One invariant ties the table of regions to what is known of it: every region agrees with
its founding and the number of its handles, and at most one region of each key stands.
Every event restores it, so that the answers of all later events follow from what happened
before.
-/

namespace BoundedStream

/-! ## Events as changes of the table -/

namespace SharedMemory

variable {memory : SharedMemory} {path : String} {key : Nat}

theorem create_eq {capacity : Nat} (mode : Nat) (derived : memory.deriveKey path = .ok key)
    (admitted : RegionTable.capacityRefusal? capacity = none) :
    memory.create path capacity mode =
      match memory.regions.find? key with
      | some _ => (.error (.alreadyExists path), memory)
      | none => (.ok ⟨path, memory.regions.regions.length, true, true⟩,
          { memory with regions := memory.regions.insert (.new key capacity mode) }) := by
  simp only [create, admitted, derived, RegionTable.create]
  cases memory.regions.find? key <;> rfl

theorem attach_eq_error (derived : memory.deriveKey path = .ok key)
    (nowhere : memory.regions.find? key = none) :
    memory.attach path = (.error (.error (.notFound path)), memory) := by
  simp only [attach, derived, RegionTable.attach, nowhere]
  rfl

theorem attach_eq_join {number : Nat} {region : Region}
    (derived : memory.deriveKey path = .ok key)
    (leads : memory.regions.find? key = some number)
    (found : memory.regions.get? number = some region) :
    memory.attach path =
      ((region.join path).1.map fun _ => ⟨path, number, false, true⟩,
        { memory with
          regions := memory.regions.update number fun _ => (region.join path).2 }) := by
  simp only [attach, derived, RegionTable.attach, leads, found]
  cases (region.join path).1 <;> rfl

theorem attach_eq_ok {number : Nat} {region : Region}
    (derived : memory.deriveKey path = .ok key)
    (leads : memory.regions.find? key = some number)
    (found : memory.regions.get? number = some region)
    (joins : region.join path = (.ok (), region.joined)) :
    memory.attach path = (.ok ⟨path, number, false, true⟩,
      { memory with regions := memory.regions.update number fun _ => region.joined }) := by
  rw [attach_eq_join derived leads found, joins]
  rfl

theorem remove_eq (derived : memory.deriveKey path = .ok key) :
    memory.remove path =
      match memory.regions.find? key with
      | none => (.error (.notFound path), memory)
      | some number => (.ok (),
          { memory with regions := memory.regions.update number Region.remove }) := by
  simp only [remove, derived, RegionTable.remove]
  cases memory.regions.find? key <;> rfl

variable {handle : Segment}

theorem drop_of_not_attached (detached : handle.attached = false) :
    memory.drop handle = memory := by
  simp [drop, release, detached]

theorem attached_release : (memory.release handle).2.1.attached = false := by
  unfold release
  split
  · rfl
  · rename_i detached
    simpa using detached

theorem detach_eq :
    memory.detach handle = ((memory.release handle).1, memory.drop handle) := by
  change ((memory.release handle).1,
    (memory.release handle).2.2.drop (memory.release handle).2.1) = _
  rw [drop_of_not_attached attached_release]
  rfl

theorem release_eq {region : Region} (attached : handle.attached = true)
    (found : memory.regions.get? handle.region = some region) :
    (memory.release handle).1 = region.leave.1 ∧
      memory.drop handle = { memory with
        regions := memory.regions.update handle.region fun _ => region.leave.2 } := by
  simp only [drop, release, attached, RegionTable.release, found]
  exact ⟨rfl, rfl⟩

end SharedMemory

namespace Occupancy

variable {state : Occupancy} {number : Nat}

/-! ## Counting handles -/

theorem holders_le_live (state : Occupancy) (number : Nat) :
    state.holders number ≤ state.live := by
  refine List.countP_mono_left fun handle _ holds => ?_
  rw [Bool.and_eq_true] at holds
  exact holds.1

theorem holders_append {memory : SharedMemory} {founded : List Founding} {handle : Segment}
    (attached : handle.attached = true) :
    holders ⟨memory, state.handles ++ [handle], founded⟩ number =
      state.holders number + if handle.region = number then 1 else 0 := by
  simp [holders, List.countP_append, List.countP_cons, attached]

theorem holders_letGo {index : Nat} {handle : Segment} (memory : SharedMemory)
    (number : Nat) (found : state.handles[index]? = some handle)
    (attached : handle.attached = true) :
    state.holders number = (state.letGo index handle memory).holders number +
      if handle.region = number then 1 else 0 := by
  obtain ⟨inside, isHandle⟩ := List.getElem?_eq_some_iff.mp found
  have member : handle ∈ state.handles := List.mem_of_getElem? found
  unfold holders letGo
  rw [List.countP_set inside, isHandle]
  simp only [attached, Bool.true_and, Bool.false_and, beq_iff_eq]
  by_cases ofRegion : handle.region = number
  · have positive : 0 < state.handles.countP fun handle =>
        handle.attached && handle.region == number := by
      rw [List.countP_pos_iff]
      exact ⟨handle, member, by simp [attached, ofRegion]⟩
    simp only [if_pos ofRegion]
    simp
    omega
  · simp [ofRegion]

theorem letGo_of_not_attached {index : Nat} {handle : Segment}
    (found : state.handles[index]? = some handle) (detached : handle.attached = false) :
    state.letGo index handle state.memory = state := by
  obtain ⟨inside, rfl⟩ := List.getElem?_eq_some_iff.mp found
  have same : { state.handles[index] with attached := false } = state.handles[index] := by
    rw [← detached]
  simp only [letGo, same, List.set_getElem_self]

theorem length_handles_perform_le (event : OccupancyEvent) :
    (state.perform event).handles.length ≤ state.handles.length + 1 := by
  cases event <;> simp only [perform] <;> (try split) <;> simp [letGo]

theorem live_run_le (events : List OccupancyEvent) (state : Occupancy) :
    (state.run events).live ≤ state.handles.length + events.length := by
  induction events generalizing state with
  | nil => exact List.countP_le_length
  | cons event events hypothesis =>
      have first := state.length_handles_perform_le event
      have later := hypothesis (state.perform event)
      rw [List.length_cons]
      change ((state.perform event).run events).live ≤ _
      omega

theorem live_run_start_le (files : FileSystem) (events : List OccupancyEvent) :
    ((start files).run events).live ≤ events.length := by
  simpa [start] using live_run_le events (start files)

/-! ## The invariant -/

/-- Every region agrees with what is known of it, and one of each key stands at most. -/
structure Orderly (state : Occupancy) : Prop where
  length_eq : state.memory.regions.regions.length = state.founded.length
  accords : ∀ number region founding, state.memory.regions.get? number = some region →
    state.founded[number]? = some founding →
      region.Pristine founding (state.holders number)
  distinct : state.memory.regions.Distinct
  inside : ∀ handle ∈ state.handles, handle.region < state.founded.length

namespace Orderly

theorem start (files : FileSystem) : (Occupancy.start files).Orderly where
  length_eq := rfl
  accords number region founding found := by
    simp [Occupancy.start, RegionTable.empty, RegionTable.get?] at found
  distinct := RegionTable.distinct_empty
  inside handle member := by simp [Occupancy.start] at member

theorem exists_founding (orderly : state.Orderly) {region : Region}
    (found : state.memory.regions.get? number = some region) :
    ∃ founding, state.founded[number]? = some founding ∧
      region.Pristine founding (state.holders number) := by
  have inside := RegionTable.lt_of_get?_eq_some found
  rw [orderly.length_eq] at inside
  exact ⟨_, List.getElem?_eq_getElem inside,
    orderly.accords number region _ found (List.getElem?_eq_getElem inside)⟩

theorem exists_region (orderly : state.Orderly) {founding : Founding}
    (founded : state.founded[number]? = some founding) :
    ∃ region, state.memory.regions.get? number = some region ∧
      region.Pristine founding (state.holders number) := by
  obtain ⟨inside, -⟩ := List.getElem?_eq_some_iff.mp founded
  rw [← orderly.length_eq] at inside
  exact ⟨_, List.getElem?_eq_getElem inside,
    orderly.accords number _ founding (List.getElem?_eq_getElem inside) founded⟩

/-- A key leads to a region exactly while the region stands for it. -/
theorem find?_eq_some_iff (orderly : state.Orderly) {key : Nat} :
    state.memory.regions.find? key = some number ↔ state.Stands key number := by
  rw [orderly.distinct.find?_eq_some_iff]
  constructor
  · rintro ⟨region, found, rfl, present⟩
    obtain ⟨founding, founded, accords⟩ := orderly.exists_founding found
    rw [accords.removed_eq, Bool.or_eq_false_iff, decide_eq_false_iff_not] at present
    exact ⟨founding, founded, accords.key_eq.symm, present.1, by omega⟩
  · rintro ⟨founding, founded, rfl, standing, held⟩
    obtain ⟨region, found, accords⟩ := orderly.exists_region founded
    refine ⟨region, found, accords.key_eq, ?_⟩
    rw [accords.removed_eq, standing, Bool.false_or, decide_eq_false_iff_not]
    omega

theorem find?_eq_none_iff (orderly : state.Orderly) {key : Nat} :
    state.memory.regions.find? key = none ↔ ¬ ∃ number, state.Stands key number := by
  rw [Option.eq_none_iff_forall_ne_some, not_exists]
  exact forall_congr' fun number => not_congr orderly.find?_eq_some_iff

/-- One region may change along with the number of its own handles. -/
theorem replace (orderly : state.Orderly) {later : Occupancy} {region changed : Region}
    {founding : Founding} (found : state.memory.regions.get? number = some region)
    (founded : state.founded[number]? = some founding)
    (regions : later.memory.regions = state.memory.regions.update number fun _ => changed)
    (sameFounded : later.founded = state.founded)
    (accords : changed.Pristine founding (later.holders number))
    (remains : changed.removed = false → region.removed = false)
    (others : ∀ other, other ≠ number → later.holders other = state.holders other)
    (inside : ∀ handle ∈ later.handles, handle.region < state.founded.length) :
    later.Orderly where
  length_eq := by
    rw [regions, sameFounded, RegionTable.length_update, orderly.length_eq]
  accords other otherRegion otherFounding otherFound otherFounded := by
    rw [sameFounded] at otherFounded
    rw [regions] at otherFound
    by_cases same : other = number
    · subst same
      rw [RegionTable.get?_update_self, found] at otherFound
      rw [founded] at otherFounded
      cases otherFound
      cases otherFounded
      exact accords
    · rw [RegionTable.get?_update_of_ne _ same] at otherFound
      rw [others other same]
      exact orderly.accords other otherRegion otherFounding otherFound otherFounded
  distinct := by
    rw [regions]
    have sameKey : changed.key = region.key := by
      rw [accords.key_eq, (orderly.accords number region founding found founded).key_eq]
    exact orderly.distinct.update _ found sameKey remains
  inside := by
    rw [sameFounded]
    exact inside

theorem found (orderly : state.Orderly) {key capacity : Nat} (path : String) (mode : Nat)
    (admitted : RegionTable.capacityRefusal? capacity = none)
    (nowhere : state.memory.regions.find? key = none) :
    (Occupancy.mk
      { state.memory with regions := state.memory.regions.insert (.new key capacity mode) }
      (state.handles ++ [⟨path, state.memory.regions.regions.length, true, true⟩])
      (state.founded ++ [⟨key, capacity, false⟩])).Orderly where
  length_eq := by
    simp [RegionTable.insert, orderly.length_eq]
  accords other region founding otherFound otherFounded := by
    rw [holders_append rfl]
    by_cases isNew : other = state.memory.regions.regions.length
    · subst isNew
      rw [RegionTable.get?_insert_self] at otherFound
      rw [orderly.length_eq, List.getElem?_concat_length] at otherFounded
      cases otherFound
      cases otherFounded
      have unheld : state.holders state.memory.regions.regions.length = 0 := by
        rw [holders, List.countP_eq_zero]
        intro handle member
        have below := orderly.inside handle member
        rw [← orderly.length_eq] at below
        simp
        omega
      rw [unheld, if_pos rfl]
      exact Region.pristine_new key mode admitted
    · rw [RegionTable.get?_insert_of_ne isNew] at otherFound
      have below := RegionTable.lt_of_get?_eq_some otherFound
      rw [orderly.length_eq] at below
      rw [List.getElem?_append_left below] at otherFounded
      rw [if_neg (Ne.symm isNew)]
      exact orderly.accords other region founding otherFound otherFounded
  distinct := orderly.distinct.insert nowhere
  inside handle member := by
    rw [List.length_append, List.length_singleton]
    rcases List.mem_append.mp member with old | new
    · have := orderly.inside handle old
      omega
    · rw [List.mem_singleton] at new
      subst new
      have := orderly.length_eq
      dsimp only
      omega

theorem joined (orderly : state.Orderly) {key : Nat} {region : Region} (path : String)
    (leads : state.memory.regions.find? key = some number)
    (found : state.memory.regions.get? number = some region) (few : state.live < 1 <<< 31) :
    region.join path = (.ok (), region.joined) ∧
      (Occupancy.mk
        { state.memory with
          regions := state.memory.regions.update number fun _ => region.joined }
        (state.handles ++ [⟨path, number, false, true⟩]) state.founded).Orderly := by
  obtain ⟨founding, founded, -, -, held⟩ := orderly.find?_eq_some_iff.mp leads
  have accords := orderly.accords number region founding found founded
  have bound := Nat.lt_of_le_of_lt (state.holders_le_live number) few
  obtain ⟨joins, accordsJoined⟩ := accords.join held bound path
  refine ⟨joins, orderly.replace found founded rfl rfl ?_ id ?_ ?_⟩
  · rw [holders_append rfl, if_pos rfl]
    exact ⟨accordsJoined, accords.guarded_eq⟩
  · intro other distinct
    rw [holders_append rfl, if_neg (Ne.symm distinct)]
    rfl
  · intro handle member
    rcases List.mem_append.mp member with old | new
    · exact orderly.inside handle old
    · rw [List.mem_singleton] at new
      subst new
      exact (List.getElem?_eq_some_iff.mp founded).1

theorem left (orderly : state.Orderly) {index : Nat} {handle : Segment} {region : Region}
    (isHandle : state.handles[index]? = some handle) (attached : handle.attached = true)
    (found : state.memory.regions.get? handle.region = some region)
    (few : state.live < 1 <<< 31) :
    (state.letGo index handle { state.memory with
      regions := state.memory.regions.update handle.region
        fun _ => region.leave.2 }).Orderly := by
  obtain ⟨founding, founded, accords⟩ := orderly.exists_founding found
  have counted := fun number memory => holders_letGo memory number isHandle attached
  have bound := Nat.lt_of_le_of_lt (state.holders_le_live handle.region) few
  rw [counted handle.region { state.memory with
    regions := state.memory.regions.update handle.region fun _ => region.leave.2 },
    if_pos rfl] at accords bound
  have left := (accords.leave (by omega)).2
  have guarded := region.guarded_leave.trans accords.guarded_eq
  refine orderly.replace found founded rfl rfl ⟨left, guarded⟩ ?_ ?_ ?_
  · intro remains
    rw [left.removed_eq, Bool.or_eq_false_iff] at remains
    rw [accords.removed_eq, remains.1]
    rfl
  · intro other distinct
    have others := counted other { state.memory with
      regions := state.memory.regions.update handle.region fun _ => region.leave.2 }
    rw [if_neg (Ne.symm distinct)] at others
    exact others.symm
  · intro other member
    have inside := orderly.inside handle (List.mem_of_getElem? isHandle)
    rcases List.mem_or_eq_of_mem_set member with old | rfl
    · exact orderly.inside other old
    · exact inside

/-- A key that is removed leaves its region, which may still be held. -/
theorem bereave (orderly : state.Orderly) {key : Nat}
    (leads : state.memory.regions.find? key = some number) :
    (Occupancy.mk
      { state.memory with regions := state.memory.regions.update number Region.remove }
      state.handles (state.founded.map (Founding.bereave key))).Orderly := by
  obtain ⟨gone, found, rfl, present⟩ := RegionTable.get?_of_find?_eq_some leads
  refine ⟨?_, ?_, orderly.distinct.update _ found rfl (by simp [Region.remove]), ?_⟩
  · rw [RegionTable.length_update, List.length_map, orderly.length_eq]
  · intro other region founding otherFound otherFounded
    rw [List.getElem?_map, Option.map_eq_some_iff] at otherFounded
    obtain ⟨before, foundedBefore, rfl⟩ := otherFounded
    by_cases same : other = number
    · subst same
      rw [RegionTable.get?_update_self, found] at otherFound
      cases otherFound
      have accords := orderly.accords other gone before found foundedBefore
      rw [Founding.bereave, if_pos accords.key_eq.symm]
      exact ⟨accords.remove, accords.guarded_eq⟩
    · rw [RegionTable.get?_update_of_ne _ same] at otherFound
      have accords := orderly.accords other region before otherFound foundedBefore
      by_cases sameKey : before.key = gone.key
      · -- A former region of the key lost it before.
        have former := orderly.distinct number gone found present other region same
          otherFound (accords.key_eq.trans sameKey)
        rw [Founding.bereave, if_pos sameKey]
        exact { accords with removed_eq := by simpa using former }
      · rw [Founding.bereave, if_neg sameKey]
        exact accords
  · intro handle member
    rw [List.length_map]
    exact orderly.inside handle member

end Orderly

/-! ## Steps -/

/-- Everything that an event can do. -/
inductive Step (state : Occupancy) : Occupancy → Prop
  | rearrange (files : FileSystem) :
      Step state { state with memory := { state.memory with files } }
  | found (path : String) (key capacity mode : Nat)
      (admitted : RegionTable.capacityRefusal? capacity = none)
      (nowhere : state.memory.regions.find? key = none) :
      Step state ⟨
        { state.memory with
          regions := state.memory.regions.insert (.new key capacity mode) },
        state.handles ++ [⟨path, state.memory.regions.regions.length, true, true⟩],
        state.founded ++ [⟨key, capacity, false⟩]⟩
  | join (path : String) (key number : Nat) (region : Region)
      (leads : state.memory.regions.find? key = some number)
      (found : state.memory.regions.get? number = some region) :
      Step state ⟨
        { state.memory with
          regions := state.memory.regions.update number fun _ => region.joined },
        state.handles ++ [⟨path, number, false, true⟩], state.founded⟩
  | leave (index : Nat) (handle : Segment) (region : Region)
      (isHandle : state.handles[index]? = some handle) (attached : handle.attached = true)
      (found : state.memory.regions.get? handle.region = some region) :
      Step state (state.letGo index handle { state.memory with
        regions := state.memory.regions.update handle.region fun _ => region.leave.2 })
  | bereave (key number : Nat) (leads : state.memory.regions.find? key = some number) :
      Step state ⟨
        { state.memory with
          regions := state.memory.regions.update number Region.remove },
        state.handles, state.founded.map (Founding.bereave key)⟩

namespace Orderly

private theorem step_refl : Step state state := .rearrange state.memory.files

private theorem step_create (path : String) (capacity mode : Nat) :
    Step state (state.perform (.create path capacity mode)) := by
  cases admitted : RegionTable.capacityRefusal? capacity with
  | some error =>
      have refused : state.memory.create path capacity mode =
          (.error error, state.memory) := by
        simp only [SharedMemory.create, admitted]
      simpa only [Occupancy.perform, refused] using step_refl
  | none =>
      cases derived : state.memory.deriveKey path with
      | error error =>
          have refused : state.memory.create path capacity mode =
              (.error error, state.memory) := by
            simp only [SharedMemory.create, admitted, derived]
          simpa only [Occupancy.perform, refused] using step_refl
      | ok key =>
          have created := SharedMemory.create_eq mode derived admitted
          cases nowhere : state.memory.regions.find? key with
          | some number =>
              rw [nowhere] at created
              simpa only [Occupancy.perform, created] using step_refl
          | none =>
              rw [nowhere] at created
              simp only [Occupancy.perform, created, derived]
              exact .found path key capacity mode admitted nowhere

private theorem step_attach (orderly : state.Orderly) (few : state.live < 1 <<< 31)
    (path : String) : Step state (state.perform (.attach path)) := by
  cases derived : state.memory.deriveKey path with
  | error error =>
      have refused : state.memory.attach path = (.error (.error error), state.memory) := by
        simp only [SharedMemory.attach, derived]
      simpa only [Occupancy.perform, refused] using step_refl
  | ok key =>
      cases leads : state.memory.regions.find? key with
      | none =>
          have refused := SharedMemory.attach_eq_error derived leads
          simpa only [Occupancy.perform, refused] using step_refl
      | some number =>
          obtain ⟨region, found, -⟩ := RegionTable.get?_of_find?_eq_some leads
          have joins := (orderly.joined path leads found few).1
          have attached := SharedMemory.attach_eq_ok derived leads found joins
          simp only [Occupancy.perform, attached]
          exact .join path key number region leads found

private theorem step_letGo (orderly : state.Orderly) {index : Nat} {handle : Segment}
    (isHandle : state.handles[index]? = some handle) :
    Step state (state.letGo index handle (state.memory.drop handle)) := by
  cases attached : handle.attached with
  | false =>
      rw [SharedMemory.drop_of_not_attached attached, letGo_of_not_attached isHandle attached]
      exact step_refl
  | true =>
      have inside := orderly.inside handle (List.mem_of_getElem? isHandle)
      obtain ⟨region, found, -⟩ := orderly.exists_region (List.getElem?_eq_getElem inside)
      rw [(SharedMemory.release_eq attached found).2]
      exact .leave index handle region isHandle attached found

private theorem step_remove (path : String) :
    Step state (state.perform (.remove path)) := by
  cases derived : state.memory.deriveKey path with
  | error error =>
      have refused : state.memory.remove path = (.error error, state.memory) := by
        simp only [SharedMemory.remove, derived]
      simpa only [Occupancy.perform, refused] using step_refl
  | ok key =>
      have removed := SharedMemory.remove_eq derived
      cases leads : state.memory.regions.find? key with
      | none =>
          rw [leads] at removed
          simpa only [Occupancy.perform, removed] using step_refl
      | some number =>
          rw [leads] at removed
          simp only [Occupancy.perform, removed, derived]
          exact .bereave key number leads

theorem step_perform (orderly : state.Orderly) (few : state.live < 1 <<< 31)
    (event : OccupancyEvent) : Step state (state.perform event) := by
  cases event with
  | create path capacity mode => exact step_create path capacity mode
  | attach path => exact orderly.step_attach few path
  | detach number =>
      simp only [Occupancy.perform]
      cases found : state.handles[number]? with
      | none => exact step_refl
      | some handle =>
          simp only [SharedMemory.detach_eq]
          exact orderly.step_letGo found
  | drop number =>
      simp only [Occupancy.perform]
      cases found : state.handles[number]? with
      | none => exact step_refl
      | some handle => exact orderly.step_letGo found
  | remove path => exact step_remove path
  | rearrange files => exact .rearrange files

variable {later : Occupancy}

theorem step (orderly : state.Orderly) (few : state.live < 1 <<< 31)
    (step : Step state later) : later.Orderly := by
  cases step with
  | rearrange files =>
      exact ⟨orderly.length_eq, orderly.accords, orderly.distinct, orderly.inside⟩
  | found path key capacity mode admitted nowhere =>
      exact orderly.found path mode admitted nowhere
  | join path key number region leads found =>
      exact (orderly.joined path leads found few).2
  | leave index handle region isHandle attached found =>
      exact orderly.left isHandle attached found few
  | bereave key number leads => exact orderly.bereave leads

theorem founded_length_le (step : Step state later) :
    state.founded.length ≤ later.founded.length := by
  cases step with
  | found => simp
  | bereave => simp
  | _ => exact Nat.le_refl _

/-- Nobody comes to hold a region again that was left by all. -/
theorem holders_eq_zero (orderly : state.Orderly) (step : Step state later)
    (inside : number < state.founded.length) (left : state.holders number = 0) :
    later.holders number = 0 := by
  cases step with
  | rearrange files => exact left
  | found path key capacity mode admitted nowhere =>
      rw [← orderly.length_eq] at inside
      rw [holders_append rfl, if_neg (by dsimp only; omega)]
      exact left
  | join path key leader region leads found =>
      obtain ⟨-, -, -, -, held⟩ := orderly.find?_eq_some_iff.mp leads
      have distinct : leader ≠ number := by
        rintro rfl
        omega
      rw [holders_append rfl, if_neg distinct]
      exact left
  | leave index handle region isHandle attached found =>
      have counted := holders_letGo { state.memory with
        regions := state.memory.regions.update handle.region fun _ => region.leave.2 }
        number isHandle attached
      omega
  | bereave key leader leads => exact left

theorem run (orderly : state.Orderly) {events : List OccupancyEvent}
    (few : ∀ before, before <+: events → (state.run before).live < 1 <<< 31) :
    (state.run events).Orderly := by
  induction events generalizing state with
  | nil => exact orderly
  | cons event events hypothesis =>
      have fewNow := few [] List.nil_prefix
      have next := orderly.step fewNow (orderly.step_perform fewNow event)
      refine hypothesis next fun before isBefore => ?_
      exact few (event :: before) (List.cons_prefix_cons.mpr ⟨rfl, isBefore⟩)

end Orderly

/-! ## What users see -/

/-- What the users of shared memory may rely on. -/
structure Lawful (state : Occupancy) : Prop where
  /-- A region counts the handles that hold it, and the system counts the same. -/
  counts : ∀ number region, state.memory.regions.get? number = some region →
    region.references.toInt = state.holders number ∧
      region.mappings = state.holders number
  /-- A key leads to a region exactly while the region stands for it. -/
  leads : ∀ key number,
    state.memory.regions.find? key = some number ↔ state.Stands key number
  /-- A region is made for a file exactly when none stands for its key. -/
  creates : ∀ path key capacity mode, state.memory.deriveKey path = .ok key →
    RegionTable.capacityRefusal? capacity = none →
      ((state.memory.create path capacity mode).1 = .error (.alreadyExists path) ↔
          ∃ number, state.Stands key number) ∧
        ((¬ ∃ number, state.Stands key number) →
          (state.memory.create path capacity mode).1 =
            .ok ⟨path, state.founded.length, true, true⟩)
  /-- Attaching finds the region that stands, and nothing exactly when there is none. -/
  attaches : ∀ path key, state.memory.deriveKey path = .ok key →
    ((state.memory.attach path).1 = .error (.error (.notFound path)) ↔
        ¬ ∃ number, state.Stands key number) ∧
      ∀ number, state.Stands key number →
        (state.memory.attach path).1 = .ok ⟨path, number, false, true⟩
  /-- So does removing. -/
  removes : ∀ path key, state.memory.deriveKey path = .ok key →
    ((state.memory.remove path).1 = .error (.notFound path) ↔
        ¬ ∃ number, state.Stands key number) ∧
      ((∃ number, state.Stands key number) → (state.memory.remove path).1 = .ok ())
  /-- Detaching answers the number of handles that are left. -/
  detaches : ∀ index handle, state.handles[index]? = some handle →
    handle.attached = true →
      (state.memory.detach handle).1.toInt =
        (state.perform (.detach index)).holders handle.region
  /-- Dropping a handle that was detached changes nothing. -/
  drops : ∀ index handle, state.handles[index]? = some handle →
    handle.attached = false → state.perform (.drop index) = state
  /-- The ring of a region is destroyed in the step that releases its last handle, and in
  no other one. -/
  destroys : ∀ number region event, state.memory.regions.get? number = some region →
    region.destructions = (if state.holders number = 0 then 1 else 0) ∧
      ∃ later, (state.perform event).memory.regions.get? number = some later ∧
        later.destructions = region.destructions +
          if 0 < state.holders number ∧ (state.perform event).holders number = 0 then 1
          else 0
  /-- All handles of a region see the ring with which it was made. -/
  sees : ∀ handle ∈ state.handles, ∃ region founding,
    state.memory.regions.get? handle.region = some region ∧
      state.founded[handle.region]? = some founding ∧
      region.guarded = .new founding.capacity true

namespace Orderly

theorem counts (orderly : state.Orderly) (few : state.live < 1 <<< 31) {region : Region}
    (found : state.memory.regions.get? number = some region) :
    region.references.toInt = state.holders number ∧
      region.mappings = state.holders number := by
  obtain ⟨founding, -, accords⟩ := orderly.exists_founding found
  have bound := Nat.lt_of_le_of_lt (state.holders_le_live number) few
  rw [accords.references_eq, Int32.toInt_ofNat_of_lt bound]
  exact ⟨rfl, accords.mappings_eq⟩

theorem creates (orderly : state.Orderly) {path : String} {key capacity : Nat} (mode : Nat)
    (derived : state.memory.deriveKey path = .ok key)
    (admitted : RegionTable.capacityRefusal? capacity = none) :
    ((state.memory.create path capacity mode).1 = .error (.alreadyExists path) ↔
        ∃ number, state.Stands key number) ∧
      ((¬ ∃ number, state.Stands key number) →
        (state.memory.create path capacity mode).1 =
          .ok ⟨path, state.founded.length, true, true⟩) := by
  rw [← orderly.find?_eq_none_iff, SharedMemory.create_eq mode derived admitted]
  cases leads : state.memory.regions.find? key with
  | none =>
      have nobody := orderly.find?_eq_none_iff.mp leads
      simp [nobody, orderly.length_eq]
  | some number =>
      have stands := orderly.find?_eq_some_iff.mp leads
      exact ⟨⟨fun _ => ⟨number, stands⟩, fun _ => rfl⟩, fun nowhere => nomatch nowhere⟩

theorem attaches (orderly : state.Orderly) (few : state.live < 1 <<< 31) {path : String}
    {key : Nat} (derived : state.memory.deriveKey path = .ok key) :
    ((state.memory.attach path).1 = .error (.error (.notFound path)) ↔
        ¬ ∃ number, state.Stands key number) ∧
      ∀ number, state.Stands key number →
        (state.memory.attach path).1 = .ok ⟨path, number, false, true⟩ := by
  have answers : ∀ number, state.Stands key number →
      (state.memory.attach path).1 = .ok ⟨path, number, false, true⟩ := by
    intro number stands
    have leads := orderly.find?_eq_some_iff.mpr stands
    obtain ⟨region, found, -⟩ := RegionTable.get?_of_find?_eq_some leads
    have joins := (orderly.joined path leads found few).1
    rw [SharedMemory.attach_eq_ok derived leads found joins]
  refine ⟨⟨?_, fun nobody => ?_⟩, answers⟩
  · rintro refused ⟨number, stands⟩
    rw [answers number stands] at refused
    cases refused
  · rw [SharedMemory.attach_eq_error derived (orderly.find?_eq_none_iff.mpr nobody)]

theorem removes (orderly : state.Orderly) {path : String} {key : Nat}
    (derived : state.memory.deriveKey path = .ok key) :
    ((state.memory.remove path).1 = .error (.notFound path) ↔
        ¬ ∃ number, state.Stands key number) ∧
      ((∃ number, state.Stands key number) → (state.memory.remove path).1 = .ok ()) := by
  rw [← orderly.find?_eq_none_iff, SharedMemory.remove_eq derived]
  cases leads : state.memory.regions.find? key with
  | none =>
      have nobody := orderly.find?_eq_none_iff.mp leads
      exact ⟨⟨fun _ => rfl, fun _ => rfl⟩, fun stands => absurd stands nobody⟩
  | some number => simp

theorem detaches (orderly : state.Orderly) (few : state.live < 1 <<< 31) {index : Nat}
    {handle : Segment} (isHandle : state.handles[index]? = some handle)
    (attached : handle.attached = true) :
    (state.memory.detach handle).1.toInt =
      (state.perform (.detach index)).holders handle.region := by
  have inside := orderly.inside handle (List.mem_of_getElem? isHandle)
  obtain ⟨region, found, accords⟩ := orderly.exists_region (List.getElem?_eq_getElem inside)
  have counted := holders_letGo (state.memory.drop handle) handle.region isHandle attached
  have bound := Nat.lt_of_le_of_lt (state.holders_le_live handle.region) few
  rw [if_pos rfl] at counted
  rw [counted] at accords bound
  simp only [Occupancy.perform, isHandle, SharedMemory.detach_eq]
  rw [(SharedMemory.release_eq attached found).1, (accords.leave (by omega)).1,
    Int32.toInt_ofNat_of_lt (by omega)]

theorem destroys (orderly : state.Orderly) (few : state.live < 1 <<< 31) {region : Region}
    (event : OccupancyEvent) (found : state.memory.regions.get? number = some region) :
    region.destructions = (if state.holders number = 0 then 1 else 0) ∧
      ∃ later, (state.perform event).memory.regions.get? number = some later ∧
        later.destructions = region.destructions +
          if 0 < state.holders number ∧ (state.perform event).holders number = 0 then 1
          else 0 := by
  obtain ⟨founding, founded, accords⟩ := orderly.exists_founding found
  have inside := (List.getElem?_eq_some_iff.mp founded).1
  have step := orderly.step_perform few event
  have orderlyLater := orderly.step few step
  have insideLater := Nat.lt_of_lt_of_le inside (founded_length_le step)
  obtain ⟨later, foundLater, accordsLater⟩ :=
    orderlyLater.exists_region (List.getElem?_eq_getElem insideLater)
  refine ⟨accords.destructions_eq, later, foundLater, ?_⟩
  rw [accords.destructions_eq, accordsLater.destructions_eq]
  by_cases left : state.holders number = 0
  · have stays := orderly.holders_eq_zero step inside left
    simp [left, stays]
  · have held : 0 < state.holders number := by omega
    simp [left, held]

/-- Users may rely on the law whenever there are few handles. -/
theorem lawful (orderly : state.Orderly) (few : state.live < 1 <<< 31) : state.Lawful where
  counts _ _ found := orderly.counts few found
  leads _ _ := orderly.find?_eq_some_iff
  creates _ _ _ mode derived admitted := orderly.creates mode derived admitted
  attaches _ _ derived := orderly.attaches few derived
  removes _ _ derived := orderly.removes derived
  detaches _ _ isHandle attached := orderly.detaches few isHandle attached
  drops index handle isHandle detached := by
    simp only [Occupancy.perform, isHandle, SharedMemory.drop_of_not_attached detached]
    exact letGo_of_not_attached isHandle detached
  destroys _ _ event found := orderly.destroys few event found
  sees handle member := by
    have founded := List.getElem?_eq_getElem (orderly.inside handle member)
    obtain ⟨region, found, accords⟩ := orderly.exists_region founded
    exact ⟨region, _, found, founded, accords.guarded_eq⟩

end Orderly

/-- From a machine without regions on, whatever its files are, the law of regions holds
after every sequence of events in which there are never too many handles at once. -/
theorem run_lawful (files : FileSystem) (events : List OccupancyEvent)
    (few : ∀ before, before <+: events → ((start files).run before).live < 1 <<< 31) :
    ((start files).run events).Lawful :=
  ((Orderly.start files).run few).lawful (few events (List.prefix_refl events))

/-- A file with two names. -/
def twoNames : FileSystem :=
  ⟨[⟨0o755, .directory 0 [("work", 1)]⟩,
    ⟨0o755, .directory 0 [("a", 2), ("b", 2)]⟩, ⟨0o644, .file #[]⟩], 1, 0o022⟩

/-- The first region of a file lost its key and is still held under the second name, while
the file has another region. -/
theorem run_lawful_of_two_names :
    let state := (start twoNames).run
      [.create "a" 4 0o600, .attach "b", .remove "b", .create "a" 3 0o600, .detach 0]
    state.Lawful ∧ state.handles.map Segment.region = [0, 0, 1] ∧
      state.holders 0 = 1 ∧ state.holders 1 = 1 := by
  refine ⟨run_lawful twoNames _ fun before isBefore => ?_, rfl, rfl, rfl⟩
  have short : before.length ≤ 5 := isBefore.length_le
  exact Nat.lt_of_le_of_lt (live_run_start_le twoNames before) (by omega)

end Occupancy

end BoundedStream
