import BoundedStream.Proofs.Region.Handles
import BoundedStream.Proofs.Region.Table
import BoundedStream.Endpoint

/-!
# Rings of a host

A ring lies on the heap of a process or in a region.  Replacing the ring at one location
changes no other ring, and opening a handle of any kind or giving one up leaves every ring
that is there as it is.
-/

namespace BoundedStream

/-! ## Replacing a ring -/

namespace Host

variable {host : Host} {location : Location} {guarded : GuardedRing}

theorem region?_setGuarded (number other : Nat) :
    (host.setGuarded (.region number) guarded).region? other =
      if number = other then
        (host.region? other).map fun region => { region with guarded }
      else host.region? other :=
  RegionTable.get?_update _

theorem guarded?_setGuarded_self (present : host.guarded? location = some guarded)
    (guarded' : GuardedRing) :
    (host.setGuarded location guarded').guarded? location = some guarded' := by
  cases location with
  | heap number =>
      obtain ⟨inside, _⟩ := List.getElem?_eq_some_iff.mp present
      exact List.getElem?_set_self inside
  | region number =>
      simp only [guarded?, Option.map_eq_some_iff] at present
      obtain ⟨region, found, _⟩ := present
      simp only [guarded?, region?_setGuarded, if_pos, found, Option.map_some]

end Host

/-! ## Rings that stay -/

namespace RegionTable

/-- Every region of one table is there in another one, with the same ring. -/
def KeepsRings (table later : RegionTable) : Prop :=
  ∀ number region, table.get? number = some region →
    ∃ region', later.get? number = some region' ∧ region'.guarded = region.guarded

variable {table : RegionTable}

theorem keepsRings_refl : table.KeepsRings table :=
  fun _ region found => ⟨region, found, rfl⟩

theorem keepsRings_update {number : Nat} {region changed : Region}
    (found : table.get? number = some region) (same : changed.guarded = region.guarded) :
    table.KeepsRings (table.update number fun _ => changed) := by
  intro other old oldFound
  by_cases isNumber : other = number
  · subst isNumber
    rw [found] at oldFound
    cases oldFound
    exact ⟨changed, by simp [found], same⟩
  · exact ⟨old, by rw [get?_update_of_ne _ isNumber, oldFound], rfl⟩

theorem keepsRings_create (path : String) (key capacity mode : Nat) :
    table.KeepsRings (table.create path key capacity mode).2 := by
  unfold create
  split
  · exact keepsRings_refl
  · intro number region found
    exact ⟨region, get?_insert_of_get?_eq_some found, rfl⟩

theorem keepsRings_attach (path : String) (key : Nat) :
    table.KeepsRings (table.attach path key).2 := by
  unfold attach
  split
  · exact keepsRings_refl
  · split
    · exact keepsRings_refl
    · rename_i region found
      exact keepsRings_update found (region.guarded_join path)

theorem keepsRings_release (number : Nat) :
    table.KeepsRings (table.release number).2 := by
  unfold release
  split
  · exact keepsRings_refl
  · rename_i region found
    exact keepsRings_update found region.guarded_leave

end RegionTable

namespace Host

/-- Every ring of one host is there on another one, as it was. -/
def KeepsRings (host later : Host) : Prop :=
  ∀ location guarded, host.guarded? location = some guarded →
    later.guarded? location = some guarded

variable {host : Host}

theorem keepsRings_refl : host.KeepsRings host := fun _ _ present => present

theorem keepsRings_of_memory {later : Host} (rings : later.rings = host.rings)
    (regions : host.memory.regions.KeepsRings later.memory.regions) :
    host.KeepsRings later := by
  intro location guarded present
  cases location with
  | heap number => rwa [guarded?, rings]
  | region number =>
      simp only [guarded?, Option.map_eq_some_iff] at present ⊢
      obtain ⟨region, found, rfl⟩ := present
      exact regions number region found

theorem keepsRings_addRing (guarded : GuardedRing) :
    host.KeepsRings (host.addRing guarded).2 := by
  intro location present found
  cases location with
  | heap number =>
      obtain ⟨inside, _⟩ := List.getElem?_eq_some_iff.mp found
      simp only [addRing, guarded?]
      rw [List.getElem?_append_left inside]
      exact found
  | region number => exact found

theorem keepsRings_create (path : String) (capacity mode : Nat) :
    host.KeepsRings { host with memory := (host.memory.create path capacity mode).2 } := by
  refine keepsRings_of_memory rfl ?_
  unfold SharedMemory.create
  split
  · exact RegionTable.keepsRings_refl
  · split
    · exact RegionTable.keepsRings_refl
    · exact RegionTable.keepsRings_create path _ capacity mode

theorem keepsRings_attach (path : String) :
    host.KeepsRings { host with memory := (host.memory.attach path).2 } := by
  refine keepsRings_of_memory rfl ?_
  unfold SharedMemory.attach
  split
  · exact RegionTable.keepsRings_refl
  · exact RegionTable.keepsRings_attach path _

theorem keepsRings_drop (segment : Segment) :
    host.KeepsRings { host with memory := host.memory.drop segment } := by
  refine keepsRings_of_memory rfl ?_
  unfold SharedMemory.drop SharedMemory.release
  split
  · exact RegionTable.keepsRings_release segment.region
  · exact RegionTable.keepsRings_refl

theorem keepsRings_preparePipe (path : String) (role : Role) (mode : Nat) (flags : Int32) :
    host.KeepsRings (host.preparePipe path role mode flags).2 := by
  unfold preparePipe
  split
  · exact keepsRings_refl
  · exact keepsRings_of_memory rfl RegionTable.keepsRings_refl

theorem keepsRings_closePipe (number : Nat) : host.KeepsRings (host.closePipe number) := by
  unfold closePipe
  split
  · exact keepsRings_refl
  · exact keepsRings_of_memory rfl RegionTable.keepsRings_refl

theorem keepsRings_openBackend (config : Config) (role : Role) :
    host.KeepsRings (Transport.openBackend host config role).2 := by
  unfold Transport.openBackend
  cases config.kind with
  | namedPipe =>
      exact keepsRings_preparePipe config.path role config.mode config.flags
  | sharedMemory =>
      cases role with
      | producer => exact keepsRings_create config.path config.capacity config.mode
      | consumer => exact keepsRings_attach config.path

theorem keepsRings_connect (config : Config) (role : Role) :
    host.KeepsRings (Transport.connect host config role).2 := by
  unfold Transport.connect
  cases config.checkFor role with
  | error error => exact keepsRings_refl
  | ok _ => exact keepsRings_openBackend config role

theorem keepsRings_close (endpoint : Endpoint) : host.KeepsRings (endpoint.close host) := by
  cases endpoint with
  | segment segment => exact keepsRings_drop segment
  | pipe number => exact keepsRings_closePipe number
  | transport opened =>
      simp only [Endpoint.close, Transport.close]
      split
      · exact keepsRings_closePipe _
      · exact keepsRings_drop _
  | ring number => exact keepsRings_refl
  | monitor number => exact keepsRings_refl

end Host

end BoundedStream
