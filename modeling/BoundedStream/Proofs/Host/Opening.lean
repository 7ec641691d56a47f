import BoundedStream.Proofs.Config.Validation
import BoundedStream.Proofs.Pipe.Preparation
import BoundedStream.Proofs.Region.Admission
import BoundedStream.Transport

/-!
# Opening transports

A configuration that was checked for a role asks for nothing that the backend would refuse for
its own reasons.  To open a transport is one of four things: a producer founds a region, a
consumer joins one, either of them takes the path of a pipe as it is, or a producer makes the
FIFO of the pipe.  Whatever is refused, nothing has changed; a consumer only crashes at a
region that nobody has founded.
-/

namespace BoundedStream

/-! ## What the check rules out -/

namespace Config

variable {config : Config} {role : Role}

theorem mode_le_of_checkFor (valid : config.checkFor role = .ok ()) :
    config.mode ≤ greatestMode :=
  (checkFor_eq_ok_iff.mp valid).mode

/-- Only a consumer of shared memory may ask for no capacity, and only shared memory for
any. -/
theorem capacity_of_checkFor (valid : config.checkFor role = .ok ()) :
    config.capacity ≤ greatestCapacity ∧
      (config.kind = .sharedMemory → role = .producer → leastCapacity ≤ config.capacity) := by
  have fit := checkFor_eq_ok_iff.mp valid
  cases kind : config.kind with
  | namedPipe =>
      rw [fit.noCapacity kind]
      exact ⟨Nat.zero_le _, nofun⟩
  | sharedMemory =>
      rcases fit.capacity kind with ⟨rfl, none⟩ | ⟨least, greatest⟩
      · rw [none]
        exact ⟨Nat.zero_le _, fun _ produces => by cases produces⟩
      · exact ⟨greatest, fun _ _ => least⟩

end Config

/-- The capacities that a region may have are those that the check of a producer accepts. -/
theorem RegionTable.capacityRefusal?_eq_none_iff {capacity : Nat} :
    capacityRefusal? capacity = none ↔
      Config.leastCapacity ≤ capacity ∧ capacity ≤ Config.greatestCapacity := by
  by_cases outside : capacity = 0 ∨ greatestCapacity < capacity
  · rw [capacityRefusal?, if_pos outside]
    simp only [Config.leastCapacity, Config.greatestCapacity, greatestCapacity] at outside ⊢
    constructor
    · rintro ⟨⟩
    · omega
  · rw [capacityRefusal?, if_neg outside]
    simp only [Config.leastCapacity, Config.greatestCapacity, greatestCapacity] at outside ⊢
    exact ⟨fun _ => by omega, fun _ => trivial⟩

/-- The check of a producer finds fault with a capacity exactly when no region is made with
it. -/
theorem Config.checkBackend_eq_outOfBounds_iff {config : Config}
    (shared : config.kind = .sharedMemory) :
    config.checkBackend .producer = .error (.capacityOutOfBounds config.capacity leastCapacity
        greatestCapacity) ↔
      RegionTable.capacityRefusal? config.capacity ≠ none := by
  rw [ne_eq, RegionTable.capacityRefusal?_eq_none_iff, checkBackend, shared]
  by_cases bounded : leastCapacity ≤ config.capacity ∧ config.capacity ≤ greatestCapacity
  · simp only [bounded, and_self, not_true_eq_false, and_false, if_false, iff_false]
    split <;> simp
  · simp [bounded]

/-- Making a region is refused for its capacity only if the capacity is not one that a region
may have. -/
theorem SharedMemory.create_ne_invalidCapacity {memory : SharedMemory} {capacity : Nat}
    (admitted : RegionTable.capacityRefusal? capacity = none) (path : String) (mode given : Nat)
    (reason : String) :
    (memory.create path capacity mode).1 ≠ .error (.invalidCapacity given reason) := by
  cases derived : memory.deriveKey path with
  | error error =>
      simp only [create, admitted, derived]
      rintro ⟨⟩
      unfold deriveKey at derived
      split at derived <;> cases derived
  | ok key =>
      rw [create_eq mode derived admitted]
      cases memory.regions.find? key <;> simp

/-- Joining a region never fails for a capacity. -/
theorem SharedMemory.attach_ne_invalidCapacity (memory : SharedMemory) (path : String)
    (given : Nat) (reason : String) :
    (memory.attach path).1 ≠ .error (.error (.invalidCapacity given reason)) := by
  cases derived : memory.deriveKey path with
  | error error =>
      simp only [attach, derived]
      rintro ⟨⟩
      unfold deriveKey at derived
      split at derived <;> cases derived
  | ok key =>
      cases leads : memory.regions.find? key with
      | none =>
          rw [attach_eq_error derived leads]
          simp
      | some number =>
          obtain ⟨region, present, -⟩ := RegionTable.get?_of_find?_eq_some leads
          rw [attach_eq_join derived leads present, Region.join_eq]
          rcases refused : region.refusal? path with _ | error | text
          · dsimp only
            split <;> simp [Except.map]
          · rintro ⟨⟩
            simp only [Region.refusal?] at refused
            split at refused
            · cases refused
            · split at refused
              · cases refused
              · split at refused
                · cases refused
                · split at refused <;> cases refused
          · simp [Except.map]

/-! ## The ways to open a transport -/

/-- What opening a transport has made of a host. -/
inductive Opening (host : Host) (config : Config) : Role → Transport → Host → Prop
  /-- A producer founds a region, of which he has the only handle. -/
  | founds (kind_eq : config.kind = .sharedMemory) (region : Region)
      (derived : host.memory.deriveKey config.path = .ok region.key)
      (nowhere : host.memory.regions.find? region.key = none)
      (one : region.references = 1) (mapped : region.mappings = 1)
      (empty : region.guarded.ring = .empty config.capacity)
      (free : region.guarded.monitor = .new)
      (size_eq : region.size = Region.headerSize + config.capacity)
      (mode_eq : region.mode = config.mode) (present : region.removed = false) :
      Opening host config .producer
        ⟨config, .producer,
          .segment ⟨config.path, host.memory.regions.regions.length, true, true⟩⟩
        { host with
          memory := { host.memory with regions := host.memory.regions.insert region } }
  /-- A consumer joins the region that is there. -/
  | joins (kind_eq : config.kind = .sharedMemory) (key number : Nat) (region : Region)
      (derived : host.memory.deriveKey config.path = .ok key)
      (leads : host.memory.regions.find? key = some number)
      (present : host.region? number = some region)
      (held : region.references ≠ 0) :
      Opening host config .consumer
        ⟨config, .consumer, .segment ⟨config.path, number, false, true⟩⟩
        (host.updateRegion number fun _ =>
          { region with references := region.references + 1, mappings := region.mappings + 1 })
  /-- The path of a pipe is taken as it is; nothing may be there yet for a consumer. -/
  | takes (kind_eq : config.kind = .namedPipe) (role : Role)
      (usable : role = .producer → Pipe.leadsToFifo host.files config.path = true) :
      Opening host config role ⟨config, role, .pipe host.pipes.length⟩
        { host with pipes := host.pipes ++ [.closed config.path role config.flags] }
  /-- A producer makes the FIFO where nothing is. -/
  | makes (kind_eq : config.kind = .namedPipe) (files : FileSystem) (directory : Nat)
      (name : String)
      (absent : host.files.lookup false config.path = .ok (.absent directory name))
      (adds : host.files.Adds files directory name
        ⟨host.files.masked config.mode, .fifo .new⟩)
      (leads : files.resolve true config.path = .ok host.files.inodes.length) :
      Opening host config .producer ⟨config, .producer, .pipe host.pipes.length⟩
        { host.withFiles files with
          pipes := host.pipes ++ [.closed config.path .producer config.flags] }

/-- A consumer comes upon a region in which the end of the announced ring is no address, and
leaves it mapped. -/
inductive Stumbles (host : Host) (config : Config) : Role → String → Host → Prop
  | overflow (kind_eq : config.kind = .sharedMemory) (key number : Nat) (region : Region)
      (derived : host.memory.deriveKey config.path = .ok key)
      (leads : host.memory.regions.find? key = some number)
      (present : host.region? number = some region) (trips : region.Trips) :
      Stumbles host config .consumer Region.overflow
        (host.updateRegion number Region.map)

/-- How opening a transport ends. -/
def Opens (host : Host) (config : Config) (role : Role) :
    Except (Failure StreamError) Transport × Host → Prop
  | (.error (.error _), later) => later = host
  | (.error (.crash text), later) => Stumbles host config role text later
  | (.ok transport, later) => Opening host config role transport later

namespace Transport

variable {host : Host} {config : Config} {role : Role}

private theorem opens_create (shared : config.kind = .sharedMemory)
    (valid : config.checkFor .producer = .ok ()) :
    Opens host config .producer (connect host config .producer) := by
  have admitted := RegionTable.capacityRefusal?_eq_none_iff.mpr
    ⟨(Config.capacity_of_checkFor valid).2 shared rfl, (Config.capacity_of_checkFor valid).1⟩
  cases derived : host.memory.deriveKey config.path with
  | error error =>
      simp only [connect, valid, openBackend, shared, SharedMemory.create, admitted, derived]
      rfl
  | ok key =>
      have created := SharedMemory.create_eq config.mode derived admitted
      cases leads : host.memory.regions.find? key with
      | some number =>
          rw [leads] at created
          simp only [connect, valid, openBackend, shared, created]
          rfl
      | none =>
          rw [leads] at created
          simp only [connect, valid, openBackend, shared, created]
          have mode_eq : config.mode % 0o1000 = config.mode := by
            have := Config.mode_le_of_checkFor valid
            rw [Config.greatestMode] at this
            omega
          exact .founds shared (.new key config.capacity config.mode) derived leads rfl rfl rfl
            rfl rfl mode_eq rfl

private theorem opens_attach (shared : config.kind = .sharedMemory)
    (valid : config.checkFor .consumer = .ok ()) :
    Opens host config .consumer (connect host config .consumer) := by
  cases derived : host.memory.deriveKey config.path with
  | error error =>
      simp only [connect, valid, openBackend, shared, SharedMemory.attach, derived]
      rfl
  | ok key =>
      cases leads : host.memory.regions.find? key with
      | none =>
          have attached := SharedMemory.attach_eq_error derived leads
          simp only [connect, valid, openBackend, shared, attached]
          rfl
      | some number =>
          obtain ⟨region, present, -⟩ := RegionTable.get?_of_find?_eq_some leads
          have attached := SharedMemory.attach_eq_join derived leads present
          rw [Region.join_eq] at attached
          simp only [connect, valid, openBackend, shared, attached]
          -- A region that refuses is put back as it was.
          have restored := RegionTable.update_of_get?_eq_some present
          rcases refused : region.refusal? config.path with _ | error | text
          · dsimp only
            split
            · change { host with
                memory := { host.memory with regions := _ } } = host
              rw [restored]
            · rename_i held
              exact .joins shared key number region derived leads present held
          · change { host with
              memory := { host.memory with regions := _ } } = host
            rw [restored]
          · obtain ⟨trips, rfl⟩ := Region.trips_of_refusal? refused
            have mapped := RegionTable.update_of_present Region.map present
            have stumbles := Stumbles.overflow shared key number region derived leads present
              trips
            rw [Host.updateRegion, ← mapped] at stumbles
            exact stumbles

private theorem opens_pipe (isPipe : config.kind = .namedPipe)
    (valid : config.checkFor role = .ok ()) :
    Opens host config role (connect host config role) := by
  simp only [connect, valid, openBackend, isPipe, Host.preparePipe]
  cases prepared : Pipe.prepare host.files config.path role config.mode config.flags with
  | error error => rfl
  | ok result =>
      obtain ⟨pipe, files⟩ := result
      obtain ⟨rfl, prepares⟩ := Pipe.prepares_of_prepare prepared
      cases prepares with
      | existing role leads => exact .takes isPipe role fun _ => Pipe.leadsToFifo_iff.mpr leads
      | awaited missing => exact .takes isPipe .consumer fun produces => by cases produces
      | made number files missing makes =>
          obtain ⟨directory, name, absent, adds, leads⟩ :=
            FileSystem.adds_of_make makes (by simp)
          exact .makes isPipe files directory name absent adds leads

/-- However a transport is opened, it is opened in one of the four ways or leaves everything as
it was, or a consumer stumbles. -/
theorem opens_connect (host : Host) (config : Config) (role : Role) :
    Opens host config role (connect host config role) := by
  cases valid : config.checkFor role with
  | error fault =>
      simp only [connect, valid]
      rfl
  | ok _ =>
      cases kind : config.kind with
      | namedPipe => exact opens_pipe kind valid
      | sharedMemory =>
          cases role with
          | producer => exact opens_create kind valid
          | consumer => exact opens_attach kind valid

theorem stumbles_of_connect {text : String} {later : Host}
    (crashed : connect host config role = (.error (.crash text), later)) :
    Stumbles host config role text later := by
  have opens := opens_connect host config role
  rwa [crashed] at opens

theorem connect_eq_error (fault : ValidationError)
    (invalid : config.checkFor role = .error fault) :
    connect host config role = (.error (.error (.validation fault)), host) := by
  simp only [connect, invalid]

/-- A checked configuration is never refused for its capacity. -/
theorem connect_ne_invalidCapacity (valid : config.checkFor role = .ok ()) (given : Nat)
    (reason : String) :
    (connect host config role).1 ≠
      .error (.error (.region (.invalidCapacity given reason))) := by
  cases kind : config.kind with
  | namedPipe =>
      simp only [connect, valid, openBackend, kind]
      cases (host.preparePipe config.path role config.mode config.flags).1 <;> exact nofun
  | sharedMemory =>
      cases role with
      | producer =>
          have capacity := Config.capacity_of_checkFor valid
          have admitted := RegionTable.capacityRefusal?_eq_none_iff.mpr
            ⟨capacity.2 kind rfl, capacity.1⟩
          have other : (host.memory.create config.path config.capacity config.mode).1 ≠
              .error (.invalidCapacity given reason) :=
            SharedMemory.create_ne_invalidCapacity admitted config.path config.mode given reason
          simp only [connect, valid, openBackend, kind]
          cases created : (host.memory.create config.path config.capacity config.mode).1 with
          | ok segment => exact nofun
          | error error =>
              rintro ⟨⟩
              exact other created
      | consumer =>
          have other := host.memory.attach_ne_invalidCapacity config.path given reason
          simp only [connect, valid, openBackend, kind]
          rcases attached : (host.memory.attach config.path).1 with (error | text) | segment
          · rintro ⟨⟩
            exact other attached
          · exact nofun
          · exact nofun

/-- To open a transport is all or nothing.  A configuration that fails its check is refused
with the fault that was found; one that passes has a capacity that a region may have if it
founds one, a size that can be counted, and permission bits that are taken as they are.
Whatever the refusal, the files, the regions and everything else of the host are as they were.
Otherwise the transport was opened in one of the four ways, and nothing but that happened.
Only a consumer crashes, at a region with a ring whose end is no address, of which it raises
the number of mappings; no ring of a region that was founded is so great. -/
theorem connect_all_or_nothing (host : Host) (config : Config) (role : Role) :
    (∀ fault, config.checkFor role = .error fault →
      connect host config role = (.error (.error (.validation fault)), host)) ∧
    (config.checkFor role = .ok () →
      (config.kind = .sharedMemory → role = .producer →
        ∀ (memory : SharedMemory) (path : String) (mode given : Nat) (reason : String),
          (memory.create path config.capacity mode).1 ≠
            .error (.invalidCapacity given reason)) ∧
      (∀ given reason, (connect host config role).1 ≠
        .error (.error (.region (.invalidCapacity given reason)))) ∧
      Region.headerSize + config.capacity < Region.addressSpace ∧
      config.mode % 0o1000 = config.mode ∧
      host.files.masked config.mode = config.mode &&& (0o7777 ^^^ host.files.mask)) ∧
    (config.kind = .sharedMemory →
      (config.checkBackend .producer = .error (.capacityOutOfBounds config.capacity
          Config.leastCapacity Config.greatestCapacity) ↔
        RegionTable.capacityRefusal? config.capacity ≠ none)) ∧
    (∀ error later, connect host config role = (.error (.error error), later) →
      later = host) ∧
    (∀ transport later, connect host config role = (.ok transport, later) →
      Opening host config role transport later) ∧
    (∀ text later, connect host config role = (.error (.crash text), later) →
      Stumbles host config role text later) ∧
    ((∀ number region, host.region? number = some region →
        region.capacity ≤ RegionTable.greatestCapacity) →
      ∀ text later, connect host config role ≠ (.error (.crash text), later)) := by
  have opens := opens_connect host config role
  refine ⟨fun fault invalid => connect_eq_error fault invalid, fun valid => ⟨?_, ?_, ?_, ?_, ?_⟩,
    Config.checkBackend_eq_outOfBounds_iff, ?_, ?_, fun _ _ => stumbles_of_connect, ?_⟩
  · rintro shared rfl memory path mode given reason
    obtain ⟨greatest, least⟩ := Config.capacity_of_checkFor valid
    exact SharedMemory.create_ne_invalidCapacity
      (RegionTable.capacityRefusal?_eq_none_iff.mpr ⟨least shared rfl, greatest⟩) path mode given
      reason
  · exact connect_ne_invalidCapacity valid
  · have := (Config.capacity_of_checkFor valid).1
    simp only [Config.greatestCapacity, Region.headerSize, Region.addressSpace] at *
    omega
  · have := Config.mode_le_of_checkFor valid
    rw [Config.greatestMode] at this
    omega
  · have := Config.mode_le_of_checkFor valid
    rw [Config.greatestMode] at this
    rw [FileSystem.masked, Nat.mod_eq_of_lt (by omega)]
  · intro error later failed
    rw [failed] at opens
    exact opens
  · intro transport later done
    rw [done] at opens
    exact opens
  · intro small text later crashed
    cases stumbles_of_connect crashed with
    | overflow kind_eq key number region derived leads present trips =>
        have beyond : Region.addressSpace - Region.headerSize ≤ region.capacity :=
          trips.overflows
        have few := small number region present
        simp only [RegionTable.greatestCapacity, Region.addressSpace, Region.headerSize] at *
        omega

end Transport

end BoundedStream
