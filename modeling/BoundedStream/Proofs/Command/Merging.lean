import BoundedStream.Command.Arguments
import BoundedStream.Proofs.Config.Validation
import BoundedStream.Transport

/-!
# Arguments over a file

The arguments of a command and the configuration in a file are merged field by field, where a
field of the file counts only under its own backend, the path excepted.  What is missing is
found in a fixed order, and the merged configuration is checked last.  What comes out is one
that no transport refuses as invalid.
-/

namespace BoundedStream

namespace Config

variable {files : FileSystem} {path : String} {config : Config}

/-- What a file holds is fit for either role. -/
theorem fit_of_loadFile (loaded : loadFile files path = .ok config) (role : Role) :
    config.Fit role := by
  have fits : ∀ {text}, loadText text = .ok config → config.Fit role := by
    intro text read
    unfold loadText at read
    split at read
    · cases read
    · split at read
      · cases read
      · rename_i raw _ _ validated
        cases read
        exact Section.fit_of_validate validated role
  unfold loadFile at loaded
  split at loaded
  · cases loaded
  · split at loaded
    · cases loaded
    · split at loaded
      · cases loaded
      · exact fits loaded

/-- What a named file holds; without a name there is nothing. -/
inductive Loads (files : FileSystem) : Option String → Option Config → Prop
  | nothing : Loads files none none
  | file (path : String) (config : Config) (loaded : loadFile files path = .ok config) :
      Loads files (some path) (some config)

end Config

namespace Transport

/-- A configuration that is fit for a role is not refused as invalid. -/
theorem connect_ne_validation {config : Config} {role : Role} (fit : config.Fit role)
    (host : Host) (fault : ValidationError) :
    (connect host config role).1 ≠ .error (.error (.validation fault)) := by
  rw [connect, Config.checkFor_eq_ok_iff.mpr fit]
  dsimp only [openBackend]
  cases config.kind with
  | namedPipe =>
      cases (host.preparePipe config.path role config.mode config.flags).1 <;> exact nofun
  | sharedMemory =>
      cases role with
      | producer =>
          cases (host.memory.create config.path config.capacity config.mode).1 <;> exact nofun
      | consumer =>
          rcases (host.memory.attach config.path).1 with (_ | _) | _ <;> exact nofun

end Transport

namespace TransportArguments

/-- The configuration of a file, if it is one for a backend. -/
def carried (kind : TransportKind) (base : Option Config) : Option Config :=
  base.filter fun config => config.kind = kind

/-- A configuration with the fields of the arguments, where those are given, and else with
those of the file. -/
structure Merges (arguments : TransportArguments) (base : Option Config) (config : Config) :
    Prop where
  kind : arguments.kind.or (base.map Config.kind) = some config.kind
  path : config.path = (arguments.path.or (base.map Config.path)).getD ""
  mode : config.mode =
    (arguments.mode.or ((carried config.kind base).map Config.mode)).getD 0o600
  capacity : config.capacity =
    (arguments.capacity.or ((carried config.kind base).map Config.capacity)).getD 0
  flags : config.flags = ((carried config.kind base).map Config.flags).getD 0 |||
    if arguments.nonblock then DescriptorFlag.nonblock.value else 0

/-- Nobody gives the capacity that a producer of shared memory needs. -/
structure WantsCapacity (arguments : TransportArguments) (config : Config) (role : Role) :
    Prop where
  shared : config.kind = .sharedMemory
  produces : role = .producer
  missing : arguments.capacity = Option.none
  zero : config.capacity = 0

/-- What the arguments come to over the configuration in a file, if one is named. -/
inductive Resolves (arguments : TransportArguments) (files : FileSystem)
    (configFile : Option String) (role : Role) : Except CommandError Config → Prop
  | unloaded (path : String) (error : StreamError) (named : configFile = some path)
      (failed : Config.loadFile files path = .error error) :
      Resolves arguments files configFile role (.error (.stream error))
  | kindless (loads : Config.Loads files configFile Option.none)
      (missing : arguments.kind = Option.none) :
      Resolves arguments files configFile role (.error (.missingArgument "--kind"))
  | pathless (base : Option Config) (config : Config)
      (loads : Config.Loads files configFile base) (merges : arguments.Merges base config)
      (empty : config.path = "") :
      Resolves arguments files configFile role (.error (.missingArgument "--path"))
  | capacityless (base : Option Config) (config : Config)
      (loads : Config.Loads files configFile base) (merges : arguments.Merges base config)
      (nonempty : config.path ≠ "") (wants : arguments.WantsCapacity config role) :
      Resolves arguments files configFile role (.error (.missingArgument "--capacity"))
  | invalid (base : Option Config) (config : Config) (fault : ValidationError)
      (loads : Config.Loads files configFile base) (merges : arguments.Merges base config)
      (nonempty : config.path ≠ "") (supplied : ¬ arguments.WantsCapacity config role)
      (refused : config.checkFor role = .error fault) :
      Resolves arguments files configFile role (.error (.stream (.validation fault)))
  | merged (base : Option Config) (config : Config)
      (loads : Config.Loads files configFile base) (merges : arguments.Merges base config)
      (nonempty : config.path ≠ "") (supplied : ¬ arguments.WantsCapacity config role)
      (valid : config.checkFor role = .ok ()) :
      Resolves arguments files configFile role (.ok config)

variable {arguments : TransportArguments} {base : Option Config} {config : Config}
  {kind : TransportKind} {role : Role} {files : FileSystem} {configFile : Option String}

/-! ## Merged configurations -/

theorem chosenKind_eq_ok_iff :
    arguments.chosenKind base = .ok kind ↔
      arguments.kind.or (base.map Config.kind) = some kind := by
  unfold chosenKind
  cases arguments.kind <;> cases base <;> simp

theorem lacksCapacity_eq_true_iff :
    arguments.lacksCapacity config role = true ↔ arguments.WantsCapacity config role := by
  simp only [lacksCapacity, Bool.and_eq_true, beq_iff_eq, Option.isNone_iff_eq_none]
  constructor
  · rintro ⟨⟨⟨shared, produces⟩, zero⟩, missing⟩
    refine ⟨shared, ?_, missing, zero⟩
    cases role with
    | producer => rfl
    | consumer => cases produces
  · rintro ⟨shared, rfl, missing, zero⟩
    exact ⟨⟨⟨shared, rfl⟩, zero⟩, missing⟩

/-- Only the path of a file stays under another backend. -/
theorem rebase_eq (kind : TransportKind) (base : Option Config) :
    rebase kind base =
      ⟨kind, (base.map Config.path).getD "", ((carried kind base).map Config.mode).getD 0o600,
        ((carried kind base).map Config.capacity).getD 0,
        ((carried kind base).map Config.flags).getD 0⟩ := by
  cases base with
  | none => rfl
  | some config =>
      by_cases same : config.kind = kind
      · have stays : carried kind (some config) = some config := by
          rw [carried, Option.filter_some, if_pos (decide_eq_true same)]
        rw [rebase, if_pos same, stays, ← same]
        rfl
      · have goes : carried kind (some config) = Option.none := by
          rw [carried, Option.filter_some, if_neg (by simpa using same)]
        rw [rebase, if_neg same, goes]
        rfl

theorem Merges.eq_override (merges : arguments.Merges base config) :
    config = arguments.override (rebase config.kind base) := by
  rw [override, rebase_eq]
  obtain ⟨kind, path, mode, capacity, flags⟩ := config
  simp only [Config.mk.injEq, true_and]
  refine ⟨merges.path.trans Option.getD_or, merges.mode.trans Option.getD_or,
    merges.capacity.trans Option.getD_or, merges.flags.trans ?_⟩
  split
  · rfl
  · exact Int32.or_zero

theorem merges_override (chosen : arguments.kind.or (base.map Config.kind) = some kind) :
    arguments.Merges base (arguments.override (rebase kind base)) := by
  rw [override, rebase_eq]
  refine ⟨chosen, Option.getD_or.symm, Option.getD_or.symm, Option.getD_or.symm, ?_⟩
  dsimp only
  split
  · rfl
  · exact Int32.or_zero.symm

/-- What the merged configuration is found to be. -/
theorem Merges.merge_eq (merges : arguments.Merges base config) (role : Role) :
    arguments.merge base role =
      if config.path = "" then .error (.missingArgument "--path")
      else if arguments.lacksCapacity config role then .error (.missingArgument "--capacity")
      else
        match config.checkFor role with
        | .error fault => .error (.stream (.validation fault))
        | .ok () => .ok config := by
  rw [merge, chosenKind_eq_ok_iff.mpr merges.kind]
  change (if (arguments.override (rebase config.kind base)).path = "" then _ else _) = _
  rewrite [← merges.eq_override]
  rfl

/-- Under another backend a file keeps its path alone. -/
example :
    (⟨some .namedPipe, .none, .none, .none, true⟩ : TransportArguments).merge
        (some ⟨.sharedMemory, "key", 0o640, 1024, 0⟩) .producer =
      .ok ⟨.namedPipe, "key", 0o600, 0, DescriptorFlag.nonblock.value⟩ := by
  decide

theorem merge_eq_kindless (missing : arguments.kind = Option.none) (role : Role) :
    arguments.merge Option.none role = .error (.missingArgument "--kind") := by
  have unchosen : arguments.chosenKind Option.none = .error (.missingArgument "--kind") := by
    unfold chosenKind
    rw [missing]
  rw [merge, unchosen]
  rfl

/-! ## What the arguments come to -/

theorem resolve_of_loads (loads : Config.Loads files configFile base) :
    arguments.resolve files configFile role = arguments.merge base role := by
  cases loads with
  | nothing => rfl
  | file path config loaded => rw [resolve, loaded]

theorem resolve_of_resolves {result : Except CommandError Config}
    (resolves : arguments.Resolves files configFile role result) :
    arguments.resolve files configFile role = result := by
  cases resolves with
  | unloaded path error named failed => rw [named, resolve, failed]
  | kindless loads missing => rw [resolve_of_loads loads, merge_eq_kindless missing]
  | pathless base config loads merges empty =>
      rw [resolve_of_loads loads, merges.merge_eq, if_pos empty]
  | capacityless base config loads merges nonempty wants =>
      rw [resolve_of_loads loads, merges.merge_eq, if_neg nonempty,
        if_pos (lacksCapacity_eq_true_iff.mpr wants)]
  | invalid base config fault loads merges nonempty supplied refused =>
      rw [resolve_of_loads loads, merges.merge_eq, if_neg nonempty,
        if_neg (lacksCapacity_eq_true_iff.not.mpr supplied), refused]
  | merged base config loads merges nonempty supplied valid =>
      rw [resolve_of_loads loads, merges.merge_eq, if_neg nonempty,
        if_neg (lacksCapacity_eq_true_iff.not.mpr supplied), valid]

/-- The arguments always come to something. -/
theorem exists_resolves (arguments : TransportArguments) (files : FileSystem)
    (configFile : Option String) (role : Role) :
    ∃ result, arguments.Resolves files configFile role result := by
  have goesOn : ∀ base, Config.Loads files configFile base →
      ∃ result, arguments.Resolves files configFile role result := by
    intro base loads
    cases chosen : arguments.kind.or (base.map Config.kind) with
    | none =>
        obtain ⟨missing, noBase⟩ := Option.or_eq_none_iff.mp chosen
        obtain rfl := Option.map_eq_none_iff.mp noBase
        exact ⟨_, .kindless loads missing⟩
    | some kind =>
        have merges := merges_override chosen
        by_cases empty : (arguments.override (rebase kind base)).path = ""
        · exact ⟨_, .pathless base _ loads merges empty⟩
        · by_cases wants : arguments.WantsCapacity (arguments.override (rebase kind base)) role
          · exact ⟨_, .capacityless base _ loads merges empty wants⟩
          · cases checked : (arguments.override (rebase kind base)).checkFor role with
            | error fault => exact ⟨_, .invalid base _ fault loads merges empty wants checked⟩
            | ok _ => exact ⟨_, .merged base _ loads merges empty wants checked⟩
  cases configFile with
  | none => exact goesOn _ .nothing
  | some path =>
      cases loaded : Config.loadFile files path with
      | error error => exact ⟨_, .unloaded path error rfl loaded⟩
      | ok config => exact goesOn _ (.file path config loaded)

theorem resolve_eq_iff {result : Except CommandError Config} :
    arguments.resolve files configFile role = result ↔
      arguments.Resolves files configFile role result := by
  refine ⟨fun resolved => ?_, resolve_of_resolves⟩
  obtain ⟨result', resolves⟩ := exists_resolves arguments files configFile role
  rw [← resolved, resolve_of_resolves resolves]
  exact resolves

/-- What comes out is fit for the role. -/
theorem fit_of_resolve (resolved : arguments.resolve files configFile role = .ok config) :
    config.Fit role := by
  cases resolve_eq_iff.mp resolved with
  | merged base config loads merges nonempty supplied valid =>
      exact Config.checkFor_eq_ok_iff.mp valid

/-- Without arguments a file is taken as it is. -/
theorem resolve_none {path : String} (loaded : Config.loadFile files path = .ok config)
    (role : Role) : TransportArguments.none.resolve files (some path) role = .ok config := by
  have fit := Config.fit_of_loadFile loaded
  have stays : carried config.kind (some config) = some config := by
    rw [carried, Option.filter_some, if_pos (decide_eq_true rfl)]
  have merges : TransportArguments.none.Merges (some config) config := by
    refine ⟨rfl, rfl, ?_, ?_, ?_⟩ <;> rw [stays]
    · rfl
    · rfl
    · exact Int32.or_zero.symm
  refine resolve_of_resolves (.merged (some config) config (.file path config loaded) merges
    (fit role).path ?_ (Config.checkFor_eq_ok_iff.mpr (fit role)))
  rintro ⟨shared, -, -, zero⟩
  rcases (fit .producer).capacity shared with ⟨impossible, -⟩ | ⟨least, -⟩
  · cases impossible
  · rw [zero] at least
    cases least

/-- The arguments come to what the fields of arguments and file say, in their order: a file that
cannot be read, a missing kind, path or capacity, a fault of the merged configuration, or that
configuration.  It is fit for the role, so that no host refuses it as invalid, and a file that
no argument overrides is taken as it is. -/
theorem resolve_verdict (arguments : TransportArguments) (files : FileSystem)
    (configFile : Option String) (role : Role) :
    (∀ result, arguments.resolve files configFile role = result ↔
      arguments.Resolves files configFile role result) ∧
    (∀ config, arguments.resolve files configFile role = .ok config →
      config.checkFor role = .ok () ∧
        ∀ host fault, (Transport.connect host config role).1 ≠
          .error (.error (.validation fault))) ∧
    ∀ path config, configFile = some path → Config.loadFile files path = .ok config →
      arguments = TransportArguments.none →
        arguments.resolve files configFile role = .ok config := by
  refine ⟨fun result => resolve_eq_iff, ?_, ?_⟩
  · intro config resolved
    have fit := fit_of_resolve resolved
    exact ⟨Config.checkFor_eq_ok_iff.mpr fit, Transport.connect_ne_validation fit⟩
  · rintro path config rfl loaded rfl
    exact resolve_none loaded role

end TransportArguments

end BoundedStream
