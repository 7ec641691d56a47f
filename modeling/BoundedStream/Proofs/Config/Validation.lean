import BoundedStream.Proofs.Config.Flags
import Mathlib.Order.WellFounded
import Mathlib.Tactic.ByContra

/-!
# Validation of sections

A section of a configuration file is accepted exactly when its mode can be read, its flags are
known, it has a path, and its capacity and flags are ones of its backend.  Otherwise the fault
that comes first in a fixed order is reported.  What was accepted is fit for either role; a
consumer may besides leave the capacity of shared memory open.
-/

namespace BoundedStream

namespace Config

open DescriptorFlag (Known)

/-! ## Checked configurations -/

/-- What is asked of a configuration with which an endpoint of a role is opened. -/
structure Fit (config : Config) (role : Role) : Prop where
  path : config.path ≠ ""
  mode : config.mode ≤ greatestMode
  capacity : config.kind = .sharedMemory →
    role = .consumer ∧ config.capacity = 0 ∨
      leastCapacity ≤ config.capacity ∧ config.capacity ≤ greatestCapacity
  flags : config.kind = .sharedMemory → config.flags = 0
  noCapacity : config.kind = .namedPipe → config.capacity = 0

variable {config : Config} {role : Role}

theorem checkFor_of_no_path (empty : config.path = "") :
    config.checkFor role =
      .error (.missingField "path" (config.kind.text ++ " transport")) := by
  rw [checkFor, if_pos empty]

theorem checkFor_of_mode (nonempty : config.path ≠ "") (excessive : greatestMode < config.mode) :
    config.checkFor role =
      .error (invalidMode (Numeral.print 8 config.mode) onlyPermissionBits) := by
  rw [checkFor, if_neg nonempty, if_pos excessive]

theorem checkFor_of_path (nonempty : config.path ≠ "") (permitted : config.mode ≤ greatestMode) :
    config.checkFor role = config.checkBackend role := by
  rw [checkFor, if_neg nonempty, if_neg (Nat.not_lt.mpr permitted)]

theorem checkBackend_of_pipe (isPipe : config.kind = .namedPipe) :
    config.checkBackend role =
      if config.capacity = 0 then .ok ()
      else .error (.invalidField "capacity" (toString config.capacity)
        "capacity only applies to shared_memory") := by
  rw [checkBackend, isPipe]
  exact ite_not _ _ _

theorem checkBackend_of_bounded (shared : config.kind = .sharedMemory)
    (bounded : role = .consumer ∧ config.capacity = 0 ∨
      leastCapacity ≤ config.capacity ∧ config.capacity ≤ greatestCapacity) :
    config.checkBackend role =
      if config.flags = 0 then .ok ()
      else .error (.invalidField "flags" (toString config.flags.toInt)
        "descriptor flags only apply to named_pipe") := by
  rw [checkBackend, shared]
  exact (if_neg fun ⟨alone, outside⟩ => bounded.elim alone outside).trans (ite_not _ _ _)

theorem checkBackend_of_unbounded (shared : config.kind = .sharedMemory)
    (unbounded : ¬ (role = .consumer ∧ config.capacity = 0 ∨
      leastCapacity ≤ config.capacity ∧ config.capacity ≤ greatestCapacity)) :
    config.checkBackend role =
      .error (.capacityOutOfBounds config.capacity leastCapacity greatestCapacity) := by
  rw [checkBackend, shared]
  exact if_pos (not_or.mp unbounded)

theorem checkFor_eq_ok_iff : config.checkFor role = .ok () ↔ config.Fit role := by
  constructor
  · intro valid
    have nonempty : config.path ≠ "" := by
      intro empty
      rw [checkFor_of_no_path empty] at valid
      cases valid
    have permitted : config.mode ≤ greatestMode := by
      by_contra excessive
      rw [checkFor_of_mode nonempty (Nat.lt_of_not_le excessive)] at valid
      cases valid
    rw [checkFor_of_path nonempty permitted] at valid
    cases kind : config.kind with
    | namedPipe =>
        rw [checkBackend_of_pipe kind] at valid
        split at valid
        · rename_i noCapacity
          exact ⟨nonempty, permitted, by simp [kind], by simp [kind], fun _ => noCapacity⟩
        · cases valid
    | sharedMemory =>
        by_cases bounded : role = .consumer ∧ config.capacity = 0 ∨
            leastCapacity ≤ config.capacity ∧ config.capacity ≤ greatestCapacity
        · rw [checkBackend_of_bounded kind bounded] at valid
          split at valid
          · rename_i noFlags
            exact ⟨nonempty, permitted, fun _ => bounded, fun _ => noFlags, by simp [kind]⟩
          · cases valid
        · rw [checkBackend_of_unbounded kind bounded] at valid
          cases valid
  · intro fit
    rw [checkFor_of_path fit.path fit.mode]
    cases kind : config.kind with
    | namedPipe => rw [checkBackend_of_pipe kind, if_pos (fit.noCapacity kind)]
    | sharedMemory =>
        rw [checkBackend_of_bounded kind (fit.capacity kind), if_pos (fit.flags kind)]

/-- What a check on its own accepts is fit for either role. -/
theorem Fit.of_producer (fit : config.Fit .producer) (role : Role) : config.Fit role where
  path := fit.path
  mode := fit.mode
  capacity shared := .inr ((fit.capacity shared).resolve_left nofun)
  flags := fit.flags
  noCapacity := fit.noCapacity

/-- A consumer may do without the capacity of shared memory, and nothing else. -/
theorem fit_consumer_only_iff :
    config.Fit .consumer ∧ ¬ config.Fit .producer ↔
      config.kind = .sharedMemory ∧ config.capacity = 0 ∧ config.path ≠ "" ∧
        config.mode ≤ greatestMode ∧ config.flags = 0 := by
  constructor
  · rintro ⟨fit, unfit⟩
    have shared : config.kind = .sharedMemory := by
      by_contra isPipe
      exact unfit ⟨fit.path, fit.mode, fun shared => absurd shared isPipe, fit.flags,
        fit.noCapacity⟩
    rcases fit.capacity shared with ⟨-, none⟩ | bounded
    · exact ⟨shared, none, fit.path, fit.mode, fit.flags shared⟩
    · exact absurd ⟨fit.path, fit.mode, fun _ => .inr bounded, fit.flags, fit.noCapacity⟩ unfit
  · rintro ⟨shared, none, nonempty, permitted, noFlags⟩
    refine ⟨⟨nonempty, permitted, fun _ => .inl ⟨rfl, none⟩, fun _ => noFlags, fun _ => none⟩,
      fun fit => ?_⟩
    rcases fit.capacity shared with ⟨impossible, -⟩ | ⟨least, -⟩
    · cases impossible
    · rw [none] at least
      cases least

theorem le_of_parseMode {value : String} {mode : Nat} (read : parseMode value = .ok mode) :
    mode ≤ greatestMode := by
  unfold parseMode at read
  split at read
  · cases read
  · split at read
    · cases read
      assumption
    · cases read

namespace Section

/-! ## What a section must be -/

/-- The sections that are accepted. -/
structure Acceptable (raw : Section) : Prop where
  mode : ∀ value, raw.mode = some value → ∃ mode, parseMode value = .ok mode
  flags : ∀ name ∈ raw.flags, Known name
  path : raw.path ≠ ""
  backend :
    raw.kind = .sharedMemory ∧ raw.flags = [] ∧
        (∃ capacity, raw.capacity = some capacity ∧ leastCapacity ≤ capacity ∧
          capacity ≤ greatestCapacity) ∨
      raw.kind = .namedPipe ∧ (raw.capacity = none ∨ raw.capacity = some 0)

/-- The configuration that a section stands for. -/
structure Yields (raw : Section) (config : Config) : Prop where
  kind : config.kind = raw.kind
  path : config.path = raw.path
  given : ∀ value, raw.mode = some value → parseMode value = .ok config.mode
  default : raw.mode = none → config.mode = 0o600
  capacity : config.capacity = raw.capacity.getD 0
  flags : Unites raw.flags config.flags

/-- A section stands for one configuration, and neither the order of its flags nor how often
they are given matters. -/
theorem Yields.eq {raw other : Section} {config config' : Config} (yields : raw.Yields config)
    (yields' : other.Yields config') (kind : raw.kind = other.kind)
    (path : raw.path = other.path) (mode : raw.mode = other.mode)
    (capacity : raw.capacity = other.capacity)
    (flags : ∀ name, name ∈ raw.flags ↔ name ∈ other.flags) : config = config' := by
  have sameMode : config.mode = config'.mode := by
    cases given : raw.mode with
    | none => rw [yields.default given, yields'.default (mode ▸ given)]
    | some value =>
        have read := yields.given value given
        rw [yields'.given value (mode ▸ given)] at read
        exact (Except.ok.inj read).symm
  have sameFlags := yields.flags.eq yields'.flags flags
  obtain ⟨_, _, _, _, _⟩ := config
  obtain ⟨_, _, _, _, _⟩ := config'
  simp only [Config.mk.injEq]
  exact ⟨yields.kind.trans (kind.trans yields'.kind.symm),
    yields.path.trans (path.trans yields'.path.symm), sameMode,
    yields.capacity.trans ((congrArg (Option.getD · 0) capacity).trans yields'.capacity.symm),
    sameFlags⟩

/-- What may be wrong with a section, in the order in which it is looked for. -/
inductive Aspect where
  | mode
  | flagNames
  | capacityGiven
  | path
  | capacityBounds
  | sharedFlags
  | pipeCapacity
deriving DecidableEq

/-- The place of an aspect in the order. -/
def Aspect.rank : Aspect → Nat
  | mode => 0
  | flagNames => 1
  | capacityGiven => 2
  | path => 3
  | capacityBounds => 4
  | sharedFlags => 5
  | pipeCapacity => 6

/-- In one of its aspects a section has a fault, which is reported so. -/
inductive Fault (raw : Section) : Aspect → ValidationError → Prop
  | mode (value : String) (error : ValidationError) (given : raw.mode = some value)
      (refused : parseMode value = .error error) : Fault raw .mode error
  | flagNames (front : List String) (name : String) (rest : List String)
      (first : raw.flags = front ++ name :: rest) (known : ∀ other ∈ front, Known other)
      (unknown : ¬ Known name) : Fault raw .flagNames (unknownFlag name)
  | capacityGiven (shared : raw.kind = .sharedMemory) (missing : raw.capacity = none) :
      Fault raw .capacityGiven (.missingField "capacity" "shared_memory transport")
  | path (empty : raw.path = "") :
      Fault raw .path (.missingField "path" (raw.kind.text ++ " transport"))
  | capacityBounds (capacity : Nat) (shared : raw.kind = .sharedMemory)
      (given : raw.capacity = some capacity)
      (outside : ¬ (leastCapacity ≤ capacity ∧ capacity ≤ greatestCapacity)) :
      Fault raw .capacityBounds (.capacityOutOfBounds capacity leastCapacity greatestCapacity)
  | sharedFlags (flags : Int32) (shared : raw.kind = .sharedMemory) (given : raw.flags ≠ [])
      (united : Unites raw.flags flags) :
      Fault raw .sharedFlags (.invalidField "flags" (toString flags.toInt)
        "descriptor flags only apply to named_pipe")
  | pipeCapacity (capacity : Nat) (isPipe : raw.kind = .namedPipe)
      (given : raw.capacity = some capacity) (positive : capacity ≠ 0) :
      Fault raw .pipeCapacity (.invalidField "capacity" (toString capacity)
        "capacity only applies to shared_memory")

/-- A fault before which none comes in the order. -/
def FirstFault (raw : Section) (error : ValidationError) : Prop :=
  ∃ aspect, raw.Fault aspect error ∧
    ∀ other, other.rank < aspect.rank → ∀ earlier, ¬ raw.Fault other earlier

/-! ## What the faults keep from being read -/

section

variable {raw : Section} {config : Config} {error : ValidationError}

theorem readMode_of_faultless (faultless : ∀ error, ¬ raw.Fault .mode error) :
    ∃ mode, raw.readMode = .ok mode ∧ mode ≤ greatestMode ∧
      (∀ value, raw.mode = some value → parseMode value = .ok mode) ∧
      (raw.mode = none → mode = 0o600) := by
  cases given : raw.mode with
  | none => exact ⟨defaultMode, by rw [readMode, given], by decide, nofun, fun _ => rfl⟩
  | some value =>
      cases read : parseMode value with
      | error error => exact absurd (.mode value error given read) (faultless error)
      | ok mode =>
          refine ⟨mode, by rw [readMode, given]; exact read, le_of_parseMode read, ?_, nofun⟩
          rintro _ ⟨⟩
          exact read

theorem known_of_faultless (faultless : ∀ error, ¬ raw.Fault .flagNames error) :
    ∀ name ∈ raw.flags, Known name := by
  rcases known_or_first_unknown raw.flags with known | ⟨front, name, rest, first, known, unknown⟩
  · exact known
  · exact absurd (.flagNames front name rest first known unknown) (faultless _)

theorem readCapacity_of_faultless (faultless : ∀ error, ¬ raw.Fault .capacityGiven error) :
    raw.readCapacity = .ok (raw.capacity.getD 0) := by
  unfold readCapacity
  split
  · rename_i shared missing
    exact absurd (.capacityGiven shared missing) (faultless _)
  · rfl

theorem Yields.path_ne (yields : raw.Yields config)
    (faultless : ∀ error, ¬ raw.Fault .path error) : config.path ≠ "" := by
  rw [yields.path]
  exact fun empty => faultless _ (.path empty)

theorem Yields.bounded (yields : raw.Yields config) (shared : raw.kind = .sharedMemory)
    (given : ∀ error, ¬ raw.Fault .capacityGiven error)
    (bounded : ∀ error, ¬ raw.Fault .capacityBounds error) :
    leastCapacity ≤ config.capacity ∧ config.capacity ≤ greatestCapacity := by
  rw [yields.capacity]
  cases present : raw.capacity with
  | none => exact absurd (.capacityGiven shared present) (given _)
  | some capacity =>
      by_contra outside
      exact bounded _ (.capacityBounds capacity shared present outside)

/-- Where none of the first three aspects has a fault, the section can be read and only the
check of the configuration decides. -/
theorem exists_read
    (faultless : ∀ aspect, aspect.rank < Aspect.path.rank → ∀ error, ¬ raw.Fault aspect error) :
    ∃ config, raw.Yields config ∧ config.mode ≤ greatestMode ∧
      raw.validate = config.check.map fun _ => config := by
  obtain ⟨mode, readsMode, permitted, given, default⟩ :=
    readMode_of_faultless (faultless .mode (by decide))
  obtain ⟨flags, combined, unites⟩ :=
    combineFlags_of_known (known_of_faultless (faultless .flagNames (by decide)))
  have readsCapacity := readCapacity_of_faultless (faultless .capacityGiven (by decide))
  refine ⟨⟨raw.kind, raw.path, mode, raw.capacity.getD 0, flags⟩,
    ⟨rfl, rfl, given, default, rfl, unites⟩, permitted, ?_⟩
  rw [validate, readsMode, combined, readsCapacity]
  rfl

/-- The first fault is reported. -/
theorem validate_of_firstFault (first : raw.FirstFault error) :
    raw.validate = .error error := by
  obtain ⟨aspect, fault, faultless⟩ := first
  -- The faults of the last four aspects are found by the check of what was read.
  have checked : Aspect.path.rank ≤ aspect.rank → ∃ config, raw.Yields config ∧
      config.mode ≤ greatestMode ∧ raw.validate = config.check.map fun _ => config :=
    fun late => exists_read fun other early => faultless other (Nat.lt_of_lt_of_le early late)
  cases fault with
  | mode value error given refused =>
      rw [validate, readMode, given]
      simp only [refused]
      rfl
  | flagNames front name rest split known unknown =>
      obtain ⟨mode, readsMode, -⟩ := readMode_of_faultless (faultless .mode (by decide))
      rw [validate, readsMode, split, combineFlags_of_unknown known unknown]
      rfl
  | capacityGiven shared missing =>
      obtain ⟨mode, readsMode, -⟩ := readMode_of_faultless (faultless .mode (by decide))
      obtain ⟨flags, combined, -⟩ :=
        combineFlags_of_known (known_of_faultless (faultless .flagNames (by decide)))
      rw [validate, readsMode, combined, readCapacity, shared, missing]
      rfl
  | path empty =>
      obtain ⟨config, yields, permitted, validated⟩ := checked (by decide)
      rw [validated, check, checkFor_of_no_path (yields.path.trans empty), yields.kind]
      rfl
  | capacityBounds capacity shared given outside =>
      obtain ⟨config, yields, permitted, validated⟩ := checked (by decide)
      have nonempty := yields.path_ne (faultless .path (by decide))
      have isCapacity : config.capacity = capacity := by rw [yields.capacity, given]; rfl
      rw [validated, check, checkFor_of_path nonempty permitted,
        checkBackend_of_unbounded (yields.kind.trans shared), isCapacity]
      · rfl
      · rw [isCapacity]
        exact not_or.mpr ⟨by simp, outside⟩
  | sharedFlags flags shared given united =>
      obtain ⟨config, yields, permitted, validated⟩ := checked (by decide)
      have nonempty := yields.path_ne (faultless .path (by decide))
      have isFlags : config.flags = flags := yields.flags.eq united fun _ => Iff.rfl
      have known := known_of_faultless (faultless .flagNames (by decide))
      have isGiven : config.flags ≠ 0 := fun none =>
        given ((yields.flags.eq_zero_iff known).mp none)
      have bounded := yields.bounded shared (faultless .capacityGiven (by decide))
        (faultless .capacityBounds (by decide))
      rw [validated, check, checkFor_of_path nonempty permitted,
        checkBackend_of_bounded (yields.kind.trans shared) (.inr bounded), if_neg isGiven, isFlags]
      rfl
  | pipeCapacity capacity isPipe given positive =>
      obtain ⟨config, yields, permitted, validated⟩ := checked (by decide)
      have nonempty := yields.path_ne (faultless .path (by decide))
      have isCapacity : config.capacity = capacity := by rw [yields.capacity, given]; rfl
      rw [validated, check, checkFor_of_path nonempty permitted,
        checkBackend_of_pipe (yields.kind.trans isPipe), isCapacity, if_neg positive]
      rfl

/-! ## Accepted or refused -/

/-- Only which flags are named matters. -/
theorem acceptable_congr {names : List String} (same : ∀ name, name ∈ names ↔ name ∈ raw.flags) :
    ({ raw with flags := names } : Section).Acceptable ↔ raw.Acceptable := by
  have sameNil : names = [] ↔ raw.flags = [] := by
    simp only [List.eq_nil_iff_forall_not_mem, same]
  constructor
  · rintro ⟨readable, known, nonempty, backend⟩
    exact ⟨readable, fun name member => known name ((same name).mpr member), nonempty,
      by simpa only [sameNil] using backend⟩
  · rintro ⟨readable, known, nonempty, backend⟩
    exact ⟨readable, fun name member => known name ((same name).mp member), nonempty,
      by simpa only [sameNil] using backend⟩

theorem yields_congr {names : List String} (same : ∀ name, name ∈ names ↔ name ∈ raw.flags) :
    ({ raw with flags := names } : Section).Yields config ↔ raw.Yields config := by
  have sameBits : Unites names config.flags ↔ Unites raw.flags config.flags := by
    simp only [Unites, same]
  constructor
  · rintro ⟨kind, path, given, default, capacity, flags⟩
    exact ⟨kind, path, given, default, capacity, sameBits.mp flags⟩
  · rintro ⟨kind, path, given, default, capacity, flags⟩
    exact ⟨kind, path, given, default, capacity, sameBits.mpr flags⟩

theorem acceptable_iff_faultless :
    raw.Acceptable ↔ ∀ aspect error, ¬ raw.Fault aspect error := by
  constructor
  · rintro ⟨readable, allKnown, nonempty, backend⟩ aspect error fault
    cases fault with
    | mode value error given refused =>
        obtain ⟨mode, read⟩ := readable value given
        rw [read] at refused
        cases refused
    | flagNames front name rest first known unknown =>
        exact unknown (allKnown name (by simp [first]))
    | path empty => exact nonempty empty
    | capacityGiven shared missing =>
        rcases backend with ⟨-, -, capacity, given, -⟩ | ⟨isPipe, -⟩
        · rw [missing] at given
          cases given
        · rw [shared] at isPipe
          cases isPipe
    | capacityBounds capacity shared given outside =>
        rcases backend with ⟨-, -, _, given', bounded⟩ | ⟨isPipe, -⟩
        · rw [given] at given'
          cases given'
          exact outside bounded
        · rw [shared] at isPipe
          cases isPipe
    | sharedFlags flags shared given united =>
        rcases backend with ⟨-, none, -⟩ | ⟨isPipe, -⟩
        · exact given none
        · rw [shared] at isPipe
          cases isPipe
    | pipeCapacity capacity isPipe given positive =>
        rcases backend with ⟨shared, -⟩ | ⟨-, missing | zero⟩
        · rw [isPipe] at shared
          cases shared
        · rw [given] at missing
          cases missing
        · rw [given] at zero
          cases zero
          exact positive rfl
  · intro faultless
    refine ⟨fun value given => ?_, known_of_faultless (faultless .flagNames),
      fun empty => faultless _ _ (.path empty), ?_⟩
    · obtain ⟨mode, -, -, read, -⟩ := readMode_of_faultless (faultless .mode)
      exact ⟨mode, read value given⟩
    · obtain ⟨flags, -, unites⟩ := combineFlags_of_known (known_of_faultless (faultless .flagNames))
      cases kind : raw.kind with
      | namedPipe =>
          refine .inr ⟨rfl, ?_⟩
          cases given : raw.capacity with
          | none => exact .inl rfl
          | some capacity =>
              by_cases zero : capacity = 0
              · exact .inr (by rw [zero])
              · exact absurd (.pipeCapacity capacity kind given zero) (faultless _ _)
      | sharedMemory =>
          refine .inl ⟨rfl, ?_, ?_⟩
          · by_contra given
            exact faultless _ _ (.sharedFlags flags kind given unites)
          · cases given : raw.capacity with
            | none => exact absurd (.capacityGiven kind given) (faultless _ _)
            | some capacity =>
                refine ⟨capacity, rfl, ?_⟩
                by_contra outside
                exact faultless _ _ (.capacityBounds capacity kind given outside)

/-- Among the aspects that have a fault there is a first one. -/
theorem acceptable_or_firstFault (raw : Section) :
    raw.Acceptable ∨ ∃ error, raw.FirstFault error := by
  by_cases faulty : ∃ aspect error, raw.Fault aspect error
  · obtain ⟨aspect, ⟨error, fault⟩, least⟩ :=
      (measure Aspect.rank).wf.has_min {aspect | ∃ error, raw.Fault aspect error} faulty
    exact .inr ⟨error, aspect, fault, fun other early earlier fault' =>
      least other ⟨earlier, fault'⟩ early⟩
  · refine .inl (acceptable_iff_faultless.mpr fun aspect error fault => ?_)
    exact faulty ⟨aspect, error, fault⟩

/-- What a section yields that is acceptable is fit for both roles. -/
theorem Acceptable.fit (acceptable : raw.Acceptable) (yields : raw.Yields config)
    (permitted : config.mode ≤ greatestMode) (role : Role) : config.Fit role := by
  refine Fit.of_producer ⟨yields.path ▸ acceptable.path, permitted, ?_, ?_, ?_⟩ role
  · intro shared
    rcases acceptable.backend with ⟨-, -, capacity, given, bounded⟩ | ⟨isPipe, -⟩
    · refine .inr ?_
      rw [yields.capacity, given]
      exact bounded
    · rw [yields.kind, isPipe] at shared
      cases shared
  · intro shared
    rcases acceptable.backend with ⟨-, none, -⟩ | ⟨isPipe, -⟩
    · exact (yields.flags.eq_zero_iff acceptable.flags).mpr none
    · rw [yields.kind, isPipe] at shared
      cases shared
  · intro isPipe
    rcases acceptable.backend with ⟨shared, -⟩ | ⟨-, missing | zero⟩
    · rw [yields.kind, shared] at isPipe
      cases isPipe
    · rw [yields.capacity, missing]
      rfl
    · rw [yields.capacity, zero]
      rfl

theorem validate_of_acceptable (acceptable : raw.Acceptable) :
    ∃ config, raw.Yields config ∧ (∀ role, config.Fit role) ∧ raw.validate = .ok config := by
  obtain ⟨config, yields, permitted, validated⟩ :=
    exists_read fun aspect _ => acceptable_iff_faultless.mp acceptable aspect
  have fit := acceptable.fit yields permitted
  refine ⟨config, yields, fit, ?_⟩
  rw [validated, check, checkFor_eq_ok_iff.mpr (fit .producer)]
  rfl

theorem validate_eq_ok_iff : raw.validate = .ok config ↔ raw.Acceptable ∧ raw.Yields config := by
  rcases raw.acceptable_or_firstFault with acceptable | ⟨error, first⟩
  · obtain ⟨config', yields, -, validated⟩ := validate_of_acceptable acceptable
    rw [validated]
    constructor
    · rintro ⟨⟩
      exact ⟨acceptable, yields⟩
    · rintro ⟨-, yields'⟩
      exact congrArg Except.ok (yields.eq yields' rfl rfl rfl rfl fun _ => Iff.rfl)
  · rw [validate_of_firstFault first]
    constructor
    · rintro ⟨⟩
    · rintro ⟨acceptable, -⟩
      obtain ⟨aspect, fault, -⟩ := first
      exact absurd fault (acceptable_iff_faultless.mp acceptable aspect error)

theorem validate_eq_error_iff : raw.validate = .error error ↔ raw.FirstFault error := by
  refine ⟨fun refused => ?_, validate_of_firstFault⟩
  rcases raw.acceptable_or_firstFault with acceptable | ⟨error', first⟩
  · obtain ⟨config, -, -, validated⟩ := validate_of_acceptable acceptable
    rw [refused] at validated
    cases validated
  · rw [validate_of_firstFault first] at refused
    cases refused
    exact first

/-- Of three faults the unknown flag comes first. -/
example :
    (⟨.sharedMemory, "", none, some 0, ["append", "excl", "none"]⟩ : Section).validate =
      .error (unknownFlag "excl") := by
  decide

/-- What a section is turned into is fit for both roles. -/
theorem fit_of_validate (validated : raw.validate = .ok config) (role : Role) :
    config.Fit role := by
  obtain ⟨acceptable, yields⟩ := validate_eq_ok_iff.mp validated
  obtain ⟨config', yields', fit, -⟩ := validate_of_acceptable acceptable
  rw [yields.eq yields' rfl rfl rfl rfl fun _ => Iff.rfl]
  exact fit role

end

/-- The acceptable sections are those that are turned into a configuration, which is the one
that the section stands for, with whatever order and repetition its flags are given.  Of every
other section the first fault is reported.  An accepted configuration passes the check of both
roles; beyond those that pass the check on their own, the check of a consumer passes shared
memory without a capacity, if nothing else is wrong, and no more. -/
theorem validate_verdict (raw : Section) :
    ((∃ config, raw.validate = .ok config) ↔ raw.Acceptable) ∧
    (∀ config, raw.validate = .ok config ↔ raw.Acceptable ∧ raw.Yields config) ∧
    (∀ names, (∀ name, name ∈ names ↔ name ∈ raw.flags) → ∀ config,
      ({ raw with flags := names } : Section).validate = .ok config ↔
        raw.validate = .ok config) ∧
    (∀ error, raw.validate = .error error ↔ raw.FirstFault error) ∧
    (∀ config, raw.validate = .ok config → ∀ role, config.checkFor role = .ok ()) ∧
    (∀ config : Config, config.check = .ok () → config.checkFor .consumer = .ok ()) ∧
    ∀ config : Config, config.checkFor .consumer = .ok () ∧ config.check ≠ .ok () ↔
      config.kind = .sharedMemory ∧ config.capacity = 0 ∧ config.path ≠ "" ∧
        config.mode ≤ greatestMode ∧ config.flags = 0 := by
  refine ⟨⟨?_, ?_⟩, fun config => validate_eq_ok_iff, ?_, fun error => validate_eq_error_iff, ?_,
    ?_, ?_⟩
  · rintro ⟨config, validated⟩
    exact (validate_eq_ok_iff.mp validated).1
  · intro acceptable
    obtain ⟨config, -, -, validated⟩ := validate_of_acceptable acceptable
    exact ⟨config, validated⟩
  · intro names same config
    rw [validate_eq_ok_iff, validate_eq_ok_iff]
    exact and_congr (acceptable_congr same) (yields_congr same)
  · intro config validated role
    exact checkFor_eq_ok_iff.mpr (fit_of_validate validated role)
  · intro config valid
    exact checkFor_eq_ok_iff.mpr ((checkFor_eq_ok_iff.mp valid).of_producer .consumer)
  · intro config
    rw [check, ne_eq, checkFor_eq_ok_iff, checkFor_eq_ok_iff]
    exact fit_consumer_only_iff

end Section

end Config

end BoundedStream
