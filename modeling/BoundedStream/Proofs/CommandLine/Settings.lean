import BoundedStream.Proofs.CommandLine.Tokens
import Mathlib.Data.List.Nodup

/-!
# Settings of an invocation

What a command line says is a list of settings, options with their values.  An invocation of a
command that streams has one setting for each field that it has.  A line spells the invocation
if it gives these settings in some order, the global ones on either side of the name of the
command and the others behind it; a chunk of the default size may be left out.
-/

namespace BoundedStream

/-- Options with their values, in the order in which they are given. -/
abbrev Settings := List (OptionName × OptionValue)

namespace Settings

/-- Every option is given once. -/
def Distinct (settings : Settings) : Prop := (settings.map Prod.fst).Nodup

instance (settings : Settings) : Decidable settings.Distinct :=
  inferInstanceAs (Decidable (settings.map Prod.fst).Nodup)

/-- Every option may stand at the level and has a value that it can have. -/
def Admitted (level : Level) (settings : Settings) : Prop :=
  ∀ setting ∈ settings, setting.1 ∈ OptionName.allowed level ∧ setting.2.Fits setting.1

/-- The settings as arguments, one for each. -/
def tokens (settings : Settings) : List String :=
  settings.map fun setting => CommandLine.token setting.1 (setting.2.written setting.1)

variable {settings front back : Settings} {option : OptionName} {value : OptionValue}

theorem distinct_nil : Distinct [] := List.nodup_nil

theorem Distinct.left (distinct : (front ++ back).Distinct) : Distinct front := by
  rw [Distinct, List.map_append] at distinct
  exact (List.nodup_append.mp distinct).1

theorem Distinct.right (distinct : (front ++ back).Distinct) : Distinct back := by
  rw [Distinct, List.map_append] at distinct
  exact (List.nodup_append.mp distinct).2.1

theorem lookup_isSome_iff :
    (settings.lookup option).isSome = true ↔ option ∈ settings.map Prod.fst := by
  rw [List.lookup_isSome_iff, List.mem_map]
  constructor
  · rintro ⟨setting, member, found⟩
    exact ⟨setting, member, (beq_iff_eq.mp found).symm⟩
  · rintro ⟨setting, member, found⟩
    exact ⟨setting, member, beq_iff_eq.mpr found.symm⟩

theorem lookup_eq_none (absent : option ∉ settings.map Prod.fst) :
    settings.lookup option = none := by
  rw [← Option.not_isSome_iff_eq_none, lookup_isSome_iff]
  exact absent

/-- Where every option is given once, looking one up finds exactly what was given. -/
theorem Distinct.lookup_eq_some_iff (distinct : settings.Distinct) :
    settings.lookup option = some value ↔ (option, value) ∈ settings := by
  induction settings with
  | nil => simp
  | cons setting settings ih =>
      obtain ⟨name, held⟩ := setting
      rw [Distinct, List.map_cons, List.nodup_cons] at distinct
      obtain ⟨fresh, distinct⟩ := distinct
      rw [List.lookup_cons, List.mem_cons, Prod.mk.injEq, ← ih distinct]
      by_cases same : option = name
      · subst same
        simp [lookup_eq_none fresh, eq_comm]
      · rw [beq_eq_false_iff_ne.mpr same]
        simp [same]

/-- One more setting leaves every option given once, or repeats one. -/
theorem distinct_append_singleton (distinct : settings.Distinct) :
    Distinct (settings ++ [(option, value)]) ↔ option ∉ settings.map Prod.fst := by
  rw [Distinct, List.map_append, List.nodup_append]
  constructor
  · rintro ⟨-, -, apart⟩ member
    exact apart option member option (by simp) rfl
  · intro fresh
    refine ⟨distinct, List.nodup_singleton _, ?_⟩
    intro given member added inAdded same
    obtain rfl := List.mem_singleton.mp inAdded
    exact fresh (same ▸ member)

/-- An option that is given already is repeated wherever it is given again. -/
theorem not_distinct_of_again (given : option ∈ (front ++ back).map Prod.fst) :
    ¬ Distinct (front ++ (option, value) :: back) := by
  rw [Distinct, List.map_append, List.map_cons, List.nodup_middle, ← List.map_append]
  intro once
  exact (List.nodup_cons.mp once).1 given

/-- Another option is looked up as if a setting were not there. -/
theorem lookup_middle {other : OptionName} (apart : other ≠ option) :
    (front ++ (option, value) :: back).lookup other = (front ++ back).lookup other := by
  rw [List.lookup_append, List.lookup_cons, beq_eq_false_iff_ne.mpr apart, List.lookup_append]

theorem Admitted.value_of_given {level : Level} (admitted : settings.Admitted level)
    (given : option ∈ settings.map Prod.fst) :
    option ∈ OptionName.allowed level ∧
      ∃ value, settings.lookup option = some value ∧ value.Fits option := by
  obtain ⟨value, found⟩ := Option.isSome_iff_exists.mp (lookup_isSome_iff.mpr given)
  obtain ⟨front, back, rfl, -⟩ := List.lookup_eq_some_iff.mp found
  obtain ⟨may, fits⟩ := admitted (option, value) (by simp)
  exact ⟨may, value, found, fits⟩

theorem Admitted.left {level : Level} (admitted : (front ++ back).Admitted level) :
    Admitted level front :=
  fun setting member => admitted setting (List.mem_append_left back member)

/-- A setting that may stand at a level may stand anywhere among the others. -/
theorem Admitted.insert {level : Level} (admitted : (front ++ back).Admitted level)
    (may : option ∈ OptionName.allowed level) (fits : value.Fits option) :
    Admitted level (front ++ (option, value) :: back) := by
  intro setting member
  rcases List.mem_append.mp member with before | after
  · exact admitted setting (List.mem_append_left back before)
  · rcases List.mem_cons.mp after with rfl | behind
    · exact ⟨may, fits⟩
    · exact admitted setting (List.mem_append_right front behind)

end Settings

/-- The value that the arguments have for an option. -/
def TransportArguments.value? (arguments : TransportArguments) : OptionName → Option OptionValue
  | .kind => arguments.kind.map .backend
  | .path => arguments.path.map .text
  | .capacity => arguments.capacity.map .number
  | .mode => arguments.mode.map .number
  | .nonblock => if arguments.nonblock then some .present else Option.none
  | _ => Option.none

namespace Command

def level : Command → Level
  | produce .. => .produce
  | consume .. => .consume
  | validate _ => .validate
  | remove _ => .remove

def name : Command → String
  | produce .. => "produce"
  | consume .. => "consume"
  | validate _ => "validate"
  | remove _ => "remove"

theorem ofCommand?_name (command : Command) :
    Level.ofCommand? command.name = some command.level := by
  cases command <;> rfl

def transport? : Command → Option TransportArguments
  | produce transport .. | consume transport .. => some transport
  | validate _ | remove _ => none

/-- The value that a command that streams has for one of its own options. -/
def value? : Command → OptionName → Option OptionValue
  | produce _ input _, .input => input.map .text
  | produce _ _ chunk, .chunk => some (.number chunk)
  | produce transport _ _, option => transport.value? option
  | consume _ output _ _, .output => output.map .text
  | consume _ _ bytes _, .bytes => bytes.map .number
  | consume _ _ _ chunk, .chunk => some (.number chunk)
  | consume transport _ _ _, option => transport.value? option
  | _, _ => none

end Command

namespace Invocation

/-- The value that an invocation has for an option. -/
def value? (invocation : Invocation) : OptionName → Option OptionValue
  | .config => invocation.config.map .text
  | .verbose => if invocation.verbose then some .present else none
  | option => invocation.command.value? option

/-- The options that are fields of an invocation. -/
def fields : List OptionName :=
  [.config, .verbose] ++ OptionName.forTransport ++ [.input, .output, .bytes, .chunk]

/-- Every field that an invocation has, as a setting. -/
def settings (invocation : Invocation) : Settings :=
  fields.filterMap fun option => (invocation.value? option).map (option, ·)

/-- The invocation is one of a command that streams, and its fields have values that can be
written. -/
structure Expressible (invocation : Invocation) : Prop where
  streams : invocation.command.level = .produce ∨ invocation.command.level = .consume
  fits : ∀ option value, invocation.value? option = some value → value.Fits option

/-- A line with settings before and behind the name of the command gives every setting of an
invocation once, in whatever order. -/
structure Spells (invocation : Invocation) (before behind : Settings) : Prop where
  complete : ∃ omitted : Settings,
    (omitted = [] ∨ omitted = [(.chunk, .number Command.defaultChunk)]) ∧
      (behind ++ before ++ omitted).Perm invocation.settings
  global : ∀ setting ∈ before, setting.1 = .config ∨ setting.1 = .verbose

/-- The invocation with another value of a global option. -/
def setGlobal (invocation : Invocation) : OptionName → OptionValue → Invocation
  | .config, .text text => { invocation with config := some text }
  | .verbose, _ => { invocation with verbose := true }
  | _, _ => invocation

variable {invocation : Invocation} {option other : OptionName} {value again : OptionValue}
  {before behind : Settings}

theorem mem_fields_of_value? (found : invocation.value? option = some value) :
    option ∈ fields := by
  obtain ⟨config, verbose, command⟩ := invocation
  cases option
  case help | version => cases command <;> cases found
  all_goals decide

/-- A command that streams has values only for options that may stand behind it. -/
theorem Expressible.allowed_of_value? (expressible : invocation.Expressible)
    (found : invocation.value? option = some value) :
    option ∈ OptionName.allowed invocation.command.level := by
  obtain ⟨config, verbose, command⟩ := invocation
  cases command with
  | produce =>
      change option ∈ OptionName.allowed .produce
      cases option <;> first | decide | cases found
  | consume =>
      change option ∈ OptionName.allowed .consume
      cases option <;> first | decide | cases found
  | validate => rcases expressible.streams with other | other <;> cases other
  | remove => rcases expressible.streams with other | other <;> cases other

theorem value?_of_forTransport {transport : TransportArguments}
    (streams : invocation.command.transport? = some transport)
    (member : option ∈ OptionName.forTransport) :
    invocation.value? option = transport.value? option := by
  obtain ⟨config, verbose, command⟩ := invocation
  simp only [OptionName.forTransport, List.mem_cons, List.not_mem_nil, or_false] at member
  cases command with
  | produce | consume =>
      cases streams
      rcases member with rfl | rfl | rfl | rfl | rfl <;> rfl
  | validate | remove => cases streams

theorem mem_settings_iff :
    (option, value) ∈ invocation.settings ↔ invocation.value? option = some value := by
  simp only [settings, List.mem_filterMap, Option.map_eq_some_iff, Prod.mk.injEq]
  constructor
  · rintro ⟨_, -, _, found, rfl, rfl⟩
    exact found
  · intro found
    exact ⟨option, mem_fields_of_value? found, value, found, rfl, rfl⟩

theorem distinct_settings (invocation : Invocation) : invocation.settings.Distinct := by
  rw [Settings.Distinct, settings, List.map_filterMap]
  apply List.Nodup.filterMap _ (by decide)
  intro option other name named renamed
  simp only [Option.map_map, Option.mem_def, Option.map_eq_some_iff, Function.comp_apply]
    at named renamed
  obtain ⟨_, -, rfl⟩ := named
  obtain ⟨_, -, same⟩ := renamed
  exact same.symm

@[simp]
theorem command_setGlobal (invocation : Invocation) (option : OptionName) (value : OptionValue) :
    (invocation.setGlobal option value).command = invocation.command := by
  unfold setGlobal
  split <;> rfl

theorem value?_setGlobal_self (global : option = .config ∨ option = .verbose)
    (fits : again.Fits option) : (invocation.setGlobal option again).value? option = some again := by
  rcases global with rfl | rfl
  · cases fits with
    | text => rfl
    | number counts => simp at counts
  · cases fits with
    | verbose => rfl
    | text named => simp at named
    | number counts => simp at counts

theorem value?_setGlobal_of_ne (apart : other ≠ option) :
    (invocation.setGlobal option again).value? other = invocation.value? other := by
  unfold setGlobal
  split
  · cases other with
    | config => exact absurd rfl apart
    | _ => rfl
  · cases other with
    | verbose => exact absurd rfl apart
    | _ => rfl
  · rfl

theorem Expressible.setGlobal (expressible : invocation.Expressible)
    (global : option = .config ∨ option = .verbose) (fits : again.Fits option) :
    (invocation.setGlobal option again).Expressible := by
  refine ⟨by simpa using expressible.streams, ?_⟩
  intro other held found
  by_cases same : other = option
  · subst same
    rw [value?_setGlobal_self global fits] at found
    cases found
    exact fits
  · rw [value?_setGlobal_of_ne same] at found
    exact expressible.fits other held found

/-- One setting is exchanged for the new one. -/
theorem perm_settings_setGlobal {rest : Settings}
    (order : List.Perm ((option, value) :: rest) invocation.settings)
    (global : option = .config ∨ option = .verbose) (fits : again.Fits option) :
    List.Perm ((option, again) :: rest) (invocation.setGlobal option again).settings := by
  have once : (((option, value) :: rest).map Prod.fst).Nodup :=
    (order.map Prod.fst).nodup_iff.mpr invocation.distinct_settings
  have fresh : option ∉ rest.map Prod.fst := (List.nodup_cons.mp once).1
  have exchanged : ((option, again) :: rest).Nodup := List.Nodup.of_map Prod.fst once
  refine (List.perm_ext_iff_of_nodup exchanged
    (List.Nodup.of_map Prod.fst (distinct_settings _))).mpr ?_
  rintro ⟨other, held⟩
  rw [mem_settings_iff]
  by_cases same : other = option
  · subst same
    have absent : (other, held) ∉ rest := fun member => fresh (List.mem_map_of_mem member)
    rw [value?_setGlobal_self global fits, List.mem_cons]
    simp [absent, eq_comm]
  · rw [value?_setGlobal_of_ne same, ← mem_settings_iff, ← order.mem_iff]
    simp [same]

/-- Every invocation is spelled by its settings in their own order behind the name. -/
theorem spells_settings (invocation : Invocation) : invocation.Spells [] invocation.settings :=
  ⟨⟨[], .inl rfl, by simp⟩, nofun⟩

namespace Spells

theorem distinct (spells : invocation.Spells before behind) :
    Settings.Distinct (behind ++ before) := by
  obtain ⟨⟨omitted, -, order⟩, -⟩ := spells
  have once := (order.map Prod.fst).nodup_iff.mpr invocation.distinct_settings
  exact Settings.Distinct.left once

theorem value?_of_mem (spells : invocation.Spells before behind)
    (member : (option, value) ∈ behind ++ before) : invocation.value? option = some value := by
  obtain ⟨⟨omitted, -, order⟩, -⟩ := spells
  exact mem_settings_iff.mp (order.mem_iff.mp (List.mem_append_left omitted member))

theorem admitted_before (spells : invocation.Spells before behind)
    (expressible : invocation.Expressible) : Settings.Admitted .root before := by
  have early : ∀ option : OptionName, option = .config ∨ option = .verbose →
      option ∈ OptionName.allowed .root := by
    rintro _ (rfl | rfl) <;> decide
  rintro ⟨option, value⟩ member
  have found := spells.value?_of_mem (List.mem_append_right behind member)
  exact ⟨early option (spells.global _ member), expressible.fits _ _ found⟩

theorem admitted_behind (spells : invocation.Spells before behind)
    (expressible : invocation.Expressible) :
    Settings.Admitted invocation.command.level behind := by
  rintro ⟨option, value⟩ member
  have found := spells.value?_of_mem (List.mem_append_left before member)
  exact ⟨expressible.allowed_of_value? found, expressible.fits _ _ found⟩

/-- What the line gives for an option, or leaves out, is what the invocation has for it. -/
theorem exists_omitted (spells : invocation.Spells before behind) :
    ∃ omitted : Settings, (omitted = [] ∨ omitted = [(.chunk, .number Command.defaultChunk)]) ∧
      ∀ option, ((behind.lookup option).or (before.lookup option)).or (omitted.lookup option) =
        invocation.value? option := by
  obtain ⟨⟨omitted, omission, order⟩, -⟩ := spells
  have once := (order.map Prod.fst).nodup_iff.mpr invocation.distinct_settings
  refine ⟨omitted, omission, ?_⟩
  intro option
  rw [← List.lookup_append, ← List.lookup_append]
  ext value
  rw [Settings.Distinct.lookup_eq_some_iff once, order.mem_iff, mem_settings_iff]

theorem lookup_or (spells : invocation.Spells before behind) (notChunk : option ≠ .chunk) :
    (behind.lookup option).or (before.lookup option) = invocation.value? option := by
  obtain ⟨omitted, omission, found⟩ := spells.exists_omitted
  have nothing : omitted.lookup option = none := by
    rcases omission with rfl | rfl
    · rfl
    · exact Settings.lookup_eq_none (by simpa using notChunk)
  rw [← found option, nothing, Option.or_none]

/-- A global option may leave its place before the name for one behind it, with another value. -/
theorem setGlobal {early late front back : Settings}
    (spells : invocation.Spells (early ++ (option, value) :: late) (front ++ back))
    (fits : again.Fits option) :
    (invocation.setGlobal option again).Spells (early ++ late)
      (front ++ (option, again) :: back) := by
  obtain ⟨⟨omitted, omission, order⟩, global⟩ := spells
  have given : option = .config ∨ option = .verbose := global (option, value) (by simp)
  have left : List.Perm ((option, value) :: (front ++ back ++ (early ++ late) ++ omitted))
      (front ++ back ++ (early ++ (option, value) :: late) ++ omitted) := by
    have moved : List.Perm (front ++ back ++ early ++ (option, value) :: (late ++ omitted)) _ :=
      List.perm_middle
    simpa using moved.symm
  have met : List.Perm ((option, again) :: (front ++ back ++ (early ++ late) ++ omitted))
      (front ++ (option, again) :: back ++ (early ++ late) ++ omitted) := by
    have moved : List.Perm (front ++ (option, again) :: (back ++ (early ++ late) ++ omitted)) _ :=
      List.perm_middle
    simpa using moved.symm
  refine ⟨⟨omitted, omission, ?_⟩, ?_⟩
  · exact met.symm.trans (perm_settings_setGlobal (left.trans order) given fits)
  · intro setting member
    exact global setting (List.mem_append.mpr
      ((List.mem_append.mp member).imp_right (List.mem_cons_of_mem _)))

theorem lookup_before (spells : invocation.Spells before behind)
    (own : option ≠ .config ∧ option ≠ .verbose) : before.lookup option = none := by
  apply Settings.lookup_eq_none
  rw [List.mem_map]
  rintro ⟨setting, member, rfl⟩
  rcases spells.global setting member with config | verbose
  · exact own.1 config
  · exact own.2 verbose

/-- The command's own options are found behind its name. -/
theorem lookup_behind (spells : invocation.Spells before behind)
    (own : option ≠ .config ∧ option ≠ .verbose) (notChunk : option ≠ .chunk) :
    behind.lookup option = invocation.value? option := by
  have found := spells.lookup_or notChunk
  rwa [spells.lookup_before own, Option.or_none] at found

/-- The bytes of a chunk are found behind the name unless they are the default. -/
theorem lookup_chunk (spells : invocation.Spells before behind)
    (found : invocation.value? .chunk = some value) :
    (behind.lookup .chunk).or (some (.number Command.defaultChunk)) = some value := by
  obtain ⟨omitted, omission, same⟩ := spells.exists_omitted
  rw [← same .chunk, spells.lookup_before (by decide), Option.or_none] at found
  rcases omission with rfl | rfl
  · rw [List.lookup_nil, Option.or_none] at found
    rw [found, Option.some_or]
  · exact found

end Spells

end Invocation

end BoundedStream
