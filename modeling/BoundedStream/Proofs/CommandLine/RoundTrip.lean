import BoundedStream.Proofs.CommandLine.Settings

/-!
# Command lines read back

A line that spells an invocation is read as this invocation.  The invariant is the same on both
sides of the name of the command: the settings met so far are held in their order, each option
once, and the first repeated option ends the reading.  A global option may stand on both sides,
where the one behind the name counts.  An option of another command ends the reading wherever it
stands.
-/

namespace BoundedStream

/-- The options that only the other command that streams has. -/
def Command.foreign : Command → List OptionName
  | .produce .. => [.output, .bytes]
  | .consume .. => [.input]
  | _ => []

namespace CommandLine

namespace Reading

variable {level : Level} {given settings : Settings} {option : OptionName}
  {reading root : Reading} {arguments : List String}

theorem has_holding : (holding level given).has option = true ↔ option ∈ given.map Prod.fst :=
  Settings.lookup_isSome_iff

/-- A reader that meets one argument after the other holds the settings of their tokens, unless
one of them repeats an option. -/
theorem read_tokens {Result : Type} {read : Reading → List String → Except UsageError Result}
    (step : ∀ given option attached arguments,
      read (holding level given) (token option attached :: arguments) =
        ((holding level given).meet (token option attached)).bind (read · arguments))
    (admitted : settings.Admitted level) (distinct : given.Distinct) :
    read (holding level given) (settings.tokens ++ arguments) =
      if Settings.Distinct (given ++ settings) then
        read (holding level (given ++ settings)) arguments
      else .error .argumentConflict := by
  -- What is held stays distinct as long as the reading goes on.
  induction settings generalizing given with
  | nil => simp [Settings.tokens, distinct]
  | cons setting settings ih =>
      obtain ⟨option, value⟩ := setting
      obtain ⟨may, fits⟩ := admitted (option, value) List.mem_cons_self
      have rest : Settings.Admitted level settings := fun other member =>
        admitted other (List.mem_cons_of_mem _ member)
      have regroup : given ++ (option, value) :: settings =
          given ++ [(option, value)] ++ settings := by simp
      rw [Settings.tokens, List.map_cons, List.cons_append, step, meet_written may fits]
      by_cases repeated : (holding level given).has option = true
      · have conflict : ¬ Settings.Distinct (given ++ (option, value) :: settings) := by
          intro once
          rw [regroup] at once
          exact (Settings.distinct_append_singleton distinct).mp once.left (has_holding.mp repeated)
        rw [if_pos repeated, if_neg conflict]
        rfl
      · rw [if_neg repeated, regroup]
        exact ih rest
          ((Settings.distinct_append_singleton distinct).mpr (has_holding.not.mp repeated))

theorem run_tokens (admitted : settings.Admitted level) (distinct : given.Distinct) :
    (holding level given).run (settings.tokens ++ arguments) =
      if Settings.Distinct (given ++ settings) then
        (holding level (given ++ settings)).run arguments
      else .error .argumentConflict :=
  read_tokens (fun _ _ _ _ => rfl) admitted distinct

/-! ### The fields that were read -/

theorem text?_or {text : Option String}
    (found : (reading.get? option).or (root.get? option) = text.map .text) :
    (reading.text? option).or (root.text? option) = text := by
  unfold text?
  cases first : reading.get? option with
  | none =>
      rw [first, Option.none_or] at found
      rw [found]
      cases text <;> rfl
  | some value =>
      rw [first, Option.some_or] at found
      cases text with
      | none => cases found
      | some text =>
          cases found
          rfl

theorem text?_eq {text : Option String} (found : reading.get? option = text.map .text) :
    reading.text? option = text := by
  rw [text?, found]
  cases text <;> rfl

theorem number?_eq {number : Option Nat} (found : reading.get? option = number.map .number) :
    reading.number? option = number := by
  rw [number?, found]
  cases number <;> rfl

theorem backend?_eq {kind : Option TransportKind}
    (found : reading.get? option = kind.map .backend) : reading.backend? option = kind := by
  rw [backend?, found]
  cases kind <;> rfl

theorem transport_eq {transport : TransportArguments}
    (found : ∀ option ∈ OptionName.forTransport, reading.get? option = transport.value? option) :
    reading.transport = transport := by
  have nonblock : reading.has .nonblock = transport.nonblock := by
    rw [has, found .nonblock (by decide), TransportArguments.value?]
    cases transport.nonblock <;> rfl
  rw [Reading.transport, backend?_eq (found .kind (by decide)),
    text?_eq (found .path (by decide)), number?_eq (found .capacity (by decide)),
    number?_eq (found .mode (by decide)), nonblock]

theorem chunk_eq {chunk : Nat}
    (found : (reading.given.lookup .chunk).or (some (.number Command.defaultChunk)) =
      some (.number chunk)) : reading.chunk = chunk := by
  unfold Reading.chunk number? get?
  cases first : reading.given.lookup .chunk with
  | none =>
      rw [first] at found
      cases found
      rfl
  | some value =>
      rw [first] at found
      cases found
      rfl

end Reading

open Reading

variable {before behind front back given settings : Settings} {option : OptionName}
  {value : OptionValue} {level : Level} {name : String} {arguments : List String}
  {invocation : Invocation}

/-! ## Before and behind the name of a command -/

theorem readFrom_token (option : OptionName) (attached : Option String) :
    readFrom (holding .root given) (token option attached :: arguments) =
      ((holding .root given).meet (token option attached)).bind (readFrom · arguments) := by
  obtain ⟨noCommand, noHelp⟩ := ofCommand?_token option attached
  rw [readFrom, if_pos (by rfl), noCommand]
  simp only [beq_eq_false_iff_ne.mpr noHelp, Bool.and_false]
  rfl

theorem readFrom_tokens (admitted : settings.Admitted .root) (distinct : given.Distinct) :
    readFrom (holding .root given) (settings.tokens ++ arguments) =
      if Settings.Distinct (given ++ settings) then
        readFrom (holding .root (given ++ settings)) arguments
      else .error .argumentConflict :=
  read_tokens (fun _ option attached _ => readFrom_token option attached) admitted distinct

theorem readFrom_name (named : Level.ofCommand? name = some level) :
    readFrom (holding .root given) (name :: arguments) =
      readCommand (holding .root given) level arguments := by
  rw [readFrom, if_pos (by rfl), named]

/-- What stands before the name is held when the name is met. -/
theorem parse_tokens (admitted : before.Admitted .root) (distinct : before.Distinct) :
    parse (before.tokens ++ arguments) = readFrom (holding .root before) arguments := by
  have held : readFrom (holding .root []) (before.tokens ++ arguments) = _ :=
    readFrom_tokens admitted Settings.distinct_nil
  rwa [List.nil_append, if_pos distinct] at held

/-- What stands behind the name is held at the level of the command. -/
theorem readCommand_tokens (admitted : behind.Admitted level) :
    readCommand (holding .root before) level (behind.tokens ++ arguments) =
      if behind.Distinct then
        ((holding level behind).run arguments).bind fun reading =>
          reading.command.map ((holding .root before).invocation reading)
      else .error .argumentConflict := by
  have held : (start level).run (behind.tokens ++ arguments) = _ :=
    run_tokens admitted Settings.distinct_nil
  rw [List.nil_append] at held
  rw [readCommand, held]
  by_cases once : behind.Distinct
  · rw [if_pos once, if_pos once]
    cases (holding level behind).run arguments with
    | error error => rfl
    | ok reading =>
        change reading.command.bind (fun command =>
          .ok ((holding .root before).invocation reading command)) = reading.command.map _
        cases reading.command <;> rfl
  · rw [if_neg once, if_neg once]
    rfl

/-- The arguments of a command line with settings before and behind the name of its command. -/
def line (before : Settings) (name : String) (behind : Settings) : List String :=
  before.tokens ++ name :: behind.tokens

/-- A whole line in one equation: behind the name, every option may be given once. -/
theorem parse_line (named : Level.ofCommand? name = some level)
    (admittedBefore : before.Admitted .root) (distinct : before.Distinct)
    (admittedBehind : behind.Admitted level) :
    parse (line before name behind) =
      if behind.Distinct then
        (holding level behind).command.map
          ((holding .root before).invocation (holding level behind))
      else .error .argumentConflict := by
  have held : readCommand (holding .root before) level (behind.tokens ++ []) = _ :=
    readCommand_tokens admittedBehind
  rw [List.append_nil] at held
  rw [line, parse_tokens admittedBefore distinct, readFrom_name named, held]
  rfl

/-! ## Lines that spell an invocation -/

theorem transport_of_spells (spells : invocation.Spells before behind)
    {transport : TransportArguments} (streams : invocation.command.transport? = some transport) :
    (holding level behind).transport = transport := by
  apply transport_eq
  intro option member
  have apart : (option ≠ .config ∧ option ≠ .verbose) ∧ option ≠ .chunk := by
    revert option
    decide
  exact (spells.lookup_behind apart.1 apart.2).trans
    (Invocation.value?_of_forTransport streams member)

/-- A command's own options are all read behind its name. -/
theorem command_eq (expressible : invocation.Expressible)
    (spells : invocation.Spells before behind) :
    (holding invocation.command.level behind).command = .ok invocation.command := by
  have own : ∀ {option}, option ≠ .config ∧ option ≠ .verbose → option ≠ .chunk →
      ∀ level, (holding level behind).get? option = invocation.value? option :=
    fun own notChunk _ => spells.lookup_behind own notChunk
  obtain ⟨config, verbose, command⟩ := invocation
  cases command with
  | produce transport input chunk =>
      change Except.ok (Command.produce (holding .produce behind).transport
        ((holding .produce behind).text? .input) (holding .produce behind).chunk) = _
      rw [transport_of_spells spells rfl, text?_eq (own (by decide) (by decide) _),
        chunk_eq (spells.lookup_chunk rfl)]
  | consume transport output bytes chunk =>
      change Except.ok (Command.consume (holding .consume behind).transport
        ((holding .consume behind).text? .output) ((holding .consume behind).number? .bytes)
        (holding .consume behind).chunk) = _
      rw [transport_of_spells spells rfl, text?_eq (own (by decide) (by decide) _),
        number?_eq (own (by decide) (by decide) _), chunk_eq (spells.lookup_chunk rfl)]
  | validate => rcases expressible.streams with other | other <;> cases other
  | remove => rcases expressible.streams with other | other <;> cases other

/-- The global options count on either side of the name. -/
theorem invocation_eq (spells : invocation.Spells before behind) :
    (holding .root before).invocation (holding level behind) invocation.command = invocation := by
  obtain ⟨config, verbose, command⟩ := invocation
  have config_eq :
      ((holding level behind).text? .config).or ((holding .root before).text? .config) = config :=
    text?_or (spells.lookup_or (by decide))
  have verbose_eq : ((holding .root before).has .verbose || (holding level behind).has .verbose) =
      verbose := by
    rw [Bool.or_comm]
    change ((behind.lookup .verbose).isSome || (before.lookup .verbose).isSome) = _
    rw [← Option.isSome_or, spells.lookup_or (by decide)]
    cases verbose <;> rfl
  rw [Reading.invocation, config_eq, verbose_eq]

/-- The settings are read back as the invocation that they spell. -/
theorem parse_spelled (expressible : invocation.Expressible)
    (spells : invocation.Spells before behind) :
    parse (line before invocation.command.name behind) = .ok invocation := by
  rw [parse_line invocation.command.ofCommand?_name (spells.admitted_before expressible)
    spells.distinct.right (spells.admitted_behind expressible), if_pos spells.distinct.left,
    command_eq expressible spells, Except.map, invocation_eq spells]

/-! ## Options too many -/

/-- An option that stands behind the name may not stand there again. -/
theorem parse_again (named : Level.ofCommand? name = some level)
    (admittedBefore : before.Admitted .root) (distinct : before.Distinct)
    (admittedBehind : Settings.Admitted level (front ++ back))
    (given : option ∈ (front ++ back).map Prod.fst) (fits : value.Fits option) :
    parse (line before name (front ++ (option, value) :: back)) = .error .argumentConflict := by
  have may := (admittedBehind.value_of_given given).1
  rw [parse_line named admittedBefore distinct (admittedBehind.insert may fits),
    if_neg (Settings.not_distinct_of_again given)]

/-- What stands before the name does not count for an option that stands behind it. -/
theorem invocation_hidden (admitted : behind.Admitted level)
    (given : option ∈ behind.map Prod.fst) :
    (holding .root (front ++ (option, value) :: back)).invocation (holding level behind) =
      (holding .root (front ++ back)).invocation (holding level behind) := by
  have elsewhere : ∀ other, option ≠ other →
      (holding .root (front ++ (option, value) :: back)).get? other =
        (holding .root (front ++ back)).get? other := fun other apart =>
    Settings.lookup_middle apart.symm
  obtain ⟨-, again, found, fits⟩ := admitted.value_of_given given
  -- The root is asked for two options only, the second of which is a switch.
  have config : ((holding level behind).text? .config).or
        ((holding .root (front ++ (option, value) :: back)).text? .config) =
      ((holding level behind).text? .config).or
        ((holding .root (front ++ back)).text? .config) := by
    by_cases same : option = .config
    · subst same
      cases fits with
      | @text _ text named nonempty =>
          have read : (holding level behind).text? .config = some text :=
            text?_eq (show (holding level behind).get? .config = (some text).map .text from found)
          rw [read, Option.some_or, Option.some_or]
      | number counts => simp at counts
    · rw [Reading.text?, Reading.text?, Reading.text?, elsewhere .config same]
  have verbose : ((holding .root (front ++ (option, value) :: back)).has .verbose ||
        (holding level behind).has .verbose) =
      ((holding .root (front ++ back)).has .verbose || (holding level behind).has .verbose) := by
    by_cases same : option = .verbose
    · subst same
      rw [has_holding.mpr given, Bool.or_true, Bool.or_true]
    · rw [Reading.has, Reading.has, Reading.has, elsewhere .verbose same]
  funext command
  rw [Reading.invocation, Reading.invocation, config, verbose]

/-- A global option that stands behind the name as well as before it counts as it stands behind
it. -/
theorem parse_hidden (named : Level.ofCommand? name = some level)
    (admittedBefore : Settings.Admitted .root (front ++ (option, value) :: back))
    (distinct : Settings.Distinct (front ++ (option, value) :: back))
    (admittedBehind : behind.Admitted level) (given : option ∈ behind.map Prod.fst) :
    parse (line (front ++ (option, value) :: back) name behind) =
      parse (line (front ++ back) name behind) := by
  have fewer : Settings.Admitted .root (front ++ back) := fun setting member =>
    admittedBefore setting (List.mem_append.mpr
      ((List.mem_append.mp member).imp_right (List.mem_cons_of_mem _)))
  have once : Settings.Distinct (front ++ back) := by
    rw [Settings.Distinct, List.map_append, List.map_cons, List.nodup_middle] at distinct
    rw [Settings.Distinct, List.map_append]
    exact (List.nodup_cons.mp distinct).2
  rw [parse_line named admittedBefore distinct admittedBehind,
    parse_line named fewer once admittedBehind, invocation_hidden admittedBehind given]

/-- An option that cannot stand at the root is unknown before the name. -/
theorem parse_unknown_before (admitted : before.Admitted .root) (distinct : before.Distinct)
    (unknown : option ∉ OptionName.allowed .root) (attached : Option String) :
    parse (before.tokens ++ token option attached :: arguments) = .error .unknownArgument := by
  rw [parse_tokens admitted distinct, readFrom_token, meet_token, if_neg unknown]
  rfl

/-- An option that the command does not have is unknown behind its name. -/
theorem parse_unknown_behind (named : Level.ofCommand? name = some level)
    (admittedBefore : before.Admitted .root) (distinctBefore : before.Distinct)
    (admittedBehind : behind.Admitted level) (distinctBehind : behind.Distinct)
    (unknown : option ∉ OptionName.allowed level) (attached : Option String) :
    parse (line before name behind ++ token option attached :: arguments) =
      .error .unknownArgument := by
  rw [line, List.append_assoc, List.cons_append, parse_tokens admittedBefore distinctBefore,
    readFrom_name named, readCommand_tokens admittedBehind, if_pos distinctBehind, Reading.run,
    meet_token, if_neg unknown]
  rfl

/-- A position in a line is among the settings before the name or among those behind it. -/
theorem split_line {left right : List String} (split : line before name behind = left ++ right) :
    (∃ front back, before = front ++ back ∧ left = front.tokens) ∨
      ∃ front back, behind = front ++ back ∧ left = line before name front := by
  rcases List.append_eq_append_iff.mp split with ⟨middle, rfl, rest⟩ | ⟨middle, earlier, -⟩
  · cases middle with
    | nil => exact .inl ⟨before, [], by simp, by simp⟩
    | cons first middle =>
        obtain ⟨rfl, later⟩ := List.cons.inj rest
        obtain ⟨front, back, whole, rfl, -⟩ := List.map_eq_append_iff.mp later
        exact .inr ⟨front, back, whole, rfl⟩
  · obtain ⟨front, back, whole, rfl, -⟩ := List.map_eq_append_iff.mp earlier
    exact .inl ⟨front, back, whole, rfl⟩

end CommandLine

theorem Command.not_allowed_of_foreign {command : Command} {option : OptionName}
    (foreign : option ∈ command.foreign) :
    option ∉ OptionName.allowed .root ∧ option ∉ OptionName.allowed command.level := by
  cases command with
  | produce =>
      have own : ∀ option ∈ [OptionName.output, .bytes],
          option ∉ OptionName.allowed .root ∧ option ∉ OptionName.allowed .produce := by decide
      exact own option foreign
  | consume =>
      have own : ∀ option ∈ [OptionName.input],
          option ∉ OptionName.allowed .root ∧ option ∉ OptionName.allowed .consume := by decide
      exact own option foreign
  | validate => cases foreign
  | remove => cases foreign

namespace CommandLine

variable {before behind : Settings} {invocation : Invocation}

/-- Writing an invocation and reading the line gives it back, in whatever order its settings
stand and on whichever side of the name the global ones do.  Behind the name, no option that
stands there may be given again, while a global one that stands before the name may, and then
counts as it stands behind.  Anywhere on the line, an option of the other command is unknown. -/
theorem parse_line_verdict (expressible : invocation.Expressible)
    (spells : invocation.Spells before behind) :
    parse (line before invocation.command.name behind) = .ok invocation ∧
      (∀ front back option value again, behind = front ++ back → (option, value) ∈ behind →
        OptionValue.Fits option again →
          parse (line before invocation.command.name (front ++ (option, again) :: back)) =
            .error .argumentConflict) ∧
      (∀ front back option value again, behind = front ++ back → (option, value) ∈ before →
        OptionValue.Fits option again →
          parse (line before invocation.command.name (front ++ (option, again) :: back)) =
            .ok (invocation.setGlobal option again)) ∧
      ∀ left right, line before invocation.command.name behind = left ++ right →
        ∀ option ∈ invocation.command.foreign, ∀ attached,
          parse (left ++ token option attached :: right) = .error .unknownArgument := by
  have named := invocation.command.ofCommand?_name
  have admittedBefore := spells.admitted_before expressible
  have admittedBehind := spells.admitted_behind expressible
  have onceBefore : before.Distinct := spells.distinct.right
  have onceBehind : behind.Distinct := spells.distinct.left
  refine ⟨parse_spelled expressible spells, ?_, ?_, ?_⟩
  · rintro front back option value again rfl given fits
    exact parse_again named admittedBefore onceBefore admittedBehind
      (List.mem_map_of_mem given) fits
  · rintro front back option value again rfl given fits
    obtain ⟨early, late, rfl⟩ := List.append_of_mem given
    have global : option = .config ∨ option = .verbose := spells.global (option, value) given
    have moved := spells.setGlobal fits
    have regiven := expressible.setGlobal global fits
    have admittedAgain := moved.admitted_behind regiven
    rw [Invocation.command_setGlobal] at admittedAgain
    rw [parse_hidden named admittedBefore onceBefore admittedAgain (by simp),
      ← Invocation.command_setGlobal invocation option again, parse_spelled regiven moved]
  · intro left right split option foreign attached
    obtain ⟨notRoot, notOwn⟩ := Command.not_allowed_of_foreign foreign
    rcases split_line split with ⟨front, back, rfl, rfl⟩ | ⟨front, back, rfl, rfl⟩
    · exact parse_unknown_before admittedBefore.left onceBefore.left notRoot attached
    · exact parse_unknown_behind named admittedBefore onceBefore admittedBehind.left
        onceBehind.left notOwn attached

/-- A producer whose path looks like an option. -/
def disguised : Invocation where
  config := some "a=b"
  verbose := true
  command := .produce ⟨some .sharedMemory, some "--mode=1", none, some 0o640, true⟩ none
    Command.defaultChunk

def disguisedBefore : Settings := [(.verbose, .present), (.config, .text "a=b")]

def disguisedBehind : Settings :=
  [(.path, .text "--mode=1"), (.nonblock, .present), (.mode, .number 0o640),
    (.kind, .backend .sharedMemory)]

theorem parse_line_verdict_of_disguised :
    disguised.Expressible ∧ disguised.Spells disguisedBefore disguisedBehind ∧
      parse ["--verbose", "--config=a=b", "produce", "--path=--mode=1", "--nonblock",
        "--mode=640", "--kind=shm"] = .ok disguised ∧
      parse ["--verbose", "--config=a=b", "produce", "--path=--mode=1", "--nonblock",
        "--mode=17", "--mode=640", "--kind=shm"] = .error .argumentConflict ∧
      parse ["--verbose", "--config=a=b", "produce", "--path=--mode=1", "--nonblock",
        "--config=c", "--mode=640", "--kind=shm"] = .ok { disguised with config := some "c" } ∧
      parse ["--verbose", "--config=a=b", "produce", "--path=--mode=1", "--nonblock",
        "--mode=640", "--kind=shm", "--output"] = .error .unknownArgument := by
  have expressible : disguised.Expressible := by
    refine ⟨.inl rfl, ?_⟩
    intro option value found
    cases option
    case config | path => cases found; exact .text (by decide) (by decide)
    case verbose => cases found; exact .verbose
    case kind => cases found; exact .kind _
    case mode => cases found; exact .mode (by decide)
    case nonblock => cases found; exact .nonblock
    case chunk => cases found; exact .number (by decide) (by decide)
    all_goals cases found
  have spells : disguised.Spells disguisedBefore disguisedBehind :=
    ⟨⟨[(.chunk, .number Command.defaultChunk)], .inr rfl, by decide⟩, by simp [disguisedBefore]⟩
  obtain ⟨whole, again, global, unknown⟩ := parse_line_verdict expressible spells
  refine ⟨expressible, spells, whole, ?_, ?_, ?_⟩
  · exact again [(.path, .text "--mode=1"), (.nonblock, .present)]
      [(.mode, .number 0o640), (.kind, .backend .sharedMemory)] .mode (.number 0o640)
      (.number 0o17) rfl (by decide) (.mode (by decide))
  · exact global [(.path, .text "--mode=1"), (.nonblock, .present)]
      [(.mode, .number 0o640), (.kind, .backend .sharedMemory)] .config (.text "a=b")
      (.text "c") rfl (by decide) (.text (by decide) (by decide))
  · exact unknown _ [] (List.append_nil _).symm .output (by decide) none

/-- A producer that is verbose and leaves everything else open. -/
def loud : Invocation where
  config := none
  verbose := true
  command := .produce ⟨none, none, none, none, false⟩ none Command.defaultChunk

/-- Not every option that is given a second time behind the name is refused. -/
theorem again_not_always_refused :
    ¬ ∀ (invocation : Invocation) (before behind : Settings), invocation.Expressible →
      invocation.Spells before behind →
        ∀ front back option value again, behind = front ++ back →
          (option, value) ∈ behind ++ before → OptionValue.Fits option again →
            parse (line before invocation.command.name (front ++ (option, again) :: back)) =
              .error .argumentConflict := by
  intro refused
  have expressible : loud.Expressible := by
    refine ⟨.inl rfl, ?_⟩
    intro option value found
    cases option
    case verbose => cases found; exact .verbose
    case chunk => cases found; exact .number (by decide) (by decide)
    all_goals cases found
  have spells : loud.Spells [(.verbose, .present)] [] :=
    ⟨⟨[(.chunk, .number Command.defaultChunk)], .inr rfl, by decide⟩, by simp⟩
  have conflict : parse ["--verbose", "produce", "--verbose"] = .error .argumentConflict :=
    refused loud _ _ expressible spells [] [] .verbose .present .present rfl (by simp) .verbose
  have accepted : parse ["--verbose", "produce", "--verbose"] = .ok loud := by decide +kernel
  rw [accepted] at conflict
  cases conflict

end CommandLine

end BoundedStream
