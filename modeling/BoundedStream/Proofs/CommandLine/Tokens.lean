import BoundedStream.CommandLine.Parse
import BoundedStream.Proofs.Config.Modes

/-!
# Options as single arguments

An option and its value are written as one argument, the value behind an equals sign.  Reading
finds the value again, whatever characters are in it.  Met at a level where it may stand, such
an argument adds its option or is a conflict with the same option before it; at every other
level it is unknown.
-/

namespace BoundedStream

namespace OptionName

variable {option : OptionName}

theorem ofLong?_eq (level : Level) (option : OptionName) :
    ofLong? level option.long = if option ∈ allowed level then some option else none := by
  cases level <;> cases option <;> rfl

theorem long_ne_nil (option : OptionName) : option.long.toList ≠ [] := by
  cases option <;> decide

/-- The name of an option goes up to an equals sign. -/
theorem ne_equals_of_mem_long {character : Char} (member : character ∈ option.long.toList) :
    decide (character ≠ '=') = true := by
  have apart : '=' ∉ option.long.toList := by
    cases option <;> decide
  rw [decide_eq_true_eq]
  rintro rfl
  exact apart member

/-- The radix in which the number of an option is written. -/
def radix : OptionName → Nat
  | mode => 8
  | _ => 10

end OptionName

namespace OptionValue

/-- The values that an option can have. -/
inductive Fits : OptionName → OptionValue → Prop where
  | verbose : Fits .verbose .present
  | nonblock : Fits .nonblock .present
  | kind (kind : TransportKind) : Fits .kind (.backend kind)
  | mode {mode : Nat} (within : mode ≤ 0o777) : Fits .mode (.number mode)
  | text {option : OptionName} {text : String} (named : option ∈ [.config, .path, .input, .output])
      (nonempty : text ≠ "") : Fits option (.text text)
  | number {option : OptionName} {number : Nat} (counts : option ∈ [.capacity, .bytes, .chunk])
      (below : number < 1 <<< 64) : Fits option (.number number)

/-- What is written behind the equals sign, if the option takes a value at all. -/
def written (option : OptionName) : OptionValue → Option String
  | present => none
  | .text characters => some characters
  | backend .sharedMemory => some "shm"
  | backend .namedPipe => some "pipe"
  | number count => some (Numeral.print option.radix count)

variable {option : OptionName} {value : OptionValue} {number mode : Nat}

theorem readNumber_print (below : number < 1 <<< 64) :
    readNumber (Numeral.print 10 number) = .ok (.number number) := by
  have denotes : Numeral.Denotes 10 (Nat.toDigits 10 number) number :=
    Numeral.denotes_toDigits (by decide) (by decide) number
  rw [readNumber, Numeral.print, String.toList_ofList,
    Numeral.parse_of_denotes (by decide) (by decide) denotes below]

/-- Octal digits have neither blanks nor a marker around them. -/
theorem leaves_print (mode : Nat) :
    Config.Leaves (Numeral.print 8 mode) (Nat.toDigits 8 mode) := by
  have bounds : ∀ character ∈ Nat.toDigits 8 mode,
      48 ≤ character.toNat ∧ character.toNat < 56 := by
    intro character member
    exact Numeral.isDigit_eq_true_iff.mp
      (Numeral.isDigit_of_mem_toDigits (by decide) (by decide) member)
  have solid : ∀ character ∈ Nat.toDigits 8 mode, Text.isBlank character = false := by
    intro character member
    have digit := bounds character member
    simp only [Text.isBlank, Bool.or_eq_false_iff, Bool.and_eq_false_iff, decide_eq_false_iff_not,
      beq_eq_false_iff_ne, ne_eq]
    omega
  refine ⟨Nat.toDigits 8 mode, ⟨⟨[], [], ?_, nofun, nofun⟩, ?_, ?_⟩, .inr ⟨rfl, ?_⟩⟩
  · simp [Numeral.print]
  · intro character first
    exact solid character (List.mem_of_mem_head? first)
  · intro character last
    exact solid character (List.mem_of_getLast? last)
  · rintro ⟨rest, marked⟩
    have letter := bounds 'o' (marked ▸ by simp)
    simp at letter

theorem read_mode_print (within : mode ≤ 0o777) :
    read .mode (Numeral.print 8 mode) = .ok (.number mode) := by
  have denotes : Numeral.Denotes 8 (Nat.toDigits 8 mode) mode :=
    Numeral.denotes_toDigits (by decide) (by decide) mode
  rw [Config.leaves_iff.mp (leaves_print mode)] at denotes
  rw [read, Config.parseMode_of_denotes denotes within]

/-- A value of a switch is nothing but its presence; every other value is read from what is
written for it. -/
theorem Fits.switch_or_reads (fits : Fits option value) :
    (option = .verbose ∨ option = .nonblock) ∧ value = .present ∨
      option.takesValue = true ∧
        ∃ text, written option value = some text ∧ read option text = .ok value := by
  cases fits with
  | verbose => exact .inl ⟨.inl rfl, rfl⟩
  | nonblock => exact .inl ⟨.inr rfl, rfl⟩
  | kind kind => cases kind <;> exact .inr ⟨rfl, _, rfl, rfl⟩
  | mode within => exact .inr ⟨rfl, _, rfl, read_mode_print within⟩
  | text named nonempty =>
      right
      simp only [List.mem_cons, List.not_mem_nil, or_false] at named
      rcases named with rfl | rfl | rfl | rfl
      · exact ⟨rfl, _, rfl, rfl⟩
      all_goals exact ⟨rfl, _, rfl, if_neg nonempty⟩
  | number counts below =>
      right
      simp only [List.mem_cons, List.not_mem_nil, or_false] at counts
      rcases counts with rfl | rfl | rfl <;> exact ⟨rfl, _, rfl, readNumber_print below⟩

end OptionValue

namespace CommandLine

/-- An option as one argument, with what is attached to it behind an equals sign. -/
def token (option : OptionName) (attached : Option String) : String :=
  "--" ++ option.long ++ (attached.map ("=" ++ ·)).getD ""

/-- The characters behind the name of an option. -/
def attachment : Option String → List Char
  | none => []
  | some text => '=' :: text.toList

variable {level : Level} {option : OptionName} {value : OptionValue}
  {given : List (OptionName × OptionValue)}

theorem toList_token (option : OptionName) (attached : Option String) :
    (token option attached).toList =
      '-' :: '-' :: (option.long.toList ++ attachment attached) := by
  cases attached <;> simp [token, attachment]

/-- The equals sign that ends the name is the first one, so that the attached text may have
others. -/
theorem takeWhile_token (option : OptionName) (attached : Option String) :
    (option.long.toList ++ attachment attached).takeWhile (· ≠ '=') = option.long.toList := by
  rw [List.takeWhile_append_of_pos fun _ => OptionName.ne_equals_of_mem_long]
  cases attached <;> simp [attachment]

/-- A token is none of the arguments that name a command or ask for help. -/
theorem ofCommand?_token (option : OptionName) (attached : Option String) :
    Level.ofCommand? (token option attached) = none ∧ token option attached ≠ "help" := by
  have differs : ∀ name : String, name.toList.head? ≠ some '-' → token option attached ≠ name := by
    rintro _ other rfl
    rw [toList_token] at other
    exact other rfl
  refine ⟨?_, differs _ (by decide)⟩
  rw [Level.ofCommand?, if_neg (differs _ (by decide)), if_neg (differs _ (by decide)),
    if_neg (differs _ (by decide)), if_neg (differs _ (by decide))]

namespace Reading

/-- A level between two arguments, when nothing waits for a value. -/
def holding (level : Level) (given : List (OptionName × OptionValue)) : Reading :=
  ⟨level, given, none, none, false, false⟩

theorem meet_long {argument : String} {body : List Char}
    (long : argument.toList = '-' :: '-' :: body) (named : body ≠ []) :
    (holding level given).meet argument = (holding level given).meetLong body := by
  obtain ⟨letter, rest, rfl⟩ := List.exists_cons_of_ne_nil named
  simp [meet, holding, long]

/-- What a token does at a level. -/
theorem meet_token (option : OptionName) (attached : Option String) :
    (holding level given).meet (token option attached) =
      if option ∈ OptionName.allowed level then
        if option.takesValue then (holding level given).meetOption option attached
        else if attached.isSome then .error .tooManyValues
        else (holding level given).meetSwitch option
      else .error .unknownArgument := by
  have named : option.long.toList ++ attachment attached ≠ [] :=
    List.append_ne_nil_of_left_ne_nil option.long_ne_nil _
  rw [meet_long (toList_token option attached) named, meetLong, takeWhile_token, List.drop_left,
    String.ofList_toList]
  dsimp only [holding]
  rw [OptionName.ofLong?_eq]
  by_cases may : option ∈ OptionName.allowed level
  · rw [if_pos may, if_pos may]
    cases attached <;> simp [attachment]
  · rw [if_neg may, if_neg may]

/-- Every token that may stand at the level adds its option unless the option stands there
already. -/
theorem meet_written (may : option ∈ OptionName.allowed level) (fits : value.Fits option) :
    (holding level given).meet (token option (value.written option)) =
      if (holding level given).has option then .error .argumentConflict
      else .ok (holding level (given ++ [(option, value)])) := by
  rw [meet_token, if_pos may]
  rcases fits.switch_or_reads with ⟨switch, rfl⟩ | ⟨valued, text, written, read⟩
  · rcases switch with rfl | rfl <;> rfl
  · have settled : (holding level given).settle option (some text) =
        if (holding level given).has option then .error .argumentConflict
        else .ok (holding level (given ++ [(option, value)])) := by
      rw [settle, read]
      rfl
    rw [if_pos valued, written]
    exact settled

end Reading

end CommandLine

end BoundedStream
