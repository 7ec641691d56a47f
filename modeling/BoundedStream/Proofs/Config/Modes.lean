import BoundedStream.Config.Mode
import BoundedStream.Proofs.Text.Numerals

/-!
# Permission bits in octal

Permission bits are read from an octal numeral that stands between blanks, perhaps behind one
`0o`.  Every other text is refused: one that holds nothing, one whose leading digits leave the
range of 32 bits, a numeral of more than the permission bits, and all that is no numeral.
-/

namespace BoundedStream

namespace Text

/-- What stays of a text without the blanks at both of its ends. -/
structure Trims (text core : List Char) : Prop where
  between : ∃ front back, text = front ++ core ++ back ∧
    (∀ character ∈ front, isBlank character = true) ∧
    ∀ character ∈ back, isBlank character = true
  head : ∀ character, core.head? = some character → isBlank character = false
  last : ∀ character, core.getLast? = some character → isBlank character = false

variable {text core front : List Char} {character : Char}

/-- Blanks in front go until the first character that is none. -/
theorem dropWhile_blank_append (blank : ∀ character ∈ front, isBlank character = true)
    (head : ∀ character, core.head? = some character → isBlank character = false) :
    (front ++ core).dropWhile isBlank = core := by
  rw [List.dropWhile_append_of_pos blank]
  cases core with
  | nil => rfl
  | cons first rest => exact List.dropWhile_cons_of_neg (by simp [head first rfl])

theorem isBlank_of_head?_dropWhile (found : (text.dropWhile isBlank).head? = some character) :
    isBlank character = false := by
  have stopped := List.head?_dropWhile_not isBlank text
  rw [found] at stopped
  exact stopped

theorem Trims.trimBlanks_eq (trims : Trims text core) : trimBlanks text = core := by
  obtain ⟨⟨front, back, rfl, frontBlank, backBlank⟩, head, last⟩ := trims
  rw [trimBlanks, List.append_assoc]
  cases core with
  | nil =>
      have blank : ∀ character ∈ front ++ ([] ++ back), isBlank character = true := by
        intro character member
        rcases List.mem_append.mp member with inFront | inBack
        · exact frontBlank character inFront
        · exact backBlank character inBack
      rw [List.dropWhile_eq_nil_iff.mpr blank]
      rfl
  | cons first rest =>
      have forward : (front ++ (first :: rest ++ back)).dropWhile isBlank = first :: rest ++ back :=
        dropWhile_blank_append frontBlank head
      rw [forward, List.reverse_append, dropWhile_blank_append, List.reverse_reverse]
      · intro character member
        exact backBlank character (List.mem_reverse.mp member)
      · intro character found
        rw [List.head?_reverse] at found
        exact last character found

theorem trims_trimBlanks (text : List Char) : Trims text (trimBlanks text) := by
  have splitFront : text.takeWhile isBlank ++ text.dropWhile isBlank = text :=
    List.takeWhile_append_dropWhile
  have splitBack : trimBlanks text ++
      ((text.dropWhile isBlank).reverse.takeWhile isBlank).reverse = text.dropWhile isBlank := by
    rw [trimBlanks, ← List.reverse_append, List.takeWhile_append_dropWhile, List.reverse_reverse]
  refine ⟨⟨text.takeWhile isBlank,
    ((text.dropWhile isBlank).reverse.takeWhile isBlank).reverse, ?_, ?_, ?_⟩, ?_, ?_⟩
  · rw [List.append_assoc, splitBack, splitFront]
  · intro character member
    exact List.mem_takeWhile_imp member
  · intro character member
    exact List.mem_takeWhile_imp (List.mem_reverse.mp member)
  · intro character found
    have first : (text.dropWhile isBlank).head? = some character := by
      rw [← splitBack, List.head?_append, found]
      rfl
    exact isBlank_of_head?_dropWhile first
  · intro character found
    rw [trimBlanks, List.getLast?_reverse] at found
    exact isBlank_of_head?_dropWhile found

end Text

namespace Config

/-- A mode as it was given leaves this without its surrounding blanks and without one `0o`. -/
def Leaves (value : String) (rest : List Char) : Prop :=
  ∃ core, Text.Trims value.toList core ∧
    (core = '0' :: 'o' :: rest ∨ core = rest ∧ ¬ ['0', 'o'] <+: core)

/-- Why a mode is refused. -/
inductive ModeFault where
  | nothing
  | tooLarge
  | beyondPermissions
  | noNumeral
deriving DecidableEq

namespace ModeFault

/-- When a mode is refused for a reason, given what its blanks and its `0o` leave. -/
def Of (rest : List Char) : ModeFault → Prop
  | nothing => rest = []
  | tooLarge => 1 <<< 32 ≤ Numeral.leadingNumber 8 rest
  | beyondPermissions => ∃ number, Numeral.Denotes 8 rest number ∧ 0o777 < number ∧
      number < 1 <<< 32
  | noNumeral => rest ≠ [] ∧ Numeral.leadingNumber 8 rest < 1 <<< 32 ∧
      ∀ number, ¬ Numeral.Denotes 8 rest number

def reason : ModeFault → String
  | nothing => "not an octal number: cannot parse integer from empty string"
  | tooLarge => "not an octal number: number too large to fit in target type"
  | beyondPermissions => "only permission bits (0o777) are allowed"
  | noNumeral => "not an octal number: invalid digit found in string"

/-- The refusal for a reason, which shows the mode as it was given. -/
def error (fault : ModeFault) (value : String) : ValidationError :=
  .invalidField "mode" value fault.reason

end ModeFault

variable {value : String} {rest : List Char} {mode number : Nat} {fault : ModeFault}

theorem leaves_modeDigits (value : String) : Leaves value (modeDigits value) := by
  refine ⟨Text.trimBlanks value.toList, Text.trims_trimBlanks _, ?_⟩
  unfold modeDigits
  split
  · rename_i marked
    exact .inl marked
  · rename_i unmarked
    refine .inr ⟨rfl, ?_⟩
    rintro ⟨digits, marked⟩
    exact unmarked digits marked.symm

theorem Leaves.eq_modeDigits (leaves : Leaves value rest) : rest = modeDigits value := by
  obtain ⟨core, trims, marked | ⟨rfl, unmarked⟩⟩ := leaves
  · rw [modeDigits, trims.trimBlanks_eq, marked]
    rfl
  · rw [modeDigits, trims.trimBlanks_eq]
    split
    · exact absurd ⟨_, rfl⟩ unmarked
    · rfl

theorem leaves_iff : Leaves value rest ↔ rest = modeDigits value := by
  constructor
  · exact Leaves.eq_modeDigits
  · rintro rfl
    exact leaves_modeDigits value

theorem parse_eq_ok_iff :
    Numeral.parse 8 (1 <<< 32) rest = .ok number ↔
      Numeral.Denotes 8 rest number ∧ number < 1 <<< 32 :=
  Numeral.parse_eq_ok_iff (by decide) (by decide) (by decide)

theorem parse_of_fault {fault : Numeral.Fault} (fails : fault.Of 8 (1 <<< 32) rest) :
    Numeral.parse 8 (1 <<< 32) rest = .error fault :=
  Numeral.parse_of_fault (by decide) (by decide) (by decide) fails

theorem parseMode_of_denotes (denotes : Numeral.Denotes 8 (modeDigits value) mode)
    (permitted : mode ≤ 0o777) : parseMode value = .ok mode := by
  have below : mode < 1 <<< 32 := Nat.lt_of_le_of_lt permitted (by decide)
  rw [parseMode, parse_eq_ok_iff.mpr ⟨denotes, below⟩]
  exact if_pos permitted

theorem parseMode_of_fault (fails : fault.Of (modeDigits value)) :
    parseMode value = .error (fault.error value) := by
  have unread : ∀ fault : Numeral.Fault, fault.Of 8 (1 <<< 32) (modeDigits value) →
      parseMode value = .error (invalidMode value ("not an octal number: " ++ fault.text)) := by
    intro fault fails
    rw [parseMode, parse_of_fault fails]
  cases fault with
  | nothing => exact unread .empty fails
  | tooLarge => exact unread .tooLarge fails
  | noNumeral => exact unread .invalidDigit fails
  | beyondPermissions =>
      obtain ⟨number, denotes, beyond, below⟩ := fails
      rw [parseMode, parse_eq_ok_iff.mpr ⟨denotes, below⟩]
      exact if_neg (Nat.not_le.mpr beyond)

/-- What the blanks and the `0o` leave is a mode or has one of the faults. -/
theorem denotes_or_modeFault (rest : List Char) :
    (∃ mode, Numeral.Denotes 8 rest mode ∧ mode ≤ 0o777) ∨
      ∃ fault : ModeFault, fault.Of rest := by
  rcases Numeral.denotes_or_fault 8 (1 <<< 32) rest with ⟨number, denotes, below⟩ | ⟨fault, fails⟩
  · by_cases permitted : number ≤ 0o777
    · exact .inl ⟨number, denotes, permitted⟩
    · exact .inr ⟨.beyondPermissions, number, denotes, Nat.lt_of_not_le permitted, below⟩
  · cases fault with
    | empty => exact .inr ⟨.nothing, fails⟩
    | tooLarge => exact .inr ⟨.tooLarge, fails⟩
    | invalidDigit => exact .inr ⟨.noNumeral, fails⟩

theorem ModeFault.error_injective {fault other : ModeFault}
    (same : fault.error value = other.error value) : fault = other := by
  have reasons : fault.reason = other.reason := by
    injection same
  revert reasons
  cases fault <;> cases other <;> decide

theorem parseMode_eq_ok_iff :
    parseMode value = .ok mode ↔ Numeral.Denotes 8 (modeDigits value) mode ∧ mode ≤ 0o777 := by
  constructor
  · intro read
    rcases denotes_or_modeFault (modeDigits value) with ⟨mode', denotes, permitted⟩ | ⟨fault, fails⟩
    · rw [parseMode_of_denotes denotes permitted] at read
      cases read
      exact ⟨denotes, permitted⟩
    · rw [parseMode_of_fault fails] at read
      cases read
  · rintro ⟨denotes, permitted⟩
    exact parseMode_of_denotes denotes permitted

theorem exists_fault_of_parseMode {error : ValidationError}
    (refused : parseMode value = .error error) :
    ∃ fault : ModeFault, fault.Of (modeDigits value) ∧ error = fault.error value := by
  rcases denotes_or_modeFault (modeDigits value) with ⟨mode, denotes, permitted⟩ | ⟨fault, fails⟩
  · rw [parseMode_of_denotes denotes permitted] at refused
    cases refused
  · rw [parseMode_of_fault fails] at refused
    cases refused
    exact ⟨fault, fails, rfl⟩

theorem parseMode_eq_error_iff :
    parseMode value = .error (fault.error value) ↔ fault.Of (modeDigits value) := by
  constructor
  · intro refused
    obtain ⟨found, fails, same⟩ := exists_fault_of_parseMode refused
    rwa [ModeFault.error_injective same]
  · exact parseMode_of_fault

/-- Something is left of every text in one way.  If that is an octal numeral of permission bits,
these are the mode.  Otherwise the mode is refused, as it was given, and the reason tells which
fault what is left has. -/
theorem parseMode_verdict (value : String) :
    ∃ rest, (∀ other, Leaves value other ↔ other = rest) ∧
      (∀ mode, parseMode value = .ok mode ↔ Numeral.Denotes 8 rest mode ∧ mode ≤ 0o777) ∧
      (∀ error, parseMode value = .error error → ∃ fault : ModeFault, error = fault.error value) ∧
      ∀ fault : ModeFault, parseMode value = .error (fault.error value) ↔ fault.Of rest := by
  refine ⟨modeDigits value, fun other => leaves_iff, fun mode => parseMode_eq_ok_iff, ?_,
    fun fault => parseMode_eq_error_iff⟩
  intro error refused
  obtain ⟨fault, -, same⟩ := exists_fault_of_parseMode refused
  exact ⟨fault, same⟩

/-- The digits leave the range before the character that is none is met. -/
example :
    parseMode " 0o+00777777777777x" =
      .error (ModeFault.tooLarge.error " 0o+00777777777777x") := by
  decide +kernel

end Config

end BoundedStream
