import BoundedStream.Numeral
import Mathlib.Data.List.TakeWhile
import Mathlib.Order.Basic

/-!
# What numerals denote

For a radix of at most ten, a text denotes a number if it is that number's digits, perhaps
after leading zeros and a plus sign.  The reader of bounded numerals finds the number of every
text that denotes one within its bound.  Otherwise the text is empty, or its leading run of
digits already leaves the range, or it is no numeral at all.
-/

namespace BoundedStream

namespace Numeral

/-- The digits of a radix of at most ten. -/
def isDigit (radix : Nat) (character : Char) : Bool :=
  48 ≤ character.toNat && character.toNat < 48 + radix

/-- The characters behind an optional plus sign. -/
def unsigned : List Char → List Char
  | '+' :: characters => characters
  | characters => characters

/-- The number of the leading run of digits, behind an optional plus sign. -/
def leadingNumber (radix : Nat) (characters : List Char) : Nat :=
  Nat.ofDigitChars radix ((unsigned characters).takeWhile (isDigit radix)) 0

/-- One or more digits, perhaps behind a plus sign, are a numeral of their number. -/
def Denotes (radix : Nat) (characters : List Char) (number : Nat) : Prop :=
  ∃ digits, (characters = digits ∨ characters = '+' :: digits) ∧ digits ≠ [] ∧
    (∀ digit ∈ digits, isDigit radix digit = true) ∧ Nat.ofDigitChars radix digits 0 = number

/-- When a text is no numeral below a bound, for each of the reasons. -/
def Fault.Of (radix bound : Nat) (characters : List Char) : Fault → Prop
  | empty => characters = []
  | tooLarge => bound ≤ leadingNumber radix characters
  | invalidDigit => characters ≠ [] ∧ leadingNumber radix characters < bound ∧
      ∀ number, ¬ Denotes radix characters number

variable {radix bound value number : Nat} {character : Char} {characters digits : List Char}

@[simp]
theorem isDigit_eq_true_iff :
    isDigit radix character = true ↔
      48 ≤ character.toNat ∧ character.toNat < 48 + radix := by
  simp [isDigit]

theorem digitValue?_eq (small : radix ≤ 10) :
    digitValue? radix character =
      if isDigit radix character then some (character.toNat - 48) else none := by
  by_cases digit : isDigit radix character
  · have bounds := isDigit_eq_true_iff.mp digit
    rw [if_pos digit, digitValue?, if_pos (by omega), Option.filter_some, if_pos]
    simp only [decide_eq_true_eq]
    omega
  · have outside := isDigit_eq_true_iff.not.mp digit
    rw [if_neg digit, digitValue?, Option.filter_eq_none_iff]
    intro value found
    simp only [decide_eq_true_eq]
    -- Letters count from ten, so that none of them is a digit.
    split at found
    · cases found
      omega
    · split at found
      · cases found
        omega
      · split at found
        · cases found
          omega
        · cases found

/-! ## Runs of digits -/

/-- No digit makes a number smaller. -/
theorem le_ofDigitChars (positive : 0 < radix) :
    value ≤ Nat.ofDigitChars radix digits value := by
  induction digits generalizing value with
  | nil => simp
  | cons digit digits ih =>
      rw [Nat.ofDigitChars_cons]
      have grows : value ≤ radix * value := Nat.le_mul_of_pos_left value positive
      exact (Nat.le_trans grows (Nat.le_add_right _ _)).trans ih

/-- The first character that is not a digit, or the first digit that leaves the range, ends the
reading. -/
theorem readDigits_eq (positive : 0 < radix) (small : radix ≤ 10) (within : value < bound) :
    readDigits radix bound characters value =
      if bound ≤ Nat.ofDigitChars radix (characters.takeWhile (isDigit radix)) value then
        .error .tooLarge
      else if characters.all (isDigit radix) then
        .ok (Nat.ofDigitChars radix characters value)
      else .error .invalidDigit := by
  induction characters generalizing value with
  | nil => simp [readDigits, within]
  | cons character characters ih =>
      rw [readDigits, digitValue?_eq small]
      by_cases digit : isDigit radix character
      · simp only [digit, if_true, List.takeWhile_cons_of_pos, List.all_cons, Bool.true_and,
          Nat.ofDigitChars_cons, Nat.mul_comm value radix]
        split
        · rename_i next
          exact ih next
        · rename_i left
          exact (if_pos ((Nat.le_of_not_lt left).trans (le_ofDigitChars positive))).symm
      · simp [digit, within]

/-! ## Numerals -/

theorem unsigned_of_digits (isDigits : ∀ digit ∈ digits, isDigit radix digit = true) :
    unsigned digits = digits := by
  unfold unsigned
  split
  · rename_i rest
    have plus := isDigit_eq_true_iff.mp (isDigits '+' List.mem_cons_self)
    simp at plus
  · rfl

theorem denotes_iff :
    Denotes radix characters number ↔
      unsigned characters ≠ [] ∧ (∀ digit ∈ unsigned characters, isDigit radix digit = true) ∧
        Nat.ofDigitChars radix (unsigned characters) 0 = number := by
  constructor
  · rintro ⟨digits, rfl | rfl, nonempty, isDigits, denoted⟩
    · rw [unsigned_of_digits isDigits]
      exact ⟨nonempty, isDigits, denoted⟩
    · exact ⟨nonempty, isDigits, denoted⟩
  · rintro ⟨nonempty, isDigits, denoted⟩
    refine ⟨unsigned characters, ?_, nonempty, isDigits, denoted⟩
    unfold unsigned
    split
    · exact .inr rfl
    · exact .inl rfl

theorem Denotes.ne_nil (denotes : Denotes radix characters number) : characters ≠ [] := by
  obtain ⟨digits, rfl | rfl, nonempty, -⟩ := denotes
  · exact nonempty
  · exact List.cons_ne_nil _ _

theorem Denotes.leadingNumber_eq (denotes : Denotes radix characters number) :
    leadingNumber radix characters = number := by
  obtain ⟨-, isDigits, denoted⟩ := denotes_iff.mp denotes
  rw [leadingNumber, List.takeWhile_eq_self_iff.mpr isDigits, denoted]

/-- The whole reader in one equation. -/
theorem parse_eq (positive : 0 < radix) (small : radix ≤ 10) (within : 0 < bound) :
    parse radix bound characters =
      if characters = [] then .error .empty
      else if bound ≤ leadingNumber radix characters then .error .tooLarge
      else if unsigned characters ≠ [] ∧ (unsigned characters).all (isDigit radix) then
        .ok (Nat.ofDigitChars radix (unsigned characters) 0)
      else .error .invalidDigit := by
  unfold parse
  split
  · rfl
  · simp [leadingNumber, unsigned, Nat.ne_of_gt within]
  · rename_i digits more
    have nonempty : digits ≠ [] := more
    simp [leadingNumber, unsigned, nonempty, readDigits_eq positive small within]
  · rename_i nonempty _ signless
    have same : unsigned characters = characters := by
      unfold unsigned
      split
      · exact absurd rfl (signless _)
      · rfl
    have nonempty : characters ≠ [] := nonempty
    simp [leadingNumber, same, nonempty, readDigits_eq positive small within]

theorem parse_of_denotes (positive : 0 < radix) (small : radix ≤ 10)
    (denotes : Denotes radix characters number) (below : number < bound) :
    parse radix bound characters = .ok number := by
  obtain ⟨nonempty, isDigits, denoted⟩ := denotes_iff.mp denotes
  rw [parse_eq positive small (Nat.zero_lt_of_lt below), if_neg denotes.ne_nil,
    if_neg (denotes.leadingNumber_eq ▸ Nat.not_le.mpr below),
    if_pos ⟨nonempty, List.all_eq_true.mpr isDigits⟩, denoted]

theorem parse_of_fault (positive : 0 < radix) (small : radix ≤ 10) (within : 0 < bound)
    {fault : Fault} (fails : fault.Of radix bound characters) :
    parse radix bound characters = .error fault := by
  cases fault with
  | empty =>
      obtain rfl : characters = [] := fails
      rfl
  | tooLarge =>
      have exceeds : bound ≤ leadingNumber radix characters := fails
      have nonempty : characters ≠ [] := by
        rintro rfl
        exact absurd exceeds (Nat.not_le.mpr within)
      rw [parse_eq positive small within, if_neg nonempty, if_pos exceeds]
  | invalidDigit =>
      obtain ⟨nonempty, below, undenoted⟩ := fails
      rw [parse_eq positive small within, if_neg nonempty, if_neg (Nat.not_le.mpr below), if_neg]
      rintro ⟨some, isDigits⟩
      exact undenoted _ (denotes_iff.mpr ⟨some, List.all_eq_true.mp isDigits, rfl⟩)

/-- A text denotes a number within the bound or has a fault. -/
theorem denotes_or_fault (radix bound : Nat) (characters : List Char) :
    (∃ number, Denotes radix characters number ∧ number < bound) ∨
      ∃ fault : Fault, fault.Of radix bound characters := by
  by_cases nonempty : characters = []
  · exact .inr ⟨.empty, nonempty⟩
  · by_cases below : leadingNumber radix characters < bound
    · by_cases denoted : ∃ number, Denotes radix characters number
      · obtain ⟨number, denotes⟩ := denoted
        exact .inl ⟨number, denotes, denotes.leadingNumber_eq ▸ below⟩
      · exact .inr ⟨.invalidDigit, nonempty, below, not_exists.mp denoted⟩
    · exact .inr ⟨.tooLarge, Nat.le_of_not_lt below⟩

theorem parse_eq_ok_iff (positive : 0 < radix) (small : radix ≤ 10) (within : 0 < bound) :
    parse radix bound characters = .ok number ↔
      Denotes radix characters number ∧ number < bound := by
  constructor
  · intro read
    rcases denotes_or_fault radix bound characters with ⟨number', denotes, below⟩ | ⟨fault, fails⟩
    · rw [parse_of_denotes positive small denotes below] at read
      cases read
      exact ⟨denotes, below⟩
    · rw [parse_of_fault positive small within fails] at read
      cases read
  · rintro ⟨denotes, below⟩
    exact parse_of_denotes positive small denotes below

/-! ## Written numbers -/

theorem isDigit_of_mem_toDigits (proper : 1 < radix) (small : radix ≤ 10)
    (member : character ∈ Nat.toDigits radix number) : isDigit radix character = true := by
  induction number using Nat.strongRecOn with
  | ind number ih =>
      rw [Nat.toDigits_eq_if proper] at member
      have last : ∀ digit < radix, isDigit radix digit.digitChar = true := by
        intro digit below
        rw [isDigit_eq_true_iff, Nat.toNat_digitChar_of_lt_ten (by omega)]
        omega
      split at member
      · rename_i single
        obtain rfl := List.mem_singleton.mp member
        exact last number single
      · rcases List.mem_append.mp member with front | back
        · exact ih (number / radix) (Nat.div_lt_self (by omega) proper) front
        · obtain rfl := List.mem_singleton.mp back
          exact last (number % radix) (Nat.mod_lt _ (by omega))

/-- The digits of a number denote it. -/
theorem denotes_toDigits (proper : 1 < radix) (small : radix ≤ 10) (number : Nat) :
    Denotes radix (Nat.toDigits radix number) number :=
  ⟨Nat.toDigits radix number, .inl rfl, Nat.toDigits_ne_nil,
    fun _ member => isDigit_of_mem_toDigits proper small member,
    Nat.ofDigitChars_toDigits proper small⟩

end Numeral

end BoundedStream
