/-!
# Bounded numerals

A numeral is an optional plus sign and one or more digits of a radix.  Reading
goes from left to right and stops at the first character that is not a digit or
at the first digit with which the value leaves its range, whichever comes first.
-/

namespace BoundedStream

namespace Numeral

/-- Why a text is not a numeral of a bounded range. -/
inductive Fault where
  | empty
  | invalidDigit
  | tooLarge
deriving DecidableEq, Repr, Inhabited

def Fault.text : Fault → String
  | empty => "cannot parse integer from empty string"
  | invalidDigit => "invalid digit found in string"
  | tooLarge => "number too large to fit in target type"

/-- The value of a digit, letters of either case counting from ten. -/
def digitValue? (radix : Nat) (character : Char) : Option Nat :=
  let code := character.toNat
  let value? :=
    if 48 ≤ code ∧ code ≤ 57 then some (code - 48)
    else if 97 ≤ code ∧ code ≤ 122 then some (code - 87)
    else if 65 ≤ code ∧ code ≤ 90 then some (code - 55)
    else none
  value?.filter (· < radix)

def readDigits (radix bound : Nat) : List Char → Nat → Except Fault Nat
  | [], value => .ok value
  | character :: rest, value =>
    match digitValue? radix character with
    | none => .error .invalidDigit
    | some digit =>
      if value * radix + digit < bound then
        readDigits radix bound rest (value * radix + digit)
      else
        .error .tooLarge

/-- Read a numeral that denotes a number below `bound`. -/
def parse (radix bound : Nat) : List Char → Except Fault Nat
  | [] => .error .empty
  | ['+'] => .error .invalidDigit
  | '+' :: digits => readDigits radix bound digits 0
  | digits => readDigits radix bound digits 0

/-- Write a number in a radix of at most sixteen, in lower case. -/
def print (radix number : Nat) : String :=
  String.ofList (Nat.toDigits radix number)

/-- Write a number with leading zeros up to a least width. -/
def printPadded (radix width number : Nat) : String :=
  let digits := Nat.toDigits radix number
  String.ofList (List.replicate (width - digits.length) '0' ++ digits)

end Numeral

end BoundedStream
