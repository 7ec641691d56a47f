import BoundedStream.Binary64
import BoundedStream.Numeral
import BoundedStream.Text.Quoted
import BoundedStream.Yaml.Node

/-!
# Values of scalars

What an untagged plain scalar stands for: nothing, a truth value, an integer, a
floating point number or a text.  Integers are decimal, hexadecimal, octal or binary; a
decimal with a leading zero is a text.
-/

namespace BoundedStream

namespace Yaml

/-- The value of a scalar. -/
inductive Value where
  | null
  | boolean (value : Bool)
  | integer (value : Int)
  | float (value : Binary64)
  | text (value : String)
deriving DecidableEq, Repr, Inhabited

namespace Value

def isNullWord (text : String) : Bool :=
  ["null", "Null", "NULL", "~"].contains text

def boolean? (text : String) : Option Bool :=
  if ["true", "True", "TRUE"].contains text then some true
  else if ["false", "False", "FALSE"].contains text then some false
  else none

def dropPlus : List Char → List Char
  | '+' :: rest => rest
  | characters => characters

def dropSign : List Char → List Char
  | '+' :: rest => rest
  | '-' :: rest => rest
  | characters => characters

/-- A sign comes first. -/
def isSigned (characters : List Char) : Bool :=
  characters.head?.any fun character => character == '+' || character == '-'

/-- Digits after a leading zero, which do not denote a number. -/
def isZeroLed (characters : List Char) : Bool :=
  match dropSign characters with
  | '0' :: rest => !rest.isEmpty && rest.all Char.isDigit
  | _ => false

/-- Read the digits of a radix without a sign. -/
def digits? (radix bound : Nat) (characters : List Char) : Option Nat :=
  if isSigned characters then none else (Numeral.parse radix bound characters).toOption

/-- Split off the letter that names the radix of an integer. -/
def radixOf? : List Char → Option (Nat × List Char)
  | '0' :: 'x' :: rest => some (16, rest)
  | '0' :: 'o' :: rest => some (8, rest)
  | '0' :: 'b' :: rest => some (2, rest)
  | _ => none

/-- Read an integer below a bound, perhaps after a plus sign. -/
def unsigned? (bound : Nat) (characters : List Char) : Option Nat :=
  let body := dropPlus characters
  match radixOf? body with
  | some (radix, rest) => digits? radix bound rest
  | none => if isZeroLed characters then none else digits? 10 bound body

/-- Read the opposite of an integer up to a bound, after a minus sign. -/
def negative? (bound : Nat) (characters : List Char) : Option Int :=
  match characters with
  | '-' :: body =>
    let magnitude? :=
      match radixOf? body with
      | some (radix, rest) => digits? radix (bound + 1) rest
      | none => if isZeroLed characters then none else digits? 10 (bound + 1) body
    magnitude?.map fun magnitude => -(magnitude : Int)
  | _ => none

def integer? (characters : List Char) : Option Int :=
  match unsigned? (1 <<< 128) characters with
  | some number => some number
  | none => negative? (1 <<< 127) characters

/-- The exponent of a decimal: an optional sign and digits, up to the end. -/
def exponent? : List Char → Option Int
  | [] => some 0
  | mark :: rest =>
    if mark ≠ 'e' ∧ mark ≠ 'E' then none
    else
      let body := dropSign rest
      if body.isEmpty || !body.all Char.isDigit then none
      else
        let value : Nat :=
          body.foldl (fun value digit => value * 10 + (digit.toNat - 48)) 0
        some (if rest.head? = some '-' then -(value : Int) else value)

/-- Read a finite decimal with an optional fraction and an optional exponent. -/
def decimal? (characters : List Char) : Option Binary64 :=
  let negative := characters.head? == some '-'
  let body := dropSign characters
  let whole := body.takeWhile Char.isDigit
  let afterWhole := body.drop whole.length
  let (fraction, rest) :=
    match afterWhole with
    | '.' :: rest =>
      let fraction := rest.takeWhile Char.isDigit
      (fraction, rest.drop fraction.length)
    | rest => ([], rest)
  if whole.isEmpty && fraction.isEmpty then none
  else do
    let exponent ← exponent? rest
    let digits : Nat :=
      (whole ++ fraction).foldl (fun value digit => value * 10 + (digit.toNat - 48)) 0
    Binary64.ofDecimal? negative digits (exponent - fraction.length)

def float? (characters : List Char) : Option Binary64 :=
  let body := dropPlus characters
  let text := String.ofList characters
  if characters.head? = some '+' ∧ isSigned body then none
  else if [".inf", ".Inf", ".INF"].contains (String.ofList body) then
    some (.infinite false)
  else if ["-.inf", "-.Inf", "-.INF"].contains text then some (.infinite true)
  else if [".nan", ".NaN", ".NAN"].contains text then some .undefined
  else decimal? body

def ofPlain (text : String) : Value :=
  let characters := text.toList
  if text.isEmpty || isNullWord text then .null
  else
    match boolean? text, integer? characters with
    | some value, _ => .boolean value
    | none, some value => .integer value
    | none, none =>
      if isZeroLed characters then .text text
      else
        match float? characters with
        | some value => .float value
        | none => .text text

def describe : Value → String
  | null => "unit value"
  | boolean value => "boolean \x60" ++ toString value ++ "\x60"
  | integer value =>
    let named := "integer \x60" ++ toString value ++ "\x60"
    if ((1 <<< 64 : Nat) : Int) ≤ value then named ++ " as u128"
    else if value < -((1 <<< 63 : Nat) : Int) then named ++ " as i128"
    else named
  | float value => "floating point \x60" ++ value.print ++ "\x60"
  | text value => "string " ++ Text.quote value

end Value

end Yaml

end BoundedStream
