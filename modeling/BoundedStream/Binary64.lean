/-!
# Binary floating point numbers and their shortest decimals

A finite number is a signed mantissa below `2 ^ 53` times a power of two.  A decimal is
read as the nearest such number, ties going to the even mantissa, and a number is
written with the fewest digits from which it would be read again.
-/

namespace BoundedStream

/-- A binary floating point number of 64 bits. -/
inductive Binary64 where
  | finite (negative : Bool) (mantissa : Nat) (exponent : Int)
  | infinite (negative : Bool)
  | undefined
deriving DecidableEq, Repr, Inhabited

namespace Binary64

/-- Bits of a full mantissa. -/
def precision : Nat := 53

def leastExponent : Int := -1074

/-- A quotient rounded to the nearest natural number, ties to even. -/
def roundDiv (numerator denominator : Nat) : Nat :=
  let quotient := numerator / denominator
  let twice := 2 * (numerator % denominator)
  if twice < denominator then quotient
  else if denominator < twice then quotient + 1
  else quotient + quotient % 2

/-- A power with an integer exponent as a fraction. -/
def powFraction (base : Nat) (exponent : Int) : Nat × Nat :=
  (base.pow exponent.toNat, base.pow (-exponent).toNat)

/-- The exponent with which a positive fraction has a full mantissa, or the least one. -/
def exponentFor (numerator denominator : Nat) : Int :=
  let estimate : Int := (numerator.log2 : Int) - denominator.log2 - precision
  let (scale, unscale) := powFraction 2 estimate
  let bound := 1 <<< precision
  let exponent :=
    if numerator * unscale < bound * (denominator * scale) then estimate
    else estimate + 1
  max exponent leastExponent

/-- The number nearest to a positive fraction, unless it is too large. -/
def ofFraction? (negative : Bool) (numerator denominator : Nat) : Option Binary64 :=
  let exponent := exponentFor numerator denominator
  let (scale, unscale) := powFraction 2 exponent
  let mantissa := roundDiv (numerator * unscale) (denominator * scale)
  if 1 <<< 1024 ≤ mantissa <<< exponent.toNat then none
  else if mantissa = 1 <<< precision then
    some (.finite negative (1 <<< (precision - 1)) (exponent + 1))
  else some (.finite negative mantissa exponent)

/-- The number nearest to `digits * 10 ^ exponent`, unless it is too large. -/
def ofDecimal? (negative : Bool) (digits : Nat) (exponent : Int) : Option Binary64 :=
  let width : Int := (Nat.toDigits 10 digits).length
  if digits = 0 ∨ width + exponent < -330 then some (.finite negative 0 leastExponent)
  else if 320 < width + exponent then none
  else
    let (scale, unscale) := powFraction 10 exponent
    ofFraction? negative (digits * scale) unscale

/-- The mean of a number and its lower neighbour, and of it and its upper neighbour,
in quarters of its last place. -/
def bounds (mantissa : Nat) (exponent : Int) : Nat × Nat :=
  let low :=
    if mantissa = 1 <<< (precision - 1) ∧ leastExponent < exponent then 4 * mantissa - 1
    else 4 * mantissa - 2
  (low, 4 * mantissa + 2)

/-- Whether a decimal would be read as the number `mantissa * 2 ^ exponent`. -/
def readsBack (mantissa : Nat) (exponent : Int) (digits : Nat) (power : Int) : Bool :=
  let (low, high) := bounds mantissa exponent
  let (scale, unscale) := powFraction 2 (exponent - 2)
  let (tens, untens) := powFraction 10 power
  let decimal := digits * tens * unscale
  let lower := low * scale * untens
  let upper := high * scale * untens
  if mantissa % 2 = 0 then lower ≤ decimal && decimal ≤ upper
  else lower < decimal && decimal < upper

/-- The decimal of the given power that is nearest to the number, or else the number's
other neighbour of that power, if it would be read back. -/
def decimalAt? (mantissa : Nat) (exponent power : Int) : Option Nat :=
  let (scale, unscale) := powFraction 2 exponent
  let (tens, untens) := powFraction 10 power
  let numerator := mantissa * scale * untens
  let denominator := unscale * tens
  let nearest := roundDiv numerator denominator
  let other :=
    if nearest * denominator ≤ numerator then nearest + 1 else nearest - 1
  if readsBack mantissa exponent nearest power then some nearest
  else if readsBack mantissa exponent other power then some other
  else none

/-- The number of digits before the point, negative for zeros right behind it. -/
def integerDigits (mantissa : Nat) (exponent : Int) : Int :=
  let (scale, unscale) := powFraction 2 exponent
  let numerator := mantissa * scale
  let estimate : Int :=
    ((Nat.toDigits 10 numerator).length : Int) - (Nat.toDigits 10 unscale).length
  let (tens, untens) := powFraction 10 estimate
  if unscale * tens ≤ numerator * untens then estimate + 1 else estimate

/-- The shortest decimal that reads back: its digits and its power of ten.  The search
begins with the power of ten above the number, which may be the nearest decimal. -/
def shortest (mantissa : Nat) (exponent : Int) : Nat × Int :=
  let leading := integerDigits mantissa exponent
  ((List.range 18).findSome? fun (index : Nat) =>
    let power := leading - (index : Int)
    (decimalAt? mantissa exponent power).map fun digits => (digits, power)).getD (0, 0)

/-- A decimal without an exponent, with at least one digit on both sides of the point. -/
def positional (digits : Nat) (power : Int) : String :=
  let written := Nat.toDigits 10 digits
  if 0 ≤ power then
    String.ofList (written ++ List.replicate power.toNat '0') ++ ".0"
  else
    let places := (-power).toNat
    let padded := List.replicate (places + 1 - written.length) '0' ++ written
    let whole := padded.length - places
    String.ofList (padded.take whole) ++ "." ++ String.ofList (padded.drop whole)

def print : Binary64 → String
  | undefined => "NaN"
  | infinite negative => if negative then "-inf" else "inf"
  | finite negative mantissa exponent =>
    let sign := if negative then "-" else ""
    if mantissa = 0 then sign ++ "0.0"
    else
      let (digits, power) := shortest mantissa exponent
      sign ++ positional digits power

end Binary64

end BoundedStream
