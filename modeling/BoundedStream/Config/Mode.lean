import BoundedStream.Error
import BoundedStream.Numeral
import BoundedStream.Text.Blank

/-!
# Permission bits in octal

Permission bits are written as an octal numeral, after an optional `0o` and
between optional blanks.
-/

namespace BoundedStream

namespace Config

/-- The greatest value of permission bits. -/
def greatestMode : Nat := 0o777

/-- The refusal of permission bits, which shows the value as it was given. -/
def invalidMode (value reason : String) : ValidationError :=
  .invalidField "mode" value reason

/-- Why bits beyond the permission bits are refused. -/
def onlyPermissionBits : String := "only permission bits (0o777) are allowed"

/-- The characters of a mode without surrounding blanks and without one `0o`. -/
def modeDigits (value : String) : List Char :=
  match Text.trimBlanks value.toList with
  | '0' :: 'o' :: digits => digits
  | digits => digits

def parseMode (value : String) : Except ValidationError Nat :=
  match Numeral.parse 8 (1 <<< 32) (modeDigits value) with
  | .error fault => .error (invalidMode value ("not an octal number: " ++ fault.text))
  | .ok mode =>
    if mode ≤ greatestMode then .ok mode
    else .error (invalidMode value onlyPermissionBits)

end Config

end BoundedStream
