/-!
# Text from any bytes

Bytes that are not text still have to be shown as text.  Characters are read from UTF-8
byte by byte; where the bytes can no longer become a character, what was read of it is
shown as one replacement character, and reading begins anew with the byte that did not
fit.
-/

namespace BoundedStream

namespace Text

/-- A character of which more bytes are to come. -/
structure OpenCharacter where
  /-- The bits read so far. -/
  bits : Nat
  /-- The number of bytes to come. -/
  owed : Nat
  /-- The least next byte. -/
  least : UInt8
  /-- The greatest next byte. -/
  greatest : UInt8
deriving DecidableEq, Repr, Inhabited

/-- The character that stands for bytes that are not text. -/
def replacement : Char := '\uFFFD'

/-- The character that a byte opens, if it opens one.  The ranges leave out longer forms
of shorter characters, surrogates, and what lies beyond the last character. -/
def opened? (byte : UInt8) : Option OpenCharacter :=
  if byte < 0xC2 then none
  else if byte < 0xE0 then some ⟨byte.toNat % 32, 1, 0x80, 0xBF⟩
  else if byte < 0xF0 then
    some ⟨byte.toNat % 16, 2, if byte = 0xE0 then 0xA0 else 0x80,
      if byte = 0xED then 0x9F else 0xBF⟩
  else if byte < 0xF5 then
    some ⟨byte.toNat % 8, 3, if byte = 0xF0 then 0x90 else 0x80,
      if byte = 0xF4 then 0x8F else 0xBF⟩
  else none

/-- Read a byte between two characters: what is shown at once, and the character that the
byte opens. -/
def readFirst (byte : UInt8) : List Char × Option OpenCharacter :=
  if byte < 0x80 then ([Char.ofNat byte.toNat], none)
  else
    match opened? byte with
    | some character => ([], some character)
    | none => ([replacement], none)

/-- Read a byte inside a character: what is shown at once, and the character that is open
afterwards. -/
def readNext (character : OpenCharacter) (byte : UInt8) :
    List Char × Option OpenCharacter :=
  if character.least ≤ byte ∧ byte ≤ character.greatest then
    let bits := character.bits * 64 + byte.toNat % 64
    if character.owed ≤ 1 then ([Char.ofNat bits], none)
    else ([], some ⟨bits, character.owed - 1, 0x80, 0xBF⟩)
  else
    let (shown, next) := readFirst byte
    (replacement :: shown, next)

def readAll : Option OpenCharacter → List UInt8 → List Char
  | none, [] => []
  | some _, [] => [replacement]
  | state, byte :: bytes =>
    let (shown, next) := state.elim (readFirst byte) fun character => readNext character byte
    shown ++ readAll next bytes

def ofBytes (bytes : List UInt8) : String := String.ofList (readAll none bytes)

end Text

end BoundedStream
