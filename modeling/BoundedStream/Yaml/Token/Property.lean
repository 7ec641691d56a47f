import BoundedStream.Yaml.Cursor
import BoundedStream.Yaml.Token
import BoundedStream.Yaml.Scalar

/-!
# Directives, anchors and tags

Reading the tokens that start with a percent sign, an ampersand, an asterisk or an
exclamation mark.  Every reader answers the token and the place behind it, or nothing
where the written form is not well formed.
-/

namespace BoundedStream

namespace Yaml

namespace Token

def readWord (cursor : Cursor) : List Char × Cursor :=
  let word := cursor.rest.takeWhile isWordCharacter
  (word, cursor.advance word.length)

/-- Read an anchor or an alias behind its indicator. -/
def readAnchorName (cursor : Cursor) : Option (String × Cursor) :=
  let (name, next) := readWord (cursor.advance 1)
  let ends := isSeparation next.peek ||
    next.peek.any fun character =>
      ['?', ':', ',', ']', '\x7d', '%', '@', '\x60'].contains character
  if name.isEmpty || !ends then none else some (String.ofList name, next)

/-- The number of octets that the first octet of a character announces. -/
def octetCount? (octet : Nat) : Option Nat :=
  if octet < 0x80 then some 1
  else if octet / 0x20 = 6 then some 2
  else if octet / 0x10 = 14 then some 3
  else if octet / 0x08 = 30 then some 4
  else none

/-- Read one octet written as a percent sign and two hexadecimal digits. -/
def readOctet : List Char → Option (Nat × List Char)
  | '%' :: high :: low :: rest => (hexValue? [high, low]).map fun value => (value, rest)
  | _ => none

/-- Read the octets that follow the first one of a character. -/
def readContinuation : Nat → List Char → Nat → Option (Nat × List Char)
  | 0, rest, code => some (code, rest)
  | count + 1, rest, code => do
    let (octet, rest) ← readOctet rest
    if octet / 0x40 = 2 then readContinuation count rest (code * 0x40 + octet % 0x40)
    else none

/-- Read one character written in octets: the character and the length. -/
def readOctets (characters : List Char) : Option (Char × Nat) := do
  let (octet, rest) ← readOctet characters
  let count ← octetCount? octet
  let lead := if count = 1 then octet else octet % (1 <<< (7 - count))
  let (code, _) ← readContinuation (count - 1) rest lead
  pure (Char.ofNat code, 3 * count)

def readTagCharacters (verbatim : Bool) :
    Nat → Cursor → List Char → Option (List Char × Cursor)
  | 0, cursor, reversed => some (reversed.reverse, cursor)
  | fuel + 1, cursor, reversed =>
    match cursor.peek with
    | none => some (reversed.reverse, cursor)
    | some character =>
      if !isTagCharacter verbatim character then some (reversed.reverse, cursor)
      else if character == '%' then do
        let (decoded, length) ← readOctets cursor.rest
        readTagCharacters verbatim fuel (cursor.advance length) (decoded :: reversed)
      else
        readTagCharacters verbatim fuel (cursor.advance 1) (character :: reversed)

/-- Read the body of a tag that starts with `head`, which was read before. -/
def readTagBody (verbatim : Bool) (head : List Char) (cursor : Cursor) :
    Option (List Char × Cursor) := do
  let (body, next) ← readTagCharacters verbatim cursor.rest.length cursor []
  if head.isEmpty && body.isEmpty then none else pure (head.drop 1 ++ body, next)

/-- Read a handle: an exclamation mark, word characters, perhaps a second mark. -/
def readHandle (cursor : Cursor) : Option (List Char × Cursor) :=
  if !cursor.sees '!' then none
  else
    let (word, next) := readWord (cursor.advance 1)
    if next.sees '!' then some ('!' :: word ++ ['!'], next.advance 1)
    else some ('!' :: word, next)

/-- A handle with an exclamation mark at both ends. -/
def isNamedHandle (handle : List Char) : Bool :=
  2 ≤ handle.length && handle.getLast? == some '!'

/-- Read the parts of a tag: its handle and its suffix. -/
def readTagParts (cursor : Cursor) : Option (List Char × List Char × Cursor) :=
  if cursor.peekAt 1 = some '<' then do
    let (suffix, next) ← readTagBody true [] (cursor.advance 2)
    if next.sees '>' then pure ([], suffix, next.advance 1) else none
  else do
    let (handle, next) ← readHandle cursor
    if isNamedHandle handle then
      let (suffix, next) ← readTagBody false [] next
      pure (handle, suffix, next)
    else
      let (suffix, next) ← readTagBody false handle next
      if suffix.isEmpty then pure ([], ['!'], next) else pure (['!'], suffix, next)

/-- Read a tag, which a separation follows, or a comma inside a flow collection. -/
def readTag (inFlow : Bool) (cursor : Cursor) : Option (Token × Cursor) := do
  let (handle, suffix, next) ← readTagParts cursor
  if isSeparation next.peek || (inFlow && next.sees ',') then
    pure (.tag (String.ofList handle) (String.ofList suffix), next)
  else none

/-- Read a version number of at most nine digits. -/
def readVersionNumber (cursor : Cursor) : Option (Nat × Cursor) :=
  let digits := cursor.rest.takeWhile Char.isDigit
  if digits.isEmpty || 9 < digits.length then none
  else
    let value := digits.foldl (fun value digit => value * 10 + (digit.toNat - 48)) 0
    some (value, cursor.advance digits.length)

def readVersion (cursor : Cursor) : Option (Token × Cursor) := do
  let (major, next) ← readVersionNumber (cursor.advanceWhile isSpacing)
  if next.sees '.' then
    let (minor, next) ← readVersionNumber (next.advance 1)
    pure (.versionDirective major minor, next)
  else none

def readTagDefinition (cursor : Cursor) : Option (Token × Cursor) := do
  let (handle, next) ← readHandle (cursor.advanceWhile isSpacing)
  if handle != ['!'] && !isNamedHandle handle then none
  else if !(next.peek.any isSpacing) then none
  else
    let (start, next) ← readTagBody true [] (next.advanceWhile isSpacing)
    if isSeparation next.peek then
      pure (.tagDirective (String.ofList handle) (String.ofList start), next)
    else none

/-- Read a directive, whose percent sign comes next, to the end of its line. -/
def readDirective (cursor : Cursor) : Option (Token × Cursor) := do
  let (name, next) := readWord (cursor.advance 1)
  if !isSeparation next.peek then none
  else
    let (token, next) ←
      if name = "YAML".toList then readVersion next
      else if name = "TAG".toList then readTagDefinition next
      else none
    let next ← skipLineRest next
    pure (token, next)

end Token

end Yaml

end BoundedStream
