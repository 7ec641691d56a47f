import BoundedStream.Yaml.Character

/-!
# A place in a document

The characters still to be read and the position of the first of them.  A line break
of two characters is read as one.
-/

namespace BoundedStream

namespace Yaml

/-- The rest of a document and its position. -/
structure Cursor where
  rest : List Char
  index : Nat
  line : Nat
  column : Nat
deriving Repr, Inhabited

namespace Cursor

def start (characters : List Char) : Cursor := ⟨characters, 0, 0, 0⟩

def peek (cursor : Cursor) : Option Char := cursor.rest.head?

def peekAt (cursor : Cursor) (offset : Nat) : Option Char := cursor.rest[offset]?

def sees (cursor : Cursor) (character : Char) : Bool := cursor.peek == some character

/-- Whether the next characters are the given ones. -/
def seesText (cursor : Cursor) (text : List Char) : Bool := text.isPrefixOf cursor.rest

def advance (cursor : Cursor) (count : Nat) : Cursor :=
  ⟨cursor.rest.drop count, cursor.index + count, cursor.line, cursor.column + count⟩

/-- Move over the characters of a class within one line. -/
def advanceWhile (cursor : Cursor) (accepts : Char → Bool) : Cursor :=
  cursor.advance (cursor.rest.takeWhile accepts).length

def advanceLine (cursor : Cursor) : Cursor :=
  cursor.advanceWhile fun character => !isBreak character

/-- Read a line break, if one comes next: what it stands for and what follows. -/
def readBreak (cursor : Cursor) : List Char × Cursor :=
  match cursor.rest with
  | '\r' :: '\n' :: rest => (['\n'], ⟨rest, cursor.index + 2, cursor.line + 1, 0⟩)
  | character :: rest =>
    let next : Cursor := ⟨rest, cursor.index + 1, cursor.line + 1, 0⟩
    if character = '\u2028' ∨ character = '\u2029' then ([character], next)
    else if isBreak character then (['\n'], next)
    else ([], cursor)
  | [] => ([], cursor)

def skipBreak (cursor : Cursor) : Cursor := cursor.readBreak.2

def seesMarker (cursor : Cursor) (marker : List Char) : Bool :=
  cursor.column == 0 && cursor.seesText marker && isSeparation (cursor.peekAt 3)

def seesAnyMarker (cursor : Cursor) : Bool :=
  cursor.seesMarker ['-', '-', '-'] || cursor.seesMarker ['.', '.', '.']

end Cursor

end Yaml

end BoundedStream
