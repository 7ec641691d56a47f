import BoundedStream.Yaml.Cursor

/-!
# Line folding

Blanks and line breaks inside a flow scalar.  Blanks within a line stay as they are;
around a line break they vanish, a single break becomes a space, and of several breaks
the first one vanishes.
-/

namespace BoundedStream

namespace Yaml

/-- The blanks and line breaks collected since the last other character. -/
structure Fold where
  /-- Blanks, reversed, as long as no line break was met. -/
  blanks : List Char
  /-- Whether a line break was met. -/
  crossed : Bool
  /-- What the first line break stands for. -/
  first : List Char
  /-- What the further line breaks stand for. -/
  others : List Char
deriving Repr, Inhabited

namespace Fold

def empty : Fold := ⟨[], false, [], []⟩

/-- A line break that was escaped and stands for nothing. -/
def escaped : Fold := ⟨[], true, [], []⟩

/-- What the collected blanks and breaks stand for. -/
def text (fold : Fold) : List Char :=
  if fold.crossed then
    if fold.first.head? = some '\n' then
      if fold.others.isEmpty then [' '] else fold.others
    else fold.first ++ fold.others
  else fold.blanks.reverse

/-- Collect blanks and breaks.  A tab that stands before column `floor` of a new line
is refused. -/
def collect (floor : Int) : Nat → Cursor → Fold → Option (Cursor × Fold)
  | 0, cursor, fold => some (cursor, fold)
  | fuel + 1, cursor, fold =>
    match cursor.peek with
    | none => some (cursor, fold)
    | some character =>
      if isSpacing character then
        if fold.crossed && decide ((cursor.column : Int) < floor) && character == '\t' then
          none
        else if fold.crossed then collect floor fuel (cursor.advance 1) fold
        else
          collect floor fuel (cursor.advance 1)
            { fold with blanks := character :: fold.blanks }
      else if isBreak character then
        let (broken, next) := cursor.readBreak
        if fold.crossed then
          collect floor fuel next { fold with others := fold.others ++ broken }
        else collect floor fuel next ⟨[], true, broken, []⟩
      else some (cursor, fold)

end Fold

end Yaml

end BoundedStream
