import BoundedStream.Yaml.Folding
import BoundedStream.Yaml.Token
import BoundedStream.Numeral

/-!
# Scalars in their written forms

Reading the text of a plain, a quoted or a block scalar from its written form.  Every
reader answers the text and the place behind it, or nothing where the written form is
not well formed.
-/

namespace BoundedStream

namespace Yaml

/-! ## Plain scalars -/

/-- The characters of a plain scalar up to the next blank, line end or indicator that
ends it.  A flow collection refuses a colon right before its punctuation. -/
def plainRun (inFlow : Bool) : List Char → Option (List Char)
  | [] => some []
  | character :: rest =>
    if isSpacing character || isBreak character then some []
    else if inFlow && character == ':' &&
        rest.head?.any fun next => [',', '?', '[', ']', '\x7b', '\x7d'].contains next then
      none
    else if character == ':' && isSeparation rest.head? then some []
    else if inFlow && isFlowPunctuation character then some []
    else (plainRun inFlow rest).map (character :: ·)

/-- What was read of a plain scalar. -/
structure PlainText where
  text : List Char
  /-- Whether the scalar was followed by a line break. -/
  crossed : Bool
  next : Cursor
deriving Inhabited

/-- Read runs of a plain scalar and the folded space between them. -/
def plainRuns (inFlow : Bool) (indent : Int) :
    Nat → Cursor → List Char → Fold → Option PlainText
  | 0, cursor, text, fold => some ⟨text, fold.crossed, cursor⟩
  | fuel + 1, cursor, text, fold =>
    if cursor.seesAnyMarker || cursor.sees '#' then some ⟨text, fold.crossed, cursor⟩
    else do
      let run ← plainRun inFlow cursor.rest
      if run.isEmpty then some ⟨text, fold.crossed, cursor⟩
      else
        let text := text ++ fold.text ++ run
        let cursor := cursor.advance run.length
        let (next, fold) ← Fold.collect indent cursor.rest.length cursor Fold.empty
        if next.index = cursor.index then some ⟨text, false, cursor⟩
        else if !inFlow && decide ((next.column : Int) < indent) then
          some ⟨text, fold.crossed, next⟩
        else plainRuns inFlow indent fuel next text fold

/-- Read a plain scalar inside a block of the given indentation. -/
def readPlain (inFlow : Bool) (indent : Int) (cursor : Cursor) : Option PlainText :=
  plainRuns inFlow (indent + 1) (cursor.rest.length + 1) cursor [] Fold.empty

/-! ## Quoted scalars -/

/-- The character for which a one-letter escape stands. -/
def simpleEscape? : Char → Option Char
  | '0' => some '\x00'
  | 'a' => some '\x07'
  | 'b' => some '\x08'
  | 't' => some '\t'
  | '\t' => some '\t'
  | 'n' => some '\n'
  | 'v' => some '\x0b'
  | 'f' => some '\x0c'
  | 'r' => some '\r'
  | 'e' => some '\x1b'
  | ' ' => some ' '
  | '"' => some '"'
  | '/' => some '/'
  | '\\' => some '\\'
  | 'N' => some '\u0085'
  | '_' => some '\u00A0'
  | 'L' => some '\u2028'
  | 'P' => some '\u2029'
  | _ => none

/-- The number of hexadecimal digits after an escape letter. -/
def escapeWidth? : Char → Option Nat
  | 'x' => some 2
  | 'u' => some 4
  | 'U' => some 8
  | _ => none

def hexValue? (digits : List Char) : Option Nat :=
  digits.foldlM (fun value digit =>
    (Numeral.digitValue? 16 digit).map (value * 16 + ·)) 0

/-- The character with the given code point, if there is one. -/
def scalarValue? (code : Nat) : Option Char :=
  if code.isValidChar then some (Char.ofNat code) else none

/-- Read an escape behind its backslash: the character and the escape's length. -/
def readEscape : List Char → Option (Char × Nat)
  | [] => none
  | letter :: rest =>
    match simpleEscape? letter, escapeWidth? letter with
    | some character, _ => some (character, 1)
    | none, some width => do
      let digits := rest.take width
      if digits.length < width then none
      else
        let code ← hexValue? digits
        let character ← scalarValue? code
        pure (character, width + 1)
    | none, none => none

/-- What ended a run of characters inside quotation marks. -/
structure QuotedRun where
  text : List Char
  /-- The blanks that follow begin after an escaped line break. -/
  escapedBreak : Bool
  next : Cursor
deriving Inhabited

/-- Read characters inside quotation marks up to a blank, a line break, the end or the
closing mark.  An escaped line break ends the run too. -/
def quotedRun (mark : Char) (escapes : Bool) :
    Nat → Cursor → List Char → Option QuotedRun
  | 0, cursor, reversed => some ⟨reversed.reverse, false, cursor⟩
  | fuel + 1, cursor, reversed =>
    match cursor.rest with
    | [] => some ⟨reversed.reverse, false, cursor⟩
    | character :: rest =>
      if isSpacing character || isBreak character then
        some ⟨reversed.reverse, false, cursor⟩
      else if !escapes && character == mark && rest.head? == some mark then
        quotedRun mark escapes fuel (cursor.advance 2) (mark :: reversed)
      else if character == mark then some ⟨reversed.reverse, false, cursor⟩
      else if escapes && character == '\\' then
        if rest.head?.any isBreak then
          some ⟨reversed.reverse, true, (cursor.advance 1).skipBreak⟩
        else do
          let (escaped, length) ← readEscape rest
          quotedRun mark escapes fuel (cursor.advance (length + 1)) (escaped :: reversed)
      else quotedRun mark escapes fuel (cursor.advance 1) (character :: reversed)

/-- Read runs inside quotation marks and the folded space between them. -/
def quotedRuns (mark : Char) (escapes : Bool) :
    Nat → Cursor → List Char → Option (List Char × Cursor)
  | 0, _, _ => none
  | fuel + 1, cursor, text =>
    if cursor.seesAnyMarker || cursor.rest.isEmpty then none
    else do
      let run ← quotedRun mark escapes cursor.rest.length cursor []
      let text := text ++ run.text
      if run.next.sees mark then some (text, run.next.advance 1)
      else
        let begun := if run.escapedBreak then Fold.escaped else Fold.empty
        let (next, fold) ← Fold.collect (-1) run.next.rest.length run.next begun
        quotedRuns mark escapes fuel next (text ++ fold.text)

/-- Read a scalar in single quotation marks, the first of which comes next. -/
def readSingleQuoted (cursor : Cursor) : Option (List Char × Cursor) :=
  quotedRuns (Char.ofNat 39) false (cursor.rest.length + 1) (cursor.advance 1) []

/-- Read a scalar in double quotation marks, the first of which comes next. -/
def readDoubleQuoted (cursor : Cursor) : Option (List Char × Cursor) :=
  quotedRuns '"' true (cursor.rest.length + 1) (cursor.advance 1) []

/-! ## Block scalars -/

/-- What happens to the line breaks at the end of a block scalar. -/
inductive Chomping where
  /-- All of them are removed. -/
  | strip
  /-- The first one stays. -/
  | clip
  /-- All of them stay. -/
  | keep
deriving DecidableEq, Repr, Inhabited

/-- The header of a block scalar. -/
structure BlockHeader where
  chomping : Chomping
  /-- The indentation relative to the enclosing block, if given. -/
  increment : Option Nat
deriving Repr, Inhabited

def readChomping (cursor : Cursor) : Option (Chomping × Cursor) :=
  if cursor.sees '+' then some (.keep, cursor.advance 1)
  else if cursor.sees '-' then some (.strip, cursor.advance 1)
  else none

/-- Read an indentation indicator, which is not zero: nothing where there is none, and
nothing at all where it is zero. -/
def readIncrement (cursor : Cursor) : Option (Option Nat × Cursor) :=
  match cursor.peek with
  | none => some (none, cursor)
  | some character =>
    if character = '0' then none
    else if character.isDigit then
      some (some (character.toNat - 48), cursor.advance 1)
    else some (none, cursor)

/-- Read the indicators of a block scalar in either order. -/
def readBlockHeader (cursor : Cursor) : Option (BlockHeader × Cursor) :=
  match readChomping cursor with
  | some (chomping, cursor) => do
    let (increment, cursor) ← readIncrement cursor
    pure (⟨chomping, increment⟩, cursor)
  | none => do
    let (increment, cursor) ← readIncrement cursor
    match increment, readChomping cursor with
    | some _, some (chomping, cursor) => pure (⟨chomping, increment⟩, cursor)
    | _, _ => pure (⟨.clip, increment⟩, cursor)

/-- Skip blanks and a comment up to the end of the line, where they must end. -/
def skipLineRest (cursor : Cursor) : Option Cursor :=
  let cursor := cursor.advanceWhile isSpacing
  let cursor := if cursor.sees '#' then cursor.advanceLine else cursor
  if isLineEnd cursor.peek then some cursor.skipBreak else none

/-- Skip the spaces of an indentation, all of them where it is not yet known. -/
def skipIndentation (indent : Option Nat) (cursor : Cursor) : Cursor :=
  let spaces := (cursor.rest.takeWhile (· == ' ')).length
  match indent with
  | none => cursor.advance spaces
  | some indent => cursor.advance (min spaces (indent - cursor.column))

/-- Read the empty lines before the next line of a block scalar.  The answer holds the
greatest column that was met, the line breaks, and the place behind them. -/
def blockBreaks (indent : Option Nat) :
    Nat → Cursor → Nat → List Char → Option (Nat × List Char × Cursor)
  | 0, cursor, greatest, breaks => some (greatest, breaks, cursor)
  | fuel + 1, cursor, greatest, breaks =>
    let cursor := skipIndentation indent cursor
    let greatest := max greatest cursor.column
    let inIndentation := indent.all (cursor.column < ·)
    if inIndentation && cursor.sees '\t' then none
    else if cursor.peek.any isBreak then
      let (broken, next) := cursor.readBreak
      blockBreaks indent fuel next greatest (breaks ++ broken)
    else some (greatest, breaks, cursor)

def chomp (chomping : Chomping) (last others : List Char) : List Char :=
  match chomping with
  | .strip => []
  | .clip => last
  | .keep => last ++ others

/-- The join of two lines of a block scalar.  A folded scalar turns a single break
between two unindented lines into a space. -/
def joinLines (folded indentedBefore indentedAfter : Bool) (last others : List Char) :
    List Char :=
  if folded && last.head? == some '\n' && !indentedBefore && !indentedAfter then
    (if others.isEmpty then [' '] else []) ++ others
  else last ++ others

/-- Read the lines of a block scalar at a known indentation. -/
def blockLines (folded : Bool) (chomping : Chomping) (indent : Nat) :
    Nat → Cursor → List Char → Bool → List Char → List Char →
      Option (List Char × Cursor)
  | 0, cursor, text, _, last, others => some (text ++ chomp chomping last others, cursor)
  | fuel + 1, cursor, text, indentedBefore, last, others =>
    if cursor.column ≠ indent ∨ cursor.rest.isEmpty then
      some (text ++ chomp chomping last others, cursor)
    else do
      let indented := cursor.peek.any isSpacing
      let line := cursor.rest.takeWhile fun character => !isBreak character
      let text := text ++ joinLines folded indentedBefore indented last others ++ line
      let (last, next) := (cursor.advance line.length).readBreak
      let (_, others, next) ← blockBreaks (some indent) (next.rest.length + 1) next 0 []
      blockLines folded chomping indent fuel next text indented last others

/-- Read a block scalar, whose indicator comes next, inside a block of the given
indentation. -/
def readBlock (folded : Bool) (parent : Int) (cursor : Cursor) :
    Option (List Char × Cursor) := do
  let (header, cursor) ← readBlockHeader (cursor.advance 1)
  let cursor ← skipLineRest cursor
  let given := header.increment.map fun increment =>
    if 0 ≤ parent then parent.toNat + increment else increment
  let (greatest, breaks, cursor) ← blockBreaks given (cursor.rest.length + 1) cursor 0 []
  let indent := given.getD (max greatest (max (parent + 1).toNat 1))
  blockLines folded header.chomping indent (cursor.rest.length + 1) cursor [] false []
    breaks

end Yaml

end BoundedStream
