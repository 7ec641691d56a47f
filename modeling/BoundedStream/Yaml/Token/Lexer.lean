import BoundedStream.Yaml.Token.Property

/-!
# Cutting a document into tokens

The lexer keeps the indentation of the open blocks and, for every open flow collection,
the place of a token that may turn out to be a mapping key.  Such a token is held back
with all that follow until a colon confirms the key or until it can no longer be one: a
key and its colon stand on one line within 1024 characters.  Main definition:
`Token.scan`, the tokens up to the first lexical fault; a list of tokens without a last
`streamEnd` tells that there was a fault.
-/

namespace BoundedStream

namespace Yaml

/-- A token that may be a key, found at the given place. -/
structure PendingKey where
  /-- No other reading of the document is possible. -/
  required : Bool
  /-- The number of the token in the stream. -/
  number : Nat
  index : Nat
  line : Nat
  column : Nat
deriving Repr, Inhabited

/-- The state of the lexer. -/
structure Lexer where
  cursor : Cursor
  /-- The indentation of the innermost block. -/
  indent : Int
  /-- The indentations of the blocks around it. -/
  outerIndents : List Int
  /-- Whether a key may start here. -/
  keyAllowed : Bool
  /-- The possible key of the innermost collection. -/
  pending : Option PendingKey
  /-- The possible keys around every open flow collection, innermost first. -/
  outerPending : List (Option PendingKey)
  /-- The number of tokens handed out. -/
  released : Nat
  /-- Tokens not yet handed out. -/
  queue : List Token
deriving Repr, Inhabited

namespace Lexer

/-- The lexer before the first character. -/
def start (characters : List Char) : Lexer where
  cursor := Cursor.start characters
  indent := -1
  outerIndents := []
  keyAllowed := true
  pending := none
  outerPending := []
  released := 0
  queue := []

def inFlow (lexer : Lexer) : Bool := !lexer.outerPending.isEmpty

def push (lexer : Lexer) (token : Token) : Lexer :=
  { lexer with queue := lexer.queue ++ [token] }

/-- Insert a token before the one of the given number. -/
def insert (lexer : Lexer) (number : Nat) (token : Token) : Lexer :=
  let place := number - lexer.released
  { lexer with queue := lexer.queue.take place ++ token :: lexer.queue.drop place }

def nextNumber (lexer : Lexer) : Nat := lexer.released + lexer.queue.length

def moveTo (lexer : Lexer) (cursor : Cursor) : Lexer := { lexer with cursor }

def allowKey (lexer : Lexer) (allowed : Bool) : Lexer :=
  { lexer with keyAllowed := allowed }

/-- Whether a pending key is out of reach of a colon at the cursor. -/
def isStale (cursor : Cursor) (key : PendingKey) : Bool :=
  key.line < cursor.line || key.index + 1024 < cursor.index

/-- Give up one key that is out of reach; a required key cannot be given up. -/
def refresh (cursor : Cursor) : Option PendingKey → Option (Option PendingKey)
  | none => some none
  | some key =>
    if isStale cursor key then if key.required then none else some none
    else some (some key)

def dropStale (lexer : Lexer) : Option Lexer := do
  let outerPending ← lexer.outerPending.mapM (refresh lexer.cursor)
  let pending ← refresh lexer.cursor lexer.pending
  pure { lexer with pending, outerPending }

def dropPending (lexer : Lexer) : Option Lexer :=
  if lexer.pending.any (·.required) then none else some { lexer with pending := none }

def savePending (lexer : Lexer) : Option Lexer :=
  if lexer.keyAllowed then do
    let cursor := lexer.cursor
    let required := !lexer.inFlow && lexer.indent == (cursor.column : Int)
    let lexer ← lexer.dropPending
    pure { lexer with
      pending := some ⟨required, lexer.nextNumber, cursor.index, cursor.line,
        cursor.column⟩ }
  else some lexer

/-- Open a block at a column beyond the indentation; `place` adds its first token. -/
def openBlock (lexer : Lexer) (column : Nat) (place : Lexer → Lexer) : Lexer :=
  if !lexer.inFlow && decide (lexer.indent < (column : Int)) then
    place { lexer with
      indent := column, outerIndents := lexer.indent :: lexer.outerIndents }
  else lexer

/-- Count the blocks that a column ends, and find the indentation that remains. -/
def closedBlocks (column : Int) : Int → List Int → Nat × Int × List Int
  | indent, [] => (0, indent, [])
  | indent, outer :: rest =>
    if column < indent then
      let (count, remaining, outers) := closedBlocks column outer rest
      (count + 1, remaining, outers)
    else (0, indent, outer :: rest)

/-- Close the blocks that are indented beyond a column. -/
def closeBlocks (lexer : Lexer) (column : Int) : Lexer :=
  if lexer.inFlow then lexer
  else
    let (count, indent, outerIndents) :=
      closedBlocks column lexer.indent lexer.outerIndents
    { lexer with
      indent, outerIndents,
      queue := lexer.queue ++ List.replicate count Token.blockEnd }

/-- Skip blanks, comments and line breaks before the next token. -/
def skipSpace : Nat → Lexer → Lexer
  | 0, lexer => lexer
  | fuel + 1, lexer =>
    let cursor :=
      if lexer.cursor.index = 0 ∧ lexer.cursor.sees byteOrderMark then
        lexer.cursor.advance 1
      else lexer.cursor
    let tabs := lexer.inFlow || !lexer.keyAllowed
    let cursor := cursor.advanceWhile fun character =>
      character == ' ' || (tabs && character == '\t')
    let cursor := if cursor.sees '#' then cursor.advanceLine else cursor
    if cursor.peek.any isBreak then
      let allowed := lexer.keyAllowed || !lexer.inFlow
      skipSpace fuel ((lexer.moveTo cursor.skipBreak).allowKey allowed)
    else lexer.moveTo cursor

/-! ## Tokens of one kind -/

def fetchEnd (lexer : Lexer) : Option Lexer := do
  let cursor := lexer.cursor
  let ended : Cursor :=
    if cursor.column = 0 then cursor
    else { cursor with line := cursor.line + 1, column := 0 }
  let lexer ← ((lexer.moveTo ended).closeBlocks (-1)).dropPending
  pure ((lexer.allowKey false).push .streamEnd)

def fetchDirective (lexer : Lexer) : Option Lexer := do
  let lexer ← (lexer.closeBlocks (-1)).dropPending
  let (token, next) ← Token.readDirective lexer.cursor
  pure (((lexer.allowKey false).moveTo next).push token)

def fetchMarker (lexer : Lexer) (token : Token) : Option Lexer := do
  let lexer ← (lexer.closeBlocks (-1)).dropPending
  pure (((lexer.allowKey false).moveTo (lexer.cursor.advance 3)).push token)

/-- The start of a flow collection, which may itself be a key. -/
def fetchFlowStart (lexer : Lexer) (token : Token) : Option Lexer := do
  let lexer ← lexer.savePending
  let inner := { lexer with
    pending := none, outerPending := lexer.pending :: lexer.outerPending }
  pure (((inner.allowKey true).moveTo (lexer.cursor.advance 1)).push token)

def fetchFlowEnd (lexer : Lexer) (token : Token) : Option Lexer := do
  let lexer ← lexer.dropPending
  let outer :=
    match lexer.outerPending with
    | [] => lexer
    | pending :: outerPending => { lexer with pending, outerPending }
  pure (((outer.allowKey false).moveTo (lexer.cursor.advance 1)).push token)

/-- A comma between the entries of a flow collection. -/
def fetchFlowEntry (lexer : Lexer) : Option Lexer := do
  let lexer ← lexer.dropPending
  pure (((lexer.allowKey true).moveTo (lexer.cursor.advance 1)).push .flowEntry)

def fetchBlockEntry (lexer : Lexer) : Option Lexer := do
  if !lexer.inFlow && !lexer.keyAllowed then none
  else
    let opened :=
      lexer.openBlock lexer.cursor.column fun lexer => lexer.push .blockSequenceStart
    let lexer ← opened.dropPending
    pure (((lexer.allowKey true).moveTo (lexer.cursor.advance 1)).push .blockEntry)

def fetchKey (lexer : Lexer) : Option Lexer := do
  if !lexer.inFlow && !lexer.keyAllowed then none
  else
    let opened :=
      lexer.openBlock lexer.cursor.column fun lexer => lexer.push .blockMappingStart
    let lexer ← opened.dropPending
    pure (((lexer.allowKey !lexer.inFlow).moveTo (lexer.cursor.advance 1)).push .key)

/-- A colon, which confirms the pending key or stands for an empty one. -/
def fetchValue (lexer : Lexer) : Option Lexer :=
  match lexer.pending with
  | some key =>
    let keyed := lexer.insert key.number .key
    let opened := keyed.openBlock key.column fun lexer =>
      lexer.insert key.number .blockMappingStart
    some ((({ opened with pending := none }.allowKey false).moveTo
      (lexer.cursor.advance 1)).push .value)
  | none =>
    if !lexer.inFlow && !lexer.keyAllowed then none
    else
      let opened :=
        lexer.openBlock lexer.cursor.column fun lexer => lexer.push .blockMappingStart
      some (((opened.allowKey !lexer.inFlow).moveTo (lexer.cursor.advance 1)).push .value)

def fetchAnchor (lexer : Lexer) (token : String → Token) : Option Lexer := do
  let lexer ← lexer.savePending
  let (name, next) ← Token.readAnchorName lexer.cursor
  pure (((lexer.allowKey false).moveTo next).push (token name))

def fetchTag (lexer : Lexer) : Option Lexer := do
  let lexer ← lexer.savePending
  let (token, next) ← Token.readTag lexer.inFlow lexer.cursor
  pure (((lexer.allowKey false).moveTo next).push token)

def fetchBlockScalar (lexer : Lexer) (style : ScalarStyle) : Option Lexer := do
  let lexer ← lexer.dropPending
  let (text, next) ← readBlock (style == .folded) lexer.indent lexer.cursor
  pure (((lexer.allowKey true).moveTo next).push (.scalar style (String.ofList text)))

def fetchQuoted (lexer : Lexer) (style : ScalarStyle) : Option Lexer := do
  let lexer ← lexer.savePending
  let (text, next) ←
    if style = .singleQuoted then readSingleQuoted lexer.cursor
    else readDoubleQuoted lexer.cursor
  pure (((lexer.allowKey false).moveTo next).push (.scalar style (String.ofList text)))

/-- A plain scalar; a key may start after the line break that follows it. -/
def fetchPlain (lexer : Lexer) : Option Lexer := do
  let lexer ← lexer.savePending
  let plain ← readPlain lexer.inFlow lexer.indent lexer.cursor
  pure (((lexer.allowKey plain.crossed).moveTo plain.next).push
    (.scalar .plain (String.ofList plain.text)))

/-- Whether a plain scalar may start with a character before the given one. -/
def startsPlain (inFlow : Bool) (character : Char) (next : Option Char) : Bool :=
  (!isSeparation (some character) && !isIndicator character) ||
    (character == '-' && !(next.any isSpacing)) ||
    (!inFlow && (character == '?' || character == ':') && !isSeparation next)

def fetchAt (lexer : Lexer) (character : Char) : Option Lexer :=
  let cursor := lexer.cursor
  let next := cursor.peekAt 1
  let isMarked := lexer.inFlow || isSeparation next
  if cursor.column = 0 ∧ character = '%' then lexer.fetchDirective
  else if cursor.seesMarker ['-', '-', '-'] then lexer.fetchMarker .documentStart
  else if cursor.seesMarker ['.', '.', '.'] then lexer.fetchMarker .documentEnd
  else if character = '[' then lexer.fetchFlowStart .flowSequenceStart
  else if character = '\x7b' then lexer.fetchFlowStart .flowMappingStart
  else if character = ']' then lexer.fetchFlowEnd .flowSequenceEnd
  else if character = '\x7d' then lexer.fetchFlowEnd .flowMappingEnd
  else if character = ',' then lexer.fetchFlowEntry
  else if character = '-' ∧ isSeparation next then lexer.fetchBlockEntry
  else if character = '?' ∧ isMarked then lexer.fetchKey
  else if character = ':' ∧ isMarked then lexer.fetchValue
  else if character = '*' then lexer.fetchAnchor .alias
  else if character = '&' then lexer.fetchAnchor .anchor
  else if character = '!' then lexer.fetchTag
  else if character = '|' ∧ !lexer.inFlow then lexer.fetchBlockScalar .literal
  else if character = '>' ∧ !lexer.inFlow then lexer.fetchBlockScalar .folded
  else if character = Char.ofNat 39 then lexer.fetchQuoted .singleQuoted
  else if character = '"' then lexer.fetchQuoted .doubleQuoted
  else if startsPlain lexer.inFlow character next then lexer.fetchPlain
  else none

def fetch (lexer : Lexer) : Option Lexer := do
  let lexer := lexer.skipSpace (lexer.cursor.rest.length + 1)
  let lexer ← lexer.dropStale
  let lexer := lexer.closeBlocks lexer.cursor.column
  match lexer.cursor.peek with
  | none => lexer.fetchEnd
  | some character => lexer.fetchAt character

/-- The number of tokens that need not be held back. -/
def readyCount (lexer : Lexer) : Nat :=
  (lexer.pending :: lexer.outerPending).foldl
    (fun count pending =>
      match pending with
      | none => count
      | some key => min count (key.number - lexer.released))
    lexer.queue.length

/-- Hand out the tokens that need not be held back. -/
def release (lexer : Lexer) : List Token × Lexer :=
  let count := lexer.readyCount
  (lexer.queue.take count,
    { lexer with queue := lexer.queue.drop count, released := lexer.released + count })

/-- All tokens from here to the end or to the first fault. -/
def run : Nat → Lexer → List Token
  | 0, _ => []
  | fuel + 1, lexer =>
    match lexer.fetch >>= dropStale with
    | none => []
    | some lexer =>
      let (ready, lexer) := lexer.release
      if ready.getLast? = some .streamEnd then ready else ready ++ run fuel lexer

end Lexer

/-- The tokens of a document up to the first lexical fault.  A character that may not
stand in a document is a fault before the first token. -/
def Token.scan (characters : List Char) : List Token :=
  if characters.all isReadable then
    (Lexer.start characters).run (characters.length + 2)
  else []

end Yaml

end BoundedStream
