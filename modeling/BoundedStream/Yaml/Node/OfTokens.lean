import BoundedStream.Yaml.Node
import BoundedStream.Yaml.Token.Lexer

/-!
# From tokens to a document tree

The grammar of documents over their tokens.  Anchors are numbered in the order in which
their names first occur; a name that occurs again takes the number that the next new
name will take as well, and of the nodes with one number the last one counts.
-/

namespace BoundedStream

namespace Yaml

/-- The state of reading a tree from tokens. -/
structure Builder where
  /-- Tokens still to be read; none are left after a fault. -/
  tokens : List Token
  /-- What the tag handles stand for. -/
  handles : List (String × String)
  /-- The numbers of anchor names. -/
  anchors : List (String × Nat)
  /-- Anchored nodes by number, the latest first. -/
  targets : List (Nat × Node)
deriving Inhabited

/-- Where a node stands. -/
inductive Place where
  /-- An entry of a block sequence, or the whole document. -/
  | block
  /-- A key or a value of a block mapping. -/
  | pair
  /-- Inside a flow collection. -/
  | flow
deriving DecidableEq, Repr

namespace Builder

def halt (builder : Builder) : Builder := { builder with tokens := [] }

def goOn (builder : Builder) (tokens : List Token) : Builder := { builder with tokens }

/-- The number of distinct anchor names so far. -/
def anchorCount (builder : Builder) : Nat := (builder.anchors.map Prod.fst).eraseDups.length

def anchor (builder : Builder) : Option String → Option Nat × Builder
  | none => (none, builder)
  | some name =>
    let number := builder.anchorCount
    (some number, { builder with anchors := (name, number) :: builder.anchors })

/-- Record an anchored node, which starts before the nodes recorded since `outer`. -/
def record (builder : Builder) (outer : List (Nat × Node)) (number : Option Nat)
    (node : Node) : Builder :=
  let own := (number.map fun number => (number, node)).toList
  { builder with targets := builder.targets ++ own ++ outer }

def fullTag? (builder : Builder) (handle suffix : String) : Option String :=
  if handle.isEmpty then some suffix
  else (builder.handles.lookup handle).map (· ++ suffix)

/-- The anchor and the tag before a node, in either order. -/
def properties (builder : Builder) :
    Option (Option String × Option String × Builder) :=
  let tagged (anchor : Option String) (handle suffix : String) (rest : List Token) :=
    (builder.fullTag? handle suffix).map fun tag => (anchor, some tag, builder.goOn rest)
  match builder.tokens with
  | .anchor name :: .tag handle suffix :: rest => tagged (some name) handle suffix rest
  | .anchor name :: rest => some (some name, none, builder.goOn rest)
  | .tag handle suffix :: .anchor name :: rest => tagged (some name) handle suffix rest
  | .tag handle suffix :: rest => tagged none handle suffix rest
  | _ => some (none, none, builder)

/-- A scalar node.  The tag of one exclamation mark only says that there is no other. -/
def scalarNode (tag : Option String) (style : ScalarStyle) (text : String) : Node :=
  .scalar ⟨tag.filter (· != "!"), style, text⟩

def closeWith (outer : List (Nat × Node)) (number : Option Nat) {α : Type}
    (make : α → Node) (content : α × Builder) : Node × Builder :=
  let node := make content.1
  (node, content.2.record outer number node)

/-- Start a collection: its number, and the builder for its content. -/
def openAt (builder : Builder) (name : Option String) (rest : List Token) :
    Option Nat × Builder :=
  let (number, builder) := builder.anchor name
  (number, { builder with tokens := rest, targets := [] })

mutual

/-- Read a node.  A flow collection admits no block collections, and only a key or a
value of a block mapping admits a sequence without indentation. -/
def readNode : Nat → Place → Builder → Node × Builder
  | 0, _, builder => (.broken, builder.halt)
  | fuel + 1, place, builder =>
    match builder.tokens with
    | .alias name :: rest =>
      match builder.anchors.lookup name with
      | some number => (.alias number, builder.goOn rest)
      | none => (.broken, builder.halt)
    | _ =>
      match builder.properties with
      | none => (.broken, builder.halt)
      | some (name, tag, builder) =>
        let outer := builder.targets
        match builder.tokens with
        | [] => (.broken, builder.halt)
        | .scalar style text :: rest =>
          let node := scalarNode tag style text
          let (number, builder) := builder.anchor name
          (node, ({ builder with tokens := rest, targets := [] }).record outer number node)
        | .flowSequenceStart :: rest =>
          let (number, builder) := builder.openAt name rest
          closeWith outer number (.sequence tag) (readFlowSequence fuel true builder)
        | .flowMappingStart :: rest =>
          let (number, builder) := builder.openAt name rest
          closeWith outer number (.mapping tag) (readFlowMapping fuel true builder)
        | token :: rest =>
          if place == .pair && token == .blockEntry then
            let (number, builder) := builder.openAt name builder.tokens
            closeWith outer number (.sequence tag) (readIndentless fuel builder)
          else if place != .flow && token == .blockSequenceStart then
            let (number, builder) := builder.openAt name rest
            closeWith outer number (.sequence tag) (readBlockSequence fuel builder)
          else if place != .flow && token == .blockMappingStart then
            let (number, builder) := builder.openAt name rest
            closeWith outer number (.mapping tag) (readBlockMapping fuel builder)
          else if name.isSome || tag.isSome then
            let node := Node.scalar ⟨tag, .plain, ""⟩
            let (number, builder) := builder.anchor name
            (node, ({ builder with targets := [] }).record outer number node)
          else (.broken, builder.halt)

/-- Read a node, or an empty one where one of the given tokens comes next. -/
def readOptional : Nat → List Token → Place → Builder → Node × Builder
  | 0, _, _, builder => (.broken, builder.halt)
  | fuel + 1, stops, place, builder =>
    match builder.tokens with
    | [] => (.broken, builder)
    | token :: _ =>
      if stops.contains token then (Node.empty, builder)
      else readNode fuel place builder

def readBlockSequence : Nat → Builder → List Node × Builder
  | 0, builder => ([.broken], builder.halt)
  | fuel + 1, builder =>
    match builder.tokens with
    | .blockEntry :: rest =>
      let (item, builder) :=
        readOptional fuel [.blockEntry, .blockEnd] .block (builder.goOn rest)
      let (items, builder) := readBlockSequence fuel builder
      (item :: items, builder)
    | .blockEnd :: rest => ([], builder.goOn rest)
    | _ => ([.broken], builder.halt)

/-- Read the entries of a sequence that stands at the indentation of its mapping. -/
def readIndentless : Nat → Builder → List Node × Builder
  | 0, builder => ([.broken], builder.halt)
  | fuel + 1, builder =>
    match builder.tokens with
    | [] => ([.broken], builder)
    | .blockEntry :: rest =>
      let builder := builder.goOn rest
      let (item, builder) :=
        match rest with
        | .key :: _ | .value :: _ => (Node.empty, builder)
        | _ => readOptional fuel [.blockEntry, .blockEnd] .block builder
      let (items, builder) := readIndentless fuel builder
      (item :: items, builder)
    | _ => ([], builder)

def readBlockMapping : Nat → Builder → List (Node × Node) × Builder
  | 0, builder => ([(.broken, .broken)], builder.halt)
  | fuel + 1, builder =>
    match builder.tokens with
    | .key :: rest =>
      let stops : List Token := [.key, .value, .blockEnd]
      let (key, builder) := readOptional fuel stops .pair (builder.goOn rest)
      let (value, builder) :=
        match builder.tokens with
        | [] => (Node.broken, builder)
        | .value :: rest => readOptional fuel stops .pair (builder.goOn rest)
        | _ => (Node.empty, builder)
      let (pairs, builder) := readBlockMapping fuel builder
      ((key, value) :: pairs, builder)
    | .blockEnd :: rest => ([], builder.goOn rest)
    | _ => ([(.broken, .broken)], builder.halt)

/-- Read the entries of a flow sequence; all but the first follow a comma. -/
def readFlowSequence : Nat → Bool → Builder → List Node × Builder
  | 0, _, builder => ([.broken], builder.halt)
  | fuel + 1, first, builder =>
    match builder.tokens with
    | .flowSequenceEnd :: rest => ([], builder.goOn rest)
    | tokens =>
      let afterComma? :=
        if first then some tokens
        else match tokens with
          | .flowEntry :: rest => some rest
          | _ => none
      match afterComma? with
      | none | some [] => ([.broken], builder.halt)
      | some (.flowSequenceEnd :: rest) => ([], builder.goOn rest)
      | some (.key :: rest) =>
        let (pair, builder) := readFlowPair fuel (builder.goOn rest)
        let (items, builder) := readFlowSequence fuel false builder
        (.mapping none [pair] :: items, builder)
      | some rest =>
        let (item, builder) := readNode fuel .flow (builder.goOn rest)
        let (items, builder) := readFlowSequence fuel false builder
        (item :: items, builder)

/-- Read the only pair of a mapping written as an entry of a flow sequence.  An empty
key takes the token behind it along. -/
def readFlowPair : Nat → Builder → (Node × Node) × Builder
  | 0, builder => ((.broken, .broken), builder.halt)
  | fuel + 1, builder =>
    let (key, builder) :=
      match builder.tokens with
      | .value :: rest | .flowEntry :: rest | .flowSequenceEnd :: rest =>
        (Node.empty, builder.goOn rest)
      | _ => readNode fuel .flow builder
    let (value, builder) :=
      match builder.tokens with
      | [] => (Node.broken, builder)
      | .value :: rest =>
        readOptional fuel [.flowEntry, .flowSequenceEnd] .flow (builder.goOn rest)
      | _ => (Node.empty, builder)
    ((key, value), builder)

/-- Read the pairs of a flow mapping; all but the first follow a comma. -/
def readFlowMapping : Nat → Bool → Builder → List (Node × Node) × Builder
  | 0, _, builder => ([(.broken, .broken)], builder.halt)
  | fuel + 1, first, builder =>
    match builder.tokens with
    | .flowMappingEnd :: rest => ([], builder.goOn rest)
    | tokens =>
      let afterComma? :=
        if first then some tokens
        else match tokens with
          | .flowEntry :: rest => some rest
          | _ => none
      match afterComma? with
      | none | some [] => ([(.broken, .broken)], builder.halt)
      | some (.flowMappingEnd :: rest) => ([], builder.goOn rest)
      | some (.key :: rest) =>
        let (key, builder) :=
          readOptional fuel [.value, .flowEntry, .flowMappingEnd] .flow
            (builder.goOn rest)
        let (value, builder) :=
          match builder.tokens with
          | [] => (Node.broken, builder)
          | .value :: rest =>
            readOptional fuel [.flowEntry, .flowMappingEnd] .flow (builder.goOn rest)
          | _ => (Node.empty, builder)
        let (pairs, builder) := readFlowMapping fuel false builder
        ((key, value) :: pairs, builder)
      | some rest =>
        let (key, builder) := readNode fuel .flow (builder.goOn rest)
        let value := if builder.tokens.isEmpty then Node.broken else Node.empty
        let (pairs, builder) := readFlowMapping fuel false builder
        ((key, value) :: pairs, builder)

end

end Builder

namespace Document

def defaultHandles : List (String × String) :=
  [("!", "!"), ("!!", "tag:yaml.org,2002:")]

/-- Read the directives before a document: what the tag handles stand for, and the
tokens behind.  A directive may not be repeated. -/
def readDirectives : Bool → List (String × String) → List Token →
    Option (List (String × String) × List Token)
  | versioned, handles, .versionDirective major minor :: rest =>
    if versioned || major != 1 || (minor != 1 && minor != 2) then none
    else readDirectives true handles rest
  | versioned, handles, .tagDirective handle start :: rest =>
    if (handles.lookup handle).isSome then none
    else readDirectives versioned (handles ++ [(handle, start)]) rest
  | _, handles, tokens => some (handles ++ defaultHandles, tokens)

def malformed : Document := ⟨.broken, [], false⟩

/-- Whether nothing but the end of the stream follows a document. -/
def endsStream (tokens : List Token) : Bool :=
  tokens.dropWhile (· == .documentEnd) == [.streamEnd]

def readContent (isExplicit : Bool) (handles : List (String × String))
    (tokens : List Token) : Document :=
  let builder : Builder := ⟨tokens, handles, [], []⟩
  let isEmpty :=
    match tokens with
    | .versionDirective .. :: _ | .tagDirective .. :: _ | .documentStart :: _
    | .documentEnd :: _ | .streamEnd :: _ => isExplicit
    | _ => false
  if isEmpty then ⟨Node.empty, [], endsStream tokens⟩
  else
    let (root, builder) := builder.readNode (3 * tokens.length + 3) .block
    ⟨root, builder.targets, endsStream builder.tokens⟩

/-- The first document of a stream of tokens. -/
def ofTokens (tokens : List Token) : Document :=
  match tokens with
  | [] => malformed
  | [.streamEnd] => ⟨.void, [], true⟩
  | first :: _ =>
    match readDirectives false [] tokens with
    | none => malformed
    | some (handles, .documentStart :: rest) => readContent true handles rest
    | some (handles, rest) =>
      match first with
      | .versionDirective .. | .tagDirective .. => malformed
      | _ => readContent false handles rest

def read (text : String) : Document := ofTokens (Token.scan text.toList)

end Document

end Yaml

end BoundedStream
