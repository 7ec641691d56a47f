import BoundedStream.Config.Check
import BoundedStream.Yaml.Node.OfTokens
import BoundedStream.Yaml.Value

/-!
# Configuration documents

A configuration document is a mapping with the single key `transport`, whose value is a
mapping of the fields of a section.  The pairs are read in document order, and the first
fault is the answer: an unknown or repeated key before its value, a value of the wrong
type, and at the end a missing field.
-/

namespace BoundedStream

namespace Config

open Yaml

/-- A fault of the content, after the place where it was found. -/
def documentFault (location text : String) : DocumentError :=
  .described ("YAML parse error: " ++
    (if location.isEmpty then text else location ++ ": " ++ text))

/-- The place of the value of a key; a key given by an alias has no name. -/
def valueLocation (parent : String) (key : Node) (name : String) : String :=
  let part :=
    match key with
    | .alias _ => "?"
    | _ => name
  if parent.isEmpty then part else parent ++ "." ++ part

/-! ## Values of a declared type -/

def basicTag (name : String) : String := "tag:yaml.org,2002:" ++ name

/-- How an error names a scalar, or the type that its tag asks for and its text misses. -/
def scalarDescription (scalar : Scalar) : Except String String :=
  let text := scalar.text
  let untyped : Except String String := .ok (Value.text text).describe
  let typed : Except String String := .ok (Value.ofPlain text).describe
  match scalar.tag with
  | none => if scalar.style = .plain then typed else untyped
  | some tag =>
    if tag = basicTag "bool" then
      match Value.boolean? text with
      | some value => .ok (Value.boolean value).describe
      | none => .error "a boolean"
    else if tag = basicTag "int" then
      match Value.integer? text.toList with
      | some value => .ok (Value.integer value).describe
      | none => .error "an integer"
    else if tag = basicTag "float" then
      match Value.float? text.toList with
      | some value => .ok (Value.float value).describe
      | none => .error "a float"
    else if tag = basicTag "null" then
      if Value.isNullWord text then .ok Value.null.describe else .error "null"
    else if tag.startsWith "!" ∧ scalar.style = .plain then typed
    else untyped

def invalidValue (location text wanted : String) : DocumentError :=
  documentFault location
    ("invalid value: string " ++ Text.quote text ++ ", expected " ++ wanted)

def invalidType (location : String) (node : Node) (wanted : String) : DocumentError :=
  let refuse (found : String) :=
    documentFault location ("invalid type: " ++ found ++ ", expected " ++ wanted)
  match node with
  | .broken | .void | .alias _ => .malformed
  | .sequence .. => refuse "sequence"
  | .mapping .. => refuse "map"
  | .scalar scalar =>
    match scalarDescription scalar with
    | .ok found => refuse found
    | .error asked => invalidValue location scalar.text asked

def readText (location wanted : String) : Node → Except DocumentError String
  | .scalar scalar => .ok scalar.text
  | node => .error (invalidType location node wanted)

/-- Whether a value is absent.  A quoted value is present; a tag for nothing needs one of
the words for nothing, and under any other tag only the empty value is absent. -/
def isAbsent (parent : String) : Node → Except DocumentError Bool
  | .void => .ok true
  | .scalar scalar =>
    if scalar.style ≠ .plain then .ok false
    else
      match scalar.tag with
      | none => .ok (scalar.text.isEmpty || Value.isNullWord scalar.text)
      | some tag =>
        if tag ≠ basicTag "null" then .ok scalar.text.isEmpty
        else if Value.isNullWord scalar.text then .ok true
        else .error (invalidValue parent scalar.text "null")
  | .broken => .error .malformed
  | _ => .ok false

def readOptional {α : Type} (parent : String) (read : Node → Except DocumentError α)
    (node : Node) : Except DocumentError (Option α) := do
  if ← isAbsent parent node then pure none else some <$> read node

/-- Read a number of 64 bits: a plain integer, or a literal block tagged as one. -/
def readSize (location : String) (node : Node) : Except DocumentError Nat :=
  match node with
  | .scalar scalar =>
    let mayBeNumber :=
      scalar.style == .plain ||
        (scalar.style == .literal && scalar.tag == some (basicTag "int"))
    let number? :=
      if mayBeNumber then Value.unsigned? (1 <<< 64) scalar.text.toList else none
    match number? with
    | some number => .ok number
    | none => .error (invalidType location node "usize")
  | node => .error (invalidType location node "usize")

def readItems (document : Document) (location : String) :
    Nat → List Node → Except DocumentError (List String)
  | _, [] => .ok []
  | index, item :: items => do
    let place := location ++ "[" ++ toString index ++ "]"
    let text ← readText place "a string" (document.resolve item)
    let texts ← readItems document location (index + 1) items
    pure (text :: texts)

/-- Read a list of texts; an empty value is an empty list. -/
def readTexts (document : Document) (location : String) (node : Node) :
    Except DocumentError (List String) :=
  match node with
  | .sequence _ items => readItems document location 0 items
  | .void => .ok []
  | .scalar scalar =>
    if scalar.isBlank then .ok []
    else .error (invalidType location node "a sequence")
  | node => .error (invalidType location node "a sequence")

def readKindName (location name : String) : Except DocumentError TransportKind :=
  match TransportKind.ofText? name with
  | some kind => .ok kind
  | none =>
    .error (documentFault location ("unknown variant \x60" ++ name ++
      "\x60, expected \x60named_pipe\x60 or \x60shared_memory\x60"))

def ownTag? (tag : Option String) : Option String :=
  match tag.map String.toList with
  | some ('!' :: name) => some (String.ofList name)
  | _ => none

/-- A node of which nothing but its tag counts must be empty. -/
def readNothing (location : String) (node : Node) : Except DocumentError Unit :=
  match node with
  | .void => .ok ()
  | .scalar scalar =>
    let isNothing := scalar.text.isEmpty || Value.isNullWord scalar.text
    if scalar.style = .plain ∧ isNothing then .ok ()
    else .error (invalidValue location scalar.text "null")
  | node => .error (invalidType location node "unit")

/-- Read the name of a backend, given as a text or as a tag of its own. -/
def readKind (parent location : String) (node : Node) :
    Except DocumentError TransportKind :=
  let tagged (name : String) : Except DocumentError TransportKind := do
    let kind ← readKindName parent name
    readNothing location node
    pure kind
  let untagged (found : String) : DocumentError :=
    documentFault location
      ("invalid type: " ++ found ++ ", expected a YAML tag starting with '!'")
  match node with
  | .broken | .void | .alias _ => .error .malformed
  | .scalar scalar =>
    match ownTag? scalar.tag with
    | some name => tagged name
    | none => readKindName location scalar.text
  | .mapping tag _ =>
    match ownTag? tag with
    | some name => tagged name
    | none => .error (untagged "map")
  | .sequence tag _ =>
    match ownTag? tag with
    | some name => tagged name
    | none => .error (untagged "sequence")

/-! ## The transport section -/

/-- A field of the transport section. -/
inductive Field where
  | kind
  | path
  | mode
  | capacity
  | flags
deriving DecidableEq, Repr, Inhabited

namespace Field

def name : Field → String
  | kind => "kind"
  | path => "path"
  | mode => "mode"
  | capacity => "capacity"
  | flags => "flags"

/-- All fields, in the order in which messages list them. -/
def all : List Field := [kind, path, mode, capacity, flags]

def ofName? (name : String) : Option Field := all.find? fun field => field.name == name

end Field

/-- The fields that were read so far. -/
structure Draft where
  kind : Option TransportKind
  path : Option String
  mode : Option (Option String)
  capacity : Option (Option Nat)
  flags : Option (List String)
deriving DecidableEq, Repr, Inhabited

namespace Draft

def empty : Draft := ⟨none, none, none, none, none⟩

def has (draft : Draft) : Field → Bool
  | .kind => draft.kind.isSome
  | .path => draft.path.isSome
  | .mode => draft.mode.isSome
  | .capacity => draft.capacity.isSome
  | .flags => draft.flags.isSome

def read (draft : Draft) (document : Document) (parent location : String)
    (field : Field) (node : Node) : Except DocumentError Draft :=
  match field with
  | .kind => do
    let kind ← readKind parent location node
    pure { draft with kind := some kind }
  | .path => do
    let path ← readText location "a string" node
    pure { draft with path := some path }
  | .mode => do
    let mode ← readOptional parent (readText location "a string") node
    pure { draft with mode := some mode }
  | .capacity => do
    let capacity ← readOptional parent (readSize location) node
    pure { draft with capacity := some capacity }
  | .flags => do
    let flags ← readTexts document location node
    pure { draft with flags := some flags }

/-- The section of a draft, once its kind and its path were given. -/
def finish (draft : Draft) (location : String) : Except DocumentError Section :=
  match draft.kind, draft.path with
  | none, _ => .error (documentFault location "missing field \x60kind\x60")
  | some _, none => .error (documentFault location "missing field \x60path\x60")
  | some kind, some path =>
    .ok ⟨kind, path, draft.mode.join, draft.capacity.join, draft.flags.getD []⟩

end Draft

def readKey (document : Document) (location : String) (key : Node) :
    Except DocumentError String :=
  readText location "field identifier" (document.resolve key)

def unknownField (location name : String) (expected : List String) : DocumentError :=
  let quoted := expected.map fun field => "\x60" ++ field ++ "\x60"
  let wanted :=
    match quoted with
    | [only] => only
    | several => "one of " ++ ", ".intercalate several
  documentFault location ("unknown field \x60" ++ name ++ "\x60, expected " ++ wanted)

def duplicateField (location name : String) : DocumentError :=
  documentFault location ("duplicate field \x60" ++ name ++ "\x60")

/-- Read the pairs of the transport section in document order. -/
def readFields (document : Document) (location : String) :
    List (Node × Node) → Draft → Except DocumentError Draft
  | [], draft => .ok draft
  | (key, value) :: pairs, draft => do
    let name ← readKey document location key
    match Field.ofName? name with
    | none => .error (unknownField location name (Field.all.map Field.name))
    | some field =>
      if draft.has field then .error (duplicateField location name)
      else
        let place := valueLocation location key name
        let draft ← draft.read document location place field (document.resolve value)
        readFields document location pairs draft

/-- The pairs of a mapping of named fields; an empty value has none. -/
def fieldPairs (location wanted : String) (node : Node) :
    Except DocumentError (List (Node × Node)) :=
  match node with
  | .mapping _ pairs => .ok pairs
  | .void => .ok []
  | .scalar scalar =>
    if scalar.isBlank then .ok [] else .error (invalidType location node wanted)
  | node => .error (invalidType location node wanted)

def readSection (document : Document) (location : String) (node : Node) :
    Except DocumentError Section := do
  let pairs ← fieldPairs location "struct RawTransportConfig" node
  let draft ← readFields document location pairs Draft.empty
  draft.finish location

/-- Read the pairs of the whole document, of which the key `transport` is one. -/
def readRoot (document : Document) :
    List (Node × Node) → Option Section → Except DocumentError Section
  | [], some section? => .ok section?
  | [], none => .error (documentFault "" "missing field \x60transport\x60")
  | (key, value) :: pairs, found => do
    let name ← readKey document "" key
    if name ≠ "transport" then .error (unknownField "" name ["transport"])
    else if found.isSome then .error (duplicateField "" name)
    else
      let read ← readSection document (valueLocation "" key name) (document.resolve value)
      readRoot document pairs (some read)

def Section.ofDocument (document : Document) : Except DocumentError Section := do
  let pairs ← fieldPairs "" "struct RawConfig" (document.resolve document.root)
  let read ← readRoot document pairs none
  if document.complete then pure read else .error .malformed

/-- Read and validate a configuration from the text of its file. -/
def loadText (text : String) : Except StreamError Config :=
  match Section.ofDocument (Document.read text) with
  | .error fault => .error (.configDocument fault)
  | .ok raw =>
    match raw.validate with
    | .error fault => .error (.validation fault)
    | .ok config => .ok config

end Config

end BoundedStream
