import BoundedStream.Yaml.Token

/-!
# Document trees

The tree of a document as far as the document is well formed.  Where its text breaks
off or stops being well formed, the tree holds a broken node, and nothing follows that
node in document order.  A reader that walks the tree in document order therefore meets
the faults of the content before a later fault of the form.
-/

namespace BoundedStream

namespace Yaml

/-- A scalar with its tag, its style and its text. -/
structure Scalar where
  tag : Option String
  style : ScalarStyle
  text : String
deriving DecidableEq, Repr, Inhabited

namespace Scalar

/-- The scalar that stands where nothing is written. -/
def empty : Scalar := ⟨none, .plain, ""⟩

def isBlank (scalar : Scalar) : Bool :=
  scalar.text.isEmpty && scalar.style == .plain

end Scalar

/-- A node of a document tree. -/
inductive Node where
  /-- The document is not well formed from here on. -/
  | broken
  /-- There is no document at all. -/
  | void
  /-- A reference to the anchored node of the given number. -/
  | alias (number : Nat)
  | scalar (scalar : Scalar)
  | sequence (tag : Option String) (items : List Node)
  | mapping (tag : Option String) (pairs : List (Node × Node))
deriving Inhabited

def Node.empty : Node := .scalar Scalar.empty

/-- A document: its tree, its anchored nodes, and whether it is well formed to its end
and the only one in its stream. -/
structure Document where
  root : Node
  /-- Anchored nodes by number; the first entry of a number counts. -/
  targets : List (Nat × Node)
  complete : Bool
deriving Inhabited

namespace Document

/-- Follow an alias to its node.  Other nodes stand for themselves. -/
def resolve (document : Document) : Node → Node
  | .alias number => (document.targets.lookup number).getD .broken
  | node => node

end Document

end Yaml

end BoundedStream
