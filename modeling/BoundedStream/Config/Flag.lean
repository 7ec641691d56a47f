import BoundedStream.Error

/-!
# Descriptor status flags

The status flags that a configuration may name, and their values.
-/

namespace BoundedStream

/-- A status flag of a pipe descriptor. -/
inductive DescriptorFlag where
  | nonblock
  | append
  | sync
  | dsync
  | async
deriving DecidableEq, Repr, Inhabited

namespace DescriptorFlag

def value : DescriptorFlag → Int32
  | nonblock => 0o4000
  | append => 0o2000
  | sync => 0o4010000
  | dsync => 0o10000
  | async => 0o20000

def name : DescriptorFlag → String
  | nonblock => "nonblock"
  | append => "append"
  | sync => "sync"
  | dsync => "dsync"
  | async => "async"

def ofName? (name : String) : Option DescriptorFlag :=
  [nonblock, append, sync, dsync, async].find? fun flag => flag.name == name

end DescriptorFlag

namespace Config

def parseFlag (name : String) : Except ValidationError DescriptorFlag :=
  match DescriptorFlag.ofName? name with
  | some flag => .ok flag
  | none =>
    .error (.invalidField "flags" name
      "expected one of: nonblock, append, sync, dsync, async")

end Config

end BoundedStream
