import BoundedStream.CommandLine.Parse
import BoundedStream.Host

/-!
# Surroundings of a command line

A command line is run on a host that has the files which it names: its configuration, its
input, and the file from which the key of a region is derived.
-/

namespace BoundedStream

namespace Host

/-- The paths of the directories above a path, outermost first. -/
def directoriesAbove (path : String) : List String :=
  let names := path.splitOn "/"
  ((List.range (names.length - 1)).map fun count =>
    "/".intercalate (names.take (count + 1))).filter (· ≠ "")

/-- Place a thing at a path after the directories above it. -/
def placeBelow (host : Host) (path : String) (item : Item) : Host :=
  ((directoriesAbove path).foldl (fun host above => host.place above .directory) host).place
    path item

end Host

namespace Invocation

/-- The paths of the files that a command names itself. -/
def directPaths (invocation : Invocation) : List String :=
  let own : List String :=
    match invocation.command with
    | .produce transport input _ => transport.path.toList ++ input.toList
    | .consume transport _ _ _ => transport.path.toList
    | .validate file => [file]
    | .remove path => [path]
  invocation.config.toList ++ own

/-- The path in the configuration file of a command, if it has one that is valid. -/
def configuredPath? (invocation : Invocation) (host : Host) : Option String :=
  invocation.config.bind fun file =>
    ((Config.loadFile host.files file).toOption).map Config.path

def output? (invocation : Invocation) : Option String :=
  match invocation.command with
  | .consume _ output _ _ => output
  | _ => none

def readsStandardInput (invocation : Invocation) : Bool :=
  match invocation.command with
  | .produce _ none _ => true
  | _ => false

end Invocation

end BoundedStream
