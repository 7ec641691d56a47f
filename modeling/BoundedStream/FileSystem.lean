import BoundedStream.FileSystem.Fifo
import BoundedStream.SystemError

/-!
# File systems

Files, directories, FIFOs and symbolic links, each with a number of its own.  A path is
followed from the root or from the working directory, component by component; symbolic
links are followed up to a limit.  Permissions are never an obstacle.
-/

namespace BoundedStream

/-- What an inode is. -/
inductive Content where
  | file (bytes : Array UInt8)
  | directory (parent : Nat) (entries : List (String × Nat))
  | fifo (fifo : Fifo)
  | link (target : String)
deriving Repr, Inhabited

/-- A thing in the file system with its permission bits. -/
structure Inode where
  mode : Nat
  content : Content
deriving Repr, Inhabited

/-- A file system: its inodes by number.  The first inode is the root. -/
structure FileSystem where
  inodes : List Inode
  /-- The number of the working directory. -/
  current : Nat
  /-- The permission bits that new things do not get. -/
  mask : Nat
deriving Repr, Inhabited

/-- Where a path leads. -/
inductive Lookup where
  | found (inode : Nat)
  /-- There is no such entry in the directory, which exists. -/
  | absent (directory : Nat) (name : String)
deriving DecidableEq, Repr, Inhabited

namespace FileSystem

/-- Permission bits less those of the mask. -/
def masked (files : FileSystem) (mode : Nat) : Nat :=
  (mode % 0o10000) &&& (0o7777 ^^^ files.mask)

/-- The root with an empty working directory in it. -/
def fresh : FileSystem :=
  ⟨[⟨0o755, .directory 0 [("work", 1)]⟩, ⟨0o755, .directory 0 []⟩], 1, 0o022⟩

def get? (files : FileSystem) (inode : Nat) : Option Inode := files.inodes[inode]?

def content? (files : FileSystem) (inode : Nat) : Option Content :=
  (files.get? inode).map Inode.content

def setContent (files : FileSystem) (inode : Nat) (content : Content) : FileSystem :=
  { files with inodes := files.inodes.modify inode fun old => { old with content } }

def updateFifo (files : FileSystem) (inode : Nat) (change : Fifo → Fifo) : FileSystem :=
  match files.content? inode with
  | some (.fifo fifo) => files.setContent inode (.fifo (change fifo))
  | _ => files

def fifo? (files : FileSystem) (inode : Nat) : Option Fifo :=
  match files.content? inode with
  | some (.fifo fifo) => some fifo
  | _ => none

/-! ## Following paths -/

/-- The greatest length of a component in bytes. -/
def greatestName : Nat := 255

/-- The length in bytes that a path must stay below. -/
def pathLimit : Nat := 4096

/-- The number of symbolic links that one path may lead through. -/
def linkLimit : Nat := 40

/-- The components of a path.  A slash at the end asks for a directory, which the
component `.` stands for. -/
def components (path : String) : List String :=
  let parts := ((path.toList.splitOn '/').filter (· ≠ [])).map String.ofList
  if path.toList.getLast? = some '/' then parts ++ ["."] else parts

def isAbsolute (path : String) : Bool := path.toList.head? = some '/'

/-- Follow components from a directory up to the first symbolic link, and go on there as
`follow` says.  The last component is followed if it is a link only when `followLast` says
so. -/
def walkWith (files : FileSystem) (followLast : Bool)
    (follow : Nat → List String → Except Errno Lookup) (directory : Nat) :
    List String → Except Errno Lookup
  | [] => .ok (.found directory)
  | name :: rest =>
    match files.content? directory with
    | some (.directory parent entries) =>
      if greatestName < name.utf8ByteSize then .error .nameTooLong
      else if name = "." then files.walkWith followLast follow directory rest
      else if name = ".." then files.walkWith followLast follow parent rest
      else
        match entries.lookup name with
        | none =>
          if rest.isEmpty then .ok (.absent directory name) else .error .noEntry
        | some inode =>
          match files.content? inode with
          | some (.link target) =>
            if rest.isEmpty && !followLast then .ok (.found inode)
            else
              let base := if isAbsolute target then 0 else directory
              follow base (components target ++ rest)
          | _ => files.walkWith followLast follow inode rest
    | _ => .error .notDirectory

/-- Follow components from a directory, through at most `links` symbolic links. -/
def walk (files : FileSystem) (followLast : Bool) :
    (links directory : Nat) → List String → Except Errno Lookup
  | 0, directory, names =>
    files.walkWith followLast (fun _ _ => .error .linkLoop) directory names
  | links + 1, directory, names =>
    files.walkWith followLast (files.walk followLast links) directory names

def lookup (files : FileSystem) (followLast : Bool) (path : String) :
    Except SystemError Lookup :=
  if path.toList.contains '\x00' then .error .pathWithNul
  else if path = "" then .error (.number .noEntry)
  else if pathLimit ≤ path.utf8ByteSize then .error (.number .nameTooLong)
  else
    let directory := if isAbsolute path then 0 else files.current
    (files.walk followLast linkLimit directory (components path)).mapError .number

def resolve (files : FileSystem) (followLast : Bool) (path : String) :
    Except SystemError Nat :=
  match files.lookup followLast path with
  | .error error => .error error
  | .ok (.absent _ _) => .error (.number .noEntry)
  | .ok (.found inode) => .ok inode

/-- Whether something exists at a path, symbolic links followed. -/
def pathExists (files : FileSystem) (path : String) : Bool :=
  (files.resolve true path).isOk

/-! ## Making and removing -/

def addEntry (files : FileSystem) (directory : Nat) (name : String) (inode : Nat) :
    FileSystem :=
  match files.content? directory with
  | some (.directory parent entries) =>
    files.setContent directory (.directory parent (entries ++ [(name, inode)]))
  | _ => files

/-- Make a new thing as an entry of a directory: its number. -/
def insert (files : FileSystem) (directory : Nat) (name : String) (inode : Inode) :
    Nat × FileSystem :=
  let number := files.inodes.length
  (number, { files with inodes := files.inodes ++ [inode] }.addEntry directory name number)

/-- A path without the slashes at its end. -/
def trimSlashes (path : String) : String :=
  String.ofList (path.toList.reverse.dropWhile (· == '/')).reverse

/-- Whether something lies at a path itself.  A link there is something, also when slashes
stand behind its name. -/
def hasEntry (files : FileSystem) (path : String) : Bool :=
  match files.lookup false (trimSlashes path) with
  | .ok (.found _) => path.utf8ByteSize < pathLimit
  | _ => false

/-- Make a new thing at a path where nothing is. -/
def make (files : FileSystem) (path : String) (mode : Nat) (content : Nat → Content) :
    Except SystemError (Nat × FileSystem) :=
  match files.lookup false path with
  | .error error =>
    .error (if files.hasEntry path then .number .alreadyExists else error)
  | .ok (.found _) => .error (.number .alreadyExists)
  | .ok (.absent directory name) =>
    .ok (files.insert directory name ⟨mode, content directory⟩)

def makeFifo (files : FileSystem) (path : String) (mode : Nat) :
    Except SystemError (Nat × FileSystem) :=
  files.make path (files.masked mode) fun _ => .fifo .new

/-- Make a directory; a slash at the end of its path does not matter. -/
def makeDirectory (files : FileSystem) (path : String) :
    Except SystemError (Nat × FileSystem) :=
  files.make (trimSlashes path) (files.masked 0o777) fun parent => .directory parent []

/-- Make a symbolic link at a path where nothing is. -/
def makeLink (files : FileSystem) (path target : String) :
    Except SystemError (Nat × FileSystem) :=
  files.make path 0o777 fun _ => .link target

/-- The entries of a directory without one name. -/
def removeEntry (files : FileSystem) (directory : Nat) (name : String) : FileSystem :=
  match files.content? directory with
  | some (.directory parent entries) =>
    files.setContent directory (.directory parent (entries.filter (·.1 ≠ name)))
  | _ => files

/-- The directory and the name that a path ends with, if the path leads to an entry. -/
def entryOf? (files : FileSystem) (path : String) : Option (Nat × String × Nat) :=
  match (components path).reverse, files.resolve false path with
  | name :: outer, .ok inode =>
    let start := if isAbsolute path then 0 else files.current
    match files.walk true linkLimit start outer.reverse with
    | .ok (.found directory) => some (directory, name, inode)
    | _ => none
  | _, _ => none

/-- Remove an entry that is not a directory: whether there was one. -/
def unlink (files : FileSystem) (path : String) : Bool × FileSystem :=
  match files.entryOf? path with
  | none => (false, files)
  | some (directory, name, inode) =>
    match files.content? inode with
    | some (.directory _ _) | none => (false, files)
    | _ => (true, files.removeEntry directory name)

/-- Open a file for output: it is made if it does not exist and emptied if it does.  The
number of the inode is the answer; a directory is refused. -/
def createFile (files : FileSystem) (path : String) :
    Except SystemError (Nat × FileSystem) :=
  if path.toList.getLast? = some '/' then
    match files.lookup true (trimSlashes path) with
    | .error error => .error error
    | .ok _ => .error (.number .isDirectory)
  else
    match files.lookup true path with
    | .error error => .error error
    | .ok (.absent directory name) =>
      .ok (files.insert directory name ⟨files.masked 0o666, .file #[]⟩)
    | .ok (.found inode) =>
      match files.content? inode with
      | some (.directory _ _) => .error (.number .isDirectory)
      | some (.file _) => .ok (inode, files.setContent inode (.file #[]))
      | _ => .ok (inode, files)

/-! ## Whole files -/

/-- The bytes of a file, for a reader that takes all of them. -/
def readAll (files : FileSystem) (path : String) : Except SystemError (List UInt8) :=
  match files.resolve true path with
  | .error error => .error error
  | .ok inode =>
    match files.content? inode with
    | some (.file bytes) => .ok bytes.toList
    | some (.directory _ _) => .error (.number .isDirectory)
    | _ => .ok []

def writeFile (files : FileSystem) (inode offset : Nat) (data : List UInt8) : FileSystem :=
  match files.content? inode with
  | some (.file bytes) =>
    if offset = bytes.size then files.setContent inode (.file (bytes ++ data))
    else
      let gap : Array UInt8 := Array.replicate (offset - bytes.size) 0
      let front := (bytes ++ gap).extract 0 offset
      let back := bytes.extract (offset + data.length) bytes.size
      files.setContent inode (.file (front ++ data.toArray ++ back))
  | _ => files

end FileSystem

end BoundedStream
