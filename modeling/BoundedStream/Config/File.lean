import BoundedStream.Config.Document
import BoundedStream.FileSystem

/-!
# Configuration files

Reading a configuration from a file, which has to exist and to hold text.
-/

namespace BoundedStream

namespace Config

def loadFile (files : FileSystem) (path : String) : Except StreamError Config :=
  if !files.pathExists path then .error (.configNotFound path)
  else
    match files.readAll path with
    | .error error => .error (.system "reading config file" error)
    | .ok bytes =>
      match String.fromUTF8? ⟨bytes.toArray⟩ with
      | none => .error (.system "reading config file" .notText)
      | some text => loadText text

end Config

end BoundedStream
