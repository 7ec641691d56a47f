import BoundedStream.CommandLine.Run
import BoundedStream.CommandLine.Surroundings

/-!
# Command line program

The outermost layer: it fetches the files that the command line names, runs the command
line on a host with these files, and hands on what the run left behind.
-/

open BoundedStream

/-- Place a file of the system into a host, if it can be read. -/
def fetch (host : Host) (path : String) : IO Host := do
  try
    let bytes ← IO.FS.readBinFile path
    pure (host.placeBelow path (.file bytes.toList))
  catch _ => pure host

def surroundings (invocation : Invocation) : IO Host := do
  let direct ← invocation.directPaths.foldlM fetch Host.fresh
  (invocation.configuredPath? direct).toList.foldlM fetch direct

/-- Write the output file of a command line, if the run made one. -/
def deliver (host : Host) (path : String) : IO Unit := do
  match host.files.readAll path with
  | .ok bytes => IO.FS.writeBinFile path ⟨bytes.toArray⟩
  | .error _ => pure ()

def handOn (result : RunResult) : IO UInt32 := do
  let output ← IO.getStdout
  output.write ⟨result.output.toArray⟩
  output.flush
  (result.log ++ result.complaints).forM fun line => IO.eprintln line
  pure result.code.toUInt32

def main (arguments : List String) : IO UInt32 := do
  match CommandLine.parse arguments with
  | .error error => handOn (.ofUsage error)
  | .ok invocation =>
    let host ← surroundings invocation
    let input ←
      if invocation.readsStandardInput then (← IO.getStdin).readBinToEnd
      else pure ByteArray.empty
    let (results, host) := Machine.runAll host [⟨arguments, input.toList, none⟩]
    invocation.output?.forM (deliver host)
    handOn (results.headD default)
