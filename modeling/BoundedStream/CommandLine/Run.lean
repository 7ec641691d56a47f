import BoundedStream.Command.Settings
import BoundedStream.CommandLine.Parse
import BoundedStream.Party.Schedule
import BoundedStream.Text.Lossy

/-!
# Running command lines

Command lines run one after the other on one host.  Some answer at once; those that
stream become parties, and one that was asked to stay in the background goes on beside
those after it.
-/

namespace BoundedStream

/-- What a run leaves behind. -/
structure RunResult where
  code : Nat
  output : List UInt8
  /-- The lines of complaint. -/
  complaints : List String
  /-- The lines of the log that sum streams up. -/
  log : List String
deriving DecidableEq, Repr, Inhabited

namespace RunResult

def bytesOfLines (lines : List String) : List UInt8 :=
  (String.join (lines.map fun line => line ++ "\n")).toUTF8.toList

def success (lines : List String) : RunResult := ⟨0, bytesOfLines lines, [], []⟩

def failure (complaints : List String) : RunResult := ⟨1, [], complaints, []⟩

def complaint (error : RunError) : String := "Error: " ++ error.structural

def versionLine : String := "conduit 1.0.0"

/-- A run whose command line was refused, or answered itself. -/
def ofUsage : UsageError → RunResult
  | .displayVersion => success [versionLine]
  | .displayHelp => success []
  | _ => ⟨2, [], [], []⟩

def outputText (result : RunResult) : String := Text.ofBytes result.output

/-- The complaint of a party that waits for another one that does not come. -/
def absentPeer : String := "Error: no other party uses the stream"

/-- What a party leaves behind; a crash has a code of its own. -/
def ofParty (party : Party) : RunResult :=
  match party.crash, party.result? with
  | none, some (.reported (.ok report)) =>
    ⟨0, party.standardOutput, [], report.lines⟩
  | none, some (.reported (.error error)) =>
    ⟨1, party.standardOutput, [complaint error], []⟩
  | none, some (.streamed _) => ⟨0, party.standardOutput, [], []⟩
  | some text, _ => ⟨101, party.standardOutput, [text], []⟩
  | none, none => ⟨1, party.standardOutput, [absentPeer], []⟩

end RunResult

/-- A command line to be run. -/
structure CommandRun where
  arguments : List String
  standardInput : List UInt8
  /-- It stays in the background once this path is offered. -/
  background : Option String
deriving Repr, Inhabited

/-- What became of a command line: it has a result, or it is the party of a number. -/
inductive StartedRun where
  | done (result : RunResult)
  | party (number : Nat)

namespace Machine

/-- Start the party of a command whose configuration was found, and let it go on. -/
def launch (machine : Machine) (party : Party) (background : Option String) :
    StartedRun × Machine :=
  let (number, machine) := machine.start party
  match background with
  | none => (.party number, machine.await number)
  | some path => (.party number, machine.awaitOffer path number)

def validate (machine : Machine) (file : String) : RunResult :=
  match Config.loadFile machine.host.files file with
  | .ok config => .success config.settings
  | .error error =>
    .failure ["✗ Configuration validation failed:", "  " ++ error.message]

def removeRegion (machine : Machine) (path : String) : RunResult × Machine :=
  let (result, memory) := machine.host.memory.remove path
  let machine := { machine with host := { machine.host with memory } }
  match result with
  | .ok () => (.success ["✓ Region for " ++ path ++ " marked for removal"], machine)
  | .error error => (.failure [RunResult.complaint (.region error)], machine)

def perform (machine : Machine) (invocation : Invocation) (run : CommandRun) :
    StartedRun × Machine :=
  let resolve (transport : TransportArguments) (role : Role) :=
    transport.resolve machine.host.files invocation.config role
  let refuse (error : CommandError) : StartedRun × Machine :=
    (.done (.failure [RunResult.complaint (.command error)]), machine)
  match invocation.command with
  | .produce transport input chunk =>
    match resolve transport .producer with
    | .error error => refuse error
    | .ok config =>
      machine.launch (.produce config input chunk run.standardInput) run.background
  | .consume transport output limit chunk =>
    match resolve transport .consumer with
    | .error error => refuse error
    | .ok config => machine.launch (.consume config output limit chunk) run.background
  | .validate file => (.done (machine.validate file), machine)
  | .remove path =>
    let (result, machine) := machine.removeRegion path
    (.done result, machine)

def runLine (machine : Machine) (run : CommandRun) : StartedRun × Machine :=
  match CommandLine.parse run.arguments with
  | .error error => (.done (.ofUsage error), machine)
  | .ok invocation => machine.perform invocation run

def runLines (machine : Machine) : List CommandRun → List StartedRun × Machine
  | [] => ([], machine)
  | run :: runs =>
    let (started, machine) := machine.runLine run
    let (others, machine) := machine.runLines runs
    (started :: others, machine)

/-- The result of a run once every party has ended. -/
def resultOf (machine : Machine) : StartedRun → RunResult
  | .done result => result
  | .party number =>
    (machine.parties[number]?).elim default RunResult.ofParty

/-- Run command lines one after the other and wait for those in the background: what each
left behind, and the host. -/
def runAll (host : Host) (runs : List CommandRun) : List RunResult × Host :=
  let (started, machine) := runLines ⟨host, []⟩ runs
  let machine := machine.finish
  (started.map machine.resultOf, machine.host)

end Machine

end BoundedStream
