import BoundedStream.Program
import BoundedStream.Transport

/-!
# Parties

A party runs a program on a host: it answers the requests of the program.  A transfer
through the endpoint takes many steps, between which other parties take theirs; every
other request is answered in one step.  A party crashes when its program asks for
something that its ring could never serve, for a region whose ring has no end that is an
address, or for a buffer greater than any object.
-/

namespace BoundedStream

/-- A program that is being run. -/
structure Party where
  program : Program
  /-- The endpoint, once open. -/
  transport : Option Transport
  /-- What the standard input still has. -/
  standardInput : List UInt8
  /-- What was written to the standard output. -/
  standardOutput : List UInt8
  /-- The input, if it is a file. -/
  input : Option OpenFile
  /-- The output, if it is a file. -/
  output : Option OpenFile
  /-- The transfer in progress. -/
  call : Option Call
  /-- Why it crashed. -/
  crash : Option String

namespace Party

def start (program : Program) (transport : Option Transport)
    (standardInput : List UInt8) : Party :=
  ⟨program, transport, standardInput, [], none, none, none, none⟩

def produce (config : Config) (input : Option String) (chunk : Nat)
    (standardInput : List UInt8) : Party :=
  start (.produce (.start config input chunk)) none standardInput

def consume (config : Config) (output : Option String) (limit : Option Nat)
    (chunk : Nat) : Party :=
  start (.consume (.start config output limit chunk)) none []

/-- The result of a party whose program has finished. -/
def result? (party : Party) : Option ProgramResult := party.program.result?

def hasEnded (party : Party) : Bool :=
  party.crash.isSome || party.result?.isSome

/-- Whether the program of a party is about to pause. -/
def isPausing (party : Party) : Bool :=
  match party.program.turn with
  | .ask .pause _ => true
  | _ => false

/-- Whether the program of a party only looks at things. -/
def isObserving (party : Party) : Bool :=
  match party.program.turn with
  | .ask .countPending _ | .ask .countReferences _ => true
  | _ => false

def goOn (party : Party) (program : Program) : Party :=
  { party with program, call := none }

/-! ## Transfers -/

/-- What a transfer came to, if the program was waiting for it. -/
inductive Settled (Answer : Type) where
  | answer (answer : Answer)
  | crash (text : String)

def settleSend (data : List UInt8) :
    TransportOutcome → Settled (Except StreamError (Fin (data.length + 1)))
  | .sent count => .answer (.ok (Fin.ofNat (data.length + 1) count))
  | .failed error => .answer (.error error)
  | .rejected text => .crash text
  | _ => .answer (.ok 0)

def settleReceive (length : Nat) :
    TransportOutcome → Settled (Except StreamError (Chunk length))
  | .received bytes => .answer (.ok (.ofList length bytes))
  | .failed error => .answer (.error error)
  | .rejected text => .crash text
  | _ => .answer (.ok (.ofList length []))

/-- The answer to a program that counted the bytes held. -/
def settlePending :
    TransportOutcome → Settled (Except StreamError (Option Nat))
  | .pending count => .answer (.ok (some count))
  | .failed error => .answer (.error error)
  | .rejected text => .crash text
  | _ => .answer (.ok none)

/-- Go on with a transfer: begin it, take one step of it, or answer the program.  No
transfer is needed when there is no call for the request. -/
def pursue {Answer : Type} (host : Host) (party : Party)
    (begin? : Transport → Option Call) (idle : Answer)
    (settle : TransportOutcome → Settled Answer) (resume : Answer → Program) :
    Option (Host × Party) :=
  match party.call, party.transport with
  | _, none => none
  | none, some transport =>
    match begin? transport with
    | none => some (host, party.goOn (resume idle))
    | some call => some (host, { party with call := some call })
  | some call, some _ =>
    match call.outcome? with
    | none =>
      (call.step host).map fun (host, call) => (host, { party with call := some call })
    | some outcome =>
      match settle outcome.onTransport with
      | .answer answer => some (host, party.goOn (resume answer))
      | .crash text => some (host, { party with call := none, crash := some text })

/-! ## Files -/

def openInput (host : Host) (party : Party) :
    Option String → Except SystemError Unit × Party
  | none => (.ok (), party)
  | some path =>
    match host.files.resolve true path with
    | .error error => (.error error, party)
    | .ok inode => (.ok (), { party with input := some (.forRole inode false) })

/-- Read up to so many bytes of input, unless it has to be waited for. -/
def readInput (host : Host) (party : Party) (length : Nat) :
    Option (Except SystemError (Chunk length) × Host × Party) :=
  match party.input with
  | none =>
    let rest := party.standardInput.drop length
    some (.ok (.ofList length party.standardInput), host,
      { party with standardInput := rest })
  | some file =>
    match file.read host.files length with
    | .blocked => none
    | .failed errno => some (.error (.number errno), host, party)
    | .done (bytes, files, file) =>
      some (.ok (.ofList length bytes), host.withFiles files,
        { party with input := some file })

def createOutput (host : Host) (party : Party) :
    Option String → Except SystemError Unit × Host × Party
  | none => (.ok (), host, party)
  | some path =>
    match host.files.createFile path with
    | .error error => (.error error, host, party)
    | .ok (inode, files) =>
      (.ok (), host.withFiles files, { party with output := some (.forRole inode true) })

/-- Write data to the output, unless it has to be waited for. -/
def writeOutput (host : Host) (party : Party) (data : List UInt8) :
    Option (Except SystemError Unit × Host × Party) :=
  match party.output with
  | none =>
    some (.ok (), host,
      { party with standardOutput := party.standardOutput ++ data })
  | some file =>
    match file.write host.files (.start data) with
    | .blocked => none
    | .failed errno => some (.error (.number errno), host, party)
    | .done (_, _, files, file) =>
      some (.ok (), host.withFiles files, { party with output := some file })

/-! ## Steps -/

/-- Open the endpoint: the answer is the capacity of its ring. -/
def connect (host : Host) (party : Party) (config : Config) (role : Role) :
    Settled (Except StreamError (Option Nat)) × Host × Party :=
  match Transport.connect host config role with
  | (.error (.error error), host) => (.answer (.error error), host, party)
  | (.error (.crash text), host) => (.crash text, host, party)
  | (.ok transport, host) =>
    (.answer (.ok (transport.capacity? host)), host,
      { party with transport := some transport })

def disconnect (host : Host) (party : Party) : Host × Party :=
  match party.transport with
  | none => (host, party)
  | some transport => (transport.close host, { party with transport := none })

/-- What the request for a buffer crashes with that is greater than any object. -/
def unallocatable : String := "capacity overflow"

/-- Take a buffer.  A crash gives the endpoint up on its way out. -/
def allocate (host : Host) (party : Party) (length : Nat) : Settled Unit × Host × Party :=
  if length ≤ GuardedRing.greatestSize then (.answer (), host, party)
  else (.crash unallocatable, party.disconnect host)

/-- Go on with the answer to a request, or crash. -/
def proceed {Answer : Type} (resume : Answer → Program) :
    Settled Answer × Host × Party → Host × Party
  | (.answer answer, host, party) => (host, party.goOn (resume answer))
  | (.crash text, host, party) => (host, { party with call := none, crash := some text })

/-- The number of handles of the region of the endpoint. -/
def references? (host : Host) (party : Party) : Option Int32 :=
  party.transport.bind fun transport => transport.references? host

/-- Answer a request of the program, unless the answer has to be waited for. -/
def serve (host : Host) (party : Party) :
    (request : ProgramRequest) → (ProgramReply request → Program) →
      Option (Host × Party)
  | .openInput path, resume =>
    let (reply, party) := party.openInput host path
    some (host, party.goOn (resume reply))
  | .readInput length, resume =>
    (party.readInput host length).map fun (reply, host, party) =>
      (host, party.goOn (resume reply))
  | .connect config role, resume => some (proceed resume (party.connect host config role))
  | .allocate length, resume => some (proceed resume (party.allocate host length))
  | .send data, resume =>
    party.pursue host (fun transport => transport.produceCall? data) (.ok 0)
      (settleSend data) resume
  | .receive length, resume =>
    party.pursue host (fun transport => transport.consumeCall? length)
      (.ok (.ofList length [])) (settleReceive length) resume
  | .countPending, resume =>
    party.pursue host Transport.pendingCall? (.ok none) settlePending resume
  | .countReferences, resume =>
    some (host, party.goOn (resume (party.references? host)))
  | .createOutput path, resume =>
    let (reply, host, party) := party.createOutput host path
    some (host, party.goOn (resume reply))
  | .writeOutput data, resume =>
    (party.writeOutput host data).map fun (reply, host, party) =>
      (host, party.goOn (resume reply))
  | .flushOutput, resume => some (host, party.goOn (resume (.ok ())))
  | .pause, resume => some (host, party.goOn (resume ()))
  | .disconnect, resume =>
    let (host, party) := party.disconnect host
    some (host, party.goOn (resume ()))

def step (host : Host) (party : Party) : Option (Host × Party) :=
  match party.crash, party.program.turn with
  | none, .ask request resume => party.serve host request resume
  | _, _ => none

end Party

end BoundedStream
