import BoundedStream.Party

/-!
# Schedules

Parties on one host take turns: each goes on until it pauses, has to wait or has ended.
A party that waits for another one to come starts once the path that both use is
offered: there is a FIFO, or a region with a ring in it.
-/

namespace BoundedStream

/-- Whether a FIFO or a region with a ring in it is there for a path. -/
def Host.offers (host : Host) (path : String) : Bool :=
  Pipe.leadsToFifo host.files path ||
    (host.memory.regionAt? path).any fun region => region.capacity != 0

/-- A host with its parties. -/
structure Machine where
  host : Host
  parties : List Party

namespace Machine

/-- Let a party go on until it pauses, has to wait or has ended: whether it did more
than looking at things, and what became of it. -/
def advance : Nat → Host → Party → Bool → Bool × Host × Party
  | 0, host, party, moved => (moved, host, party)
  | fuel + 1, host, party, moved =>
    match party.step host with
    | none => (moved, host, party)
    | some (next, later) =>
      if party.isPausing then (moved, next, later)
      else advance fuel next later (moved || !party.isObserving)

/-- More steps than any party takes before it pauses, waits or ends. -/
def patience : Nat := 1 <<< 40

def round (host : Host) : List Party → Bool × Host × List Party
  | [] => (false, host, [])
  | party :: parties =>
    let (moved, host, party) := advance patience host party false
    let (movedLater, host, parties) := round host parties
    (moved || movedLater, host, party :: parties)

/-- The number of rounds in a row in which nothing happens after which nothing will. -/
def quietLimit : Nat := 2

/-- Let parties take turns until a condition holds, or until nothing happens any
more. -/
def runFor (stop : Machine → Bool) : Nat → Nat → Machine → Machine
  | 0, _, machine => machine
  | fuel + 1, quiet, machine =>
    if stop machine || quiet = 0 then machine
    else
      let (moved, host, parties) := round machine.host machine.parties
      runFor stop fuel (if moved then quietLimit else quiet - 1) ⟨host, parties⟩

/-- Let parties take turns until a condition holds, or until nothing happens any
more. -/
def run (stop : Machine → Bool) (machine : Machine) : Machine :=
  runFor stop patience quietLimit machine

def isOver (machine : Machine) : Bool := machine.parties.all Party.hasEnded

/-- Whether the party of a number has ended, or there is none. -/
def hasEnded (machine : Machine) (number : Nat) : Bool :=
  machine.parties[number]?.all Party.hasEnded

def start (machine : Machine) (party : Party) : Nat × Machine :=
  (machine.parties.length,
    { machine with parties := machine.parties ++ [party] })

def await (machine : Machine) (number : Nat) : Machine :=
  machine.run fun machine => machine.hasEnded number

/-- Run until a path is offered or the party of a number has ended. -/
def awaitOffer (machine : Machine) (path : String) (number : Nat) : Machine :=
  machine.run fun machine => machine.host.offers path || machine.hasEnded number

def finish (machine : Machine) : Machine := machine.run isOver

def runToEnd (machine : Machine) (party : Party) : Nat × Machine :=
  let (number, machine) := machine.start party
  (number, machine.await number)

/-- Run consumers one after another beside the producer that was started first.  Each
starts once the path is offered or the producer has ended. -/
def serveConsumers (machine : Machine) (path : String) (consumers : List Party) :
    Machine :=
  consumers.foldl
    (fun machine consumer => ((machine.awaitOffer path 0).runToEnd consumer).2) machine

/-- The whole transfer of a stream: the parties in the order in which they started. -/
def transfer (host : Host) (producer : Option (String × Party))
    (consumers : List Party) : Machine :=
  match producer with
  | none => (serveConsumers ⟨host, []⟩ "" consumers).finish
  | some (path, party) => (serveConsumers ⟨host, [party]⟩ path consumers).finish

end Machine

end BoundedStream
