import BoundedStream.Program.Request
import Mathlib.Data.List.Induction

/-!
# Dialogues

What a program does depends on what it is answered.  A dialogue lists requests of a program
with their answers, in order.  Every sequence of answers leads to a dialogue, which grows
until the program has finished.
-/

namespace BoundedStream

/-- A request together with its answer. -/
structure Exchange where
  request : ProgramRequest
  reply : ProgramReply request

/-- The error invites another try of the request that it answers. -/
def StreamError.invitesRetry (error : StreamError) : Bool :=
  error.isInterrupted || error.isWouldBlock

namespace Exchange

/-- A transfer was answered with an error that invites another try. -/
def isRetry : Exchange → Bool
  | ⟨.send _, .error error⟩ => error.invitesRetry
  | ⟨.receive _, .error error⟩ => error.invitesRetry
  | _ => false

/-- The bytes that an endpoint took from an offer. -/
def accepted : Exchange → List UInt8
  | ⟨.send data, .ok count⟩ => data.take count.val
  | _ => []

/-- The bytes that an endpoint gave. -/
def received : Exchange → List UInt8
  | ⟨.receive _, .ok data⟩ => data.val
  | _ => []

/-- The bytes that went to an output. -/
def written : Exchange → List UInt8
  | ⟨.writeOutput data, .ok ()⟩ => data
  | _ => []

end Exchange

namespace Turn

variable {State Result : Type} {turn : State → Turn State Result}

/-- From a start, a program comes to a state through a list of exchanges. -/
inductive Dialogue (turn : State → Turn State Result) (start : State) :
    List Exchange → State → Prop
  | nil : Dialogue turn start [] start
  | snoc {exchanges : List Exchange} {state : State} {request : ProgramRequest}
      {resume : ProgramReply request → State} (before : Dialogue turn start exchanges state)
      (asks : turn state = .ask request resume) (reply : ProgramReply request) :
      Dialogue turn start (exchanges ++ [⟨request, reply⟩]) (resume reply)

namespace Dialogue

variable {start middle state : State} {exchanges before after : List Exchange}

theorem append (first : Dialogue turn start before middle)
    (second : Dialogue turn middle after state) :
    Dialogue turn start (before ++ after) state := by
  induction second with
  | nil =>
      rw [List.append_nil]
      exact first
  | snoc _ asks reply hypothesis =>
      rw [← List.append_assoc]
      exact hypothesis.snoc asks reply

/-- Before each exchange of a dialogue stands a shorter one, after which the program made the
request of that exchange. -/
theorem asks_of_split {exchange : Exchange} (dialogue : Dialogue turn start exchanges state)
    (split : exchanges = before ++ exchange :: after) :
    ∃ middle, Dialogue turn start before middle ∧
      ∃ resume, turn middle = .ask exchange.request resume := by
  induction dialogue generalizing after with
  | nil => simp at split
  | @snoc earlier middle request resume dialogue asks reply hypothesis =>
      cases after using List.reverseRecOn with
      | nil =>
          obtain ⟨rfl, same⟩ := List.append_inj' split rfl
          cases same
          exact ⟨middle, dialogue, resume, asks⟩
      | append_singleton after last _ =>
          have whole : earlier ++ [⟨request, reply⟩] = (before ++ exchange :: after) ++ [last] := by
            rw [split, List.append_assoc, List.cons_append]
          exact hypothesis (List.append_inj' whole rfl).1

end Dialogue

/-- The dialogue and the state after so many answers, or fewer once the program has
finished.  The number of an answer is the number of answers before it. -/
def converse (turn : State → Turn State Result)
    (answers : Nat → (request : ProgramRequest) → ProgramReply request) (start : State) :
    Nat → List Exchange × State
  | 0 => ([], start)
  | count + 1 =>
    let earlier := converse turn answers start count
    match turn earlier.2 with
    | .finished _ => earlier
    | .ask request resume =>
      (earlier.1 ++ [⟨request, answers count request⟩], resume (answers count request))

variable (answers : Nat → (request : ProgramRequest) → ProgramReply request) (start : State)

theorem dialogue_converse (count : Nat) :
    Dialogue turn start (converse turn answers start count).1
      (converse turn answers start count).2 := by
  induction count with
  | zero => exact .nil
  | succ count hypothesis =>
      unfold converse
      cases own : turn (converse turn answers start count).2 with
      | finished result => simpa only [own] using hypothesis
      | ask request resume => simpa only [own] using hypothesis.snoc own _

/-- As long as a program has not finished, every answer is part of the dialogue. -/
theorem length_converse (count : Nat)
    (unfinished : (turn (converse turn answers start count).2).result? = none) :
    (converse turn answers start count).1.length = count := by
  induction count with
  | zero => rfl
  | succ count hypothesis =>
      unfold converse at unfinished ⊢
      cases own : turn (converse turn answers start count).2 with
      | finished result =>
          simp only [own] at unfinished
          cases unfinished
      | ask request resume =>
          simp only [own] at hypothesis ⊢
          rw [List.length_append, hypothesis rfl, List.length_singleton]

end Turn

end BoundedStream
