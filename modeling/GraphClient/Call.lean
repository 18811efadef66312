import GraphClient.Exchange
import GraphClient.Call.Lifecycle
import GraphClient.Text.Outline

/-!
Calls: one use of an operation with a client. A call is executed at most once, in steps of which
each touches the shared lifecycle at most once, so that steps of cancels can come between any two.
A cancel counts as soon as it has taken the sender; whatever the exchange comes to after that, the
result is that the call was canceled.
-/

namespace GraphClient

variable {ι : Type} [Domains ι] {τ D : Type}

/-- How far the execution of a call has come. From `choosing` on the exchange is over; then it has
been chosen over a cancel, and then the sender is taken away and the final phase entered. -/
inductive Execution (D : Type) where
  | idle
  | starting
  | sending
  | awaiting
  | choosing (r : CallResult D)
  | settling (r : CallResult D)
  | closing (r : CallResult D)
  | done (r : CallResult D)
  | crashed

inductive Event where
  | next
  | answered (outcome : Except TransportError HttpResponse)
  | noticed
  | crashed

structure Call (ι : Type) [Domains ι] (D : Type) where
  id : Nat
  operation : Operation ι D
  lifecycle : Lifecycle := .fresh
  execution : Execution D := .idle
  sent : List HttpRequest := []

namespace Call

def fresh (id : Nat) (operation : Operation ι D) : Call ι D := { id, operation }

/-- A call of the same operation that nothing has happened to. -/
def duplicate (c : Call ι D) (id : Nat) : Call ι D := fresh id c.operation

def phase (c : Call ι D) : Phase := c.lifecycle.phase

def isPending (c : Call ι D) : Bool := c.lifecycle.isPending

def markAdapted (c : Call ι D) : Call ι D :=
  { c with lifecycle := c.lifecycle.advance .created .adapted }

def cancel (c : Call ι D) : Bool × Call ι D :=
  let (won, lifecycle) := c.lifecycle.cancel
  (won, { c with lifecycle })

/-- The lifecycle after the result of a call is certain. -/
def close (l : Lifecycle) : CallResult D → Lifecycle
  | .ok _ => l.advance .executing .completed
  | .error .canceled => l.enter .canceled
  | .error _ => l.advance .executing .failed

/-- One step of the execution, if the event can meet it there. -/
def step (client : Client ι τ) (c : Call ι D) : Event → Option (Call ι D)
  | .next => match c.execution with
    | .idle =>
      if c.phase = .canceled then some { c with execution := .done (.error .canceled) }
      else some { c with execution := .starting }
    | .starting =>
      some { c with lifecycle := c.lifecycle.enter .executing, execution := .sending }
    | .sending => match Exchange.request client c.operation with
      | .error why => some { c with execution := .choosing (.error (.encode why)) }
      | .ok r => some { c with execution := .awaiting, sent := c.sent ++ [r] }
    | .choosing r => some { c with execution := .settling r }
    | .settling r =>
      let r := if c.lifecycle.armed then r else .error .canceled
      some { c with lifecycle := c.lifecycle.disarm, execution := .closing r }
    | .closing r => some { c with lifecycle := close c.lifecycle r, execution := .done r }
    | .awaiting | .done _ | .crashed => none
  | .answered outcome => match c.execution with
    | .awaiting =>
      some { c with execution := .choosing (Exchange.answer client.codec c.operation outcome) }
    | _ => none
  | .noticed => match c.execution with
    | .sending | .awaiting | .choosing _ =>
      if c.lifecycle.signaled then some { c with execution := .settling (.error .canceled) }
      else none
    | _ => none
  | .crashed => match c.execution with
    | .sending | .awaiting => some { c with execution := .crashed }
    | _ => none

/-- Takes a step if the event can meet the execution. -/
def meet (client : Client ι τ) (e : Event) (c : Call ι D) : Call ι D := (c.step client e).getD c

/-- Takes all steps that need nothing from outside. There are never more than six in a row: an
execution that does not get as far as the transport has the most. -/
def advance (client : Client ι τ) (c : Call ι D) : Call ι D :=
  Nat.repeat (meet client .next) 6 c

def result? (c : Call ι D) : Option (CallResult D) :=
  match c.execution with
  | .done r => some r
  | _ => none

/-- The execution is over, with a result or without. -/
def isOver (c : Call ι D) : Bool :=
  match c.execution with
  | .done _ | .crashed => true
  | _ => false

def idOutline (c : Call ι D) : String := Outline.tuple "CallId" [toString c.id]

def handleOutline (c : Call ι D) : String :=
  Outline.record "CallHandle" [("id", c.idOutline), ("state", c.phase.name)]

def outline (client : Client ι τ) (c : Call ι D) : String :=
  Outline.record "RawCall"
    [("id", c.idOutline),
     ("state", c.phase.name),
     ("operation", Outline.text c.operation.name),
     ("endpoint", Outline.text client.endpoint.text)]

/-- The call as one that runs in the background. -/
def spawnedOutline (c : Call ι D) : String :=
  Outline.record "SpawnedCall"
    [("handle", c.handleOutline), ("finished", Outline.truth c.isOver)]

end Call

end GraphClient
