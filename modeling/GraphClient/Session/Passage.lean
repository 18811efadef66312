import GraphClient.Call.Race
import GraphClient.Session

/-!
Passages: one call on its way back to the caller, move by move. Whatever the caller has of the call,
somebody polls its one execution, which works while it is polled and is put aside while it waits for
the transport. The result goes to the caller at once, or is kept until the caller fetches it.
Cancels can come between any two moves.
-/

namespace GraphClient

variable {ι : Type} [Domains ι] {τ D : Type}

/-- The way on which the result of a call gets to its caller. The execution of a call that is
spawned, enqueued or handed over is run by a task; a raw call waits for a decision. -/
inductive Route where
  | raw
  | future
  | stream
  | spawned
  | enqueued
  | blocked
  | handedOver
  deriving DecidableEq, Repr

namespace Route

/-- The result is kept until the caller fetches it. -/
def keeps : Route → Bool
  | spawned | handedOver => true
  | raw | future | stream | enqueued | blocked => false

/-- Nothing happens until the caller asks for it. -/
def isLazy : Route → Bool
  | raw | future | stream => true
  | spawned | enqueued | blocked | handedOver => false

end Route

/-- The route on which a call starts. Only where the caller is on the one thread of an executor,
waiting for a result needs another executor. -/
def Delivery.route : Delivery → Surroundings → Route
  | raw, _ => .raw
  | future, _ => .future
  | stream, _ => .stream
  | spawn, _ => .spawned
  | blocking, .none | blocking, .multiThread => .blocked
  | blocking, .singleThread => .handedOver

/-- What is being done with an execution. It is put aside while it waits for the transport, and not
polled again when it has given its result. -/
inductive Driver where
  | untouched
  | polling
  | suspended
  | finished
  deriving DecidableEq, Repr

structure Passage (ι : Type) [Domains ι] (D : Type) where
  route : Route
  race : Race ι D
  driver : Driver := .untouched
  kept : Option (CallResult D) := none
  given : List (CallResult D) := []
  ended : Bool := false

inductive Move where
  | begin
  | enqueue
  | poll
  | work (e : Event)
  | suspend
  | finish
  | fetch
  | newCancel
  | cancel (i : Nat)

/-- The turn of the call's race that the move is, if it is one. -/
def Move.turn? : Move → Option Turn
  | work e => some (.execution e)
  | newCancel => some .newCancel
  | cancel i => some (.cancel i)
  | begin | enqueue | poll | suspend | finish | fetch => none

namespace Passage

/-- The passage of a call that nobody has polled or tried to cancel. -/
def start (route : Route) (call : Call ι D) : Passage ι D := { route, race := .start call }

/-- A call that was just made, with its route and its phase: it is adapted to the route of its
client, or handed out as it is. -/
inductive Begins (delivery : Delivery) (surroundings : Surroundings) :
    Route → Phase → Call ι D → Prop where
  | adapted (id : Nat) (op : Operation ι D) :
    Begins delivery surroundings (delivery.route surroundings) .adapted
      (Call.fresh id op).markAdapted
  | raw (id : Nat) (op : Operation ι D) : Begins delivery surroundings .raw .created (.fresh id op)

/-- The result arrives at the end of the route, or where it is kept. -/
def receive (p : Passage ι D) (res : CallResult D) : Passage ι D :=
  if p.route.keeps then { p with kept := some res } else { p with given := p.given ++ [res] }

/-- One move, if it can be made. Nothing dies on the way. -/
def step (client : Client ι τ) (p : Passage ι D) : Move → Option (Passage ι D)
  | .begin => if p.route = .raw then some { p with route := .future } else none
  | .enqueue => if p.route = .raw then some { p with route := .enqueued } else none
  | .poll => match p.driver with
    | .untouched | .suspended =>
      if p.route = .raw then none else some { p with driver := .polling }
    | .finished => if p.route = .stream then some { p with ended := true } else none
    | .polling => none
  | .work e => match p.driver, e with
    | .polling, .crashed => none
    | .polling, e => (p.race.step client (.execution e)).map fun race => { p with race }
    | _, _ => none
  | .suspend => match p.driver, p.race.call.execution with
    | .polling, .awaiting => some { p with driver := .suspended }
    | _, _ => none
  | .finish => match p.driver, p.race.call.result? with
    | .polling, some res => some { p.receive res with driver := .finished }
    | _, _ => none
  | .fetch => p.kept.map fun res => { p with kept := none, given := p.given ++ [res] }
  | .newCancel => (p.race.step client .newCancel).map fun race => { p with race }
  | .cancel i => (p.race.step client (.cancel i)).map fun race => { p with race }

/-- Moves one after the other, if all of them can be made. -/
def run (client : Client ι τ) (p : Passage ι D) : List Move → Option (Passage ι D)
  | [] => some p
  | m :: rest => (p.step client m).bind fun p => p.run client rest

@[simp] theorem run_nil (client : Client ι τ) (p : Passage ι D) : p.run client [] = some p := rfl

@[simp] theorem run_cons (client : Client ι τ) (p : Passage ι D) (m : Move) (rest : List Move) :
    p.run client (m :: rest) = (p.step client m).bind fun p => p.run client rest := rfl

/-- Passages can be looked at move by move, or from one point to another. -/
theorem run_append (client : Client ι τ) (p : Passage ι D) (ms ns : List Move) :
    p.run client (ms ++ ns) = (p.run client ms).bind fun p => p.run client ns := by
  induction ms generalizing p with
  | nil => rfl
  | cons m ms ih => cases h : p.step client m <;> simp [h, ih]

end Passage

end GraphClient
