import GraphClient.Call
import GraphClient.Session.Executor

/-!
Sessions: the calls of one client over a scripted transport, and how they get on. The transport gives
one reply for each request, in the order in which the requests are handed to it, and may have to wait
for a gate to open first. Executions that the caller holds go on when the caller polls them; those in
the background are tasks of an executor, which works while the session settles or the caller waits
for a result. An execution that waits for a gate is woken when the gate opens or when its call is
canceled.
-/

namespace GraphClient

variable {ι : Type} [Domains ι] {D : Type}

structure Reply where
  gate : Option String := none
  effects : SideEffects := {}
  outcome : Except TransportError HttpResponse

namespace Reply

def missing : Reply where
  outcome := .error (.connection "no response configured")

end Reply

/-- The replies that are still to come. -/
abbrev Script := List Reply

namespace Script

/-- The reply to the next request, and what is left. -/
def take : Script → Reply × Script
  | [] => (.missing, [])
  | r :: rest => (r, rest)

end Script

inductive Holding where
  | raw
  | future
  | stream (isOver : Bool)
  | spawned
  | enqueued
  | gone
  deriving DecidableEq, Repr

def Holding.name : Holding → String
  | raw => "raw"
  | future => "future"
  | stream _ => "stream"
  | spawned => "spawned"
  | enqueued => "enqueued"
  | gone => "gone"

/-- Where the caller of a session is: this decides who runs a call that the caller waits for. -/
inductive Surroundings where
  | none
  | singleThread
  | multiThread
  deriving DecidableEq, Repr

/-- A channel for one result, between the task that a call was handed over to and the thread of the
caller. -/
inductive Channel (D : Type) where
  | empty
  | sent (r : CallResult D)
  -- the sender is gone and has sent nothing
  | closed

namespace Channel

/-- The task sends what its call has come to. If it dies, the sender goes with it. -/
def send (channel : Channel D) (c : Call ι D) : Channel D :=
  match c.execution with
  | .done r => sent r
  | .crashed => closed
  | _ => channel

/-- What the receiver gets, unless it still has to wait. -/
def receive? : Channel D → Option (CallResult D)
  | empty => none
  | sent r => some r
  | closed => some (.error (.task "call task dropped its result"))

end Channel

structure Slot (ι : Type) [Domains ι] (D : Type) where
  call : Call ι D
  holding : Holding
  hasHandle : Bool
  background : Bool := false
  -- what the transport has been given to say
  reply : Option Reply := none
  channel : Option (Channel D) := none

inductive Delivered (D : Type) where
  | pending
  | notStarted
  | gone
  | ended
  | result (r : CallResult D)
  | results (rs : List (CallResult D))
  | callbackDropped

structure Session (ι : Type) [Domains ι] (D : Type) where
  client : Client ι Script
  surroundings : Surroundings := .singleThread
  slots : List (Slot ι D) := []
  script : Script
  sent : List HttpRequest := []
  openGates : List String := []
  -- the calls that wait for a gate, in the order they came to it
  waiting : List Nat := []
  executor : Executor := {}

namespace Session

def start (client : Client ι Script) (surroundings : Surroundings) : Session ι D where
  client := client
  surroundings := surroundings
  script := client.transport

def slot? (s : Session ι D) (i : Nat) : Option (Slot ι D) := s.slots[i]?

def put (s : Session ι D) (i : Nat) (slot : Slot ι D) : Session ι D :=
  { s with slots := s.slots.set i slot }

def hold (s : Session ι D) (i : Nat) (h : Holding) : Session ι D :=
  { s with slots := s.slots.modify i fun slot => { slot with holding := h } }

/-- Lets a call in the background go on that waits for the transport. -/
def wake (s : Session ι D) (w : Waker) (i : Nat) : Session ι D :=
  match s.slot? i with
  | some slot => match slot.call.execution with
    | .awaiting => if slot.background then { s with executor := s.executor.wake w i } else s
    | _ => s
  | none => s

/-- Cancels a call through its handle, if there is one. -/
def cancel? (s : Session ι D) (w : Waker) (i : Nat) : Option (Bool × Session ι D) := do
  let slot ← s.slot? i
  if slot.hasHandle then
    let (won, call) := slot.call.cancel
    let s := s.put i { slot with call }
    return (won, if won then s.wake w i else s)
  else none

/-- Cancels calls in turn; those without a handle are passed over. -/
def cancelAll (s : Session ι D) (w : Waker) : List Nat → Session ι D
  | [] => s
  | i :: rest =>
    match s.cancel? w i with
    | some (_, s) => s.cancelAll w rest
    | none => s.cancelAll w rest

/-- What the mapper of an operation does besides mapping, if the response makes it map. -/
def mapperEffects (s : Session ι D) (op : Operation ι D)
    (outcome : Except TransportError HttpResponse) : SideEffects :=
  match Exchange.envelope s.client.codec outcome with
  | .ok e => if e.data?.isSome then op.mapper.effects else {}
  | .error _ => {}

/-- Lets an event meet the execution of a call, which then goes on as far as it can. -/
def feed (s : Session ι D) (i : Nat) (e : Event) : Session ι D :=
  { s with slots := s.slots.modify i fun slot =>
      { slot with call := (slot.call.meet s.client e).advance s.client } }

/-- The transport comes back to a call; on the way, it and the mapper take effect. -/
def deliver (s : Session ι D) (w : Waker) (i : Nat) (op : Operation ι D) (reply : Reply) :
    Session ι D :=
  let s := s.cancelAll w reply.effects.cancels
  if reply.effects.crashes then s.feed i .crashed
  else
    let effects := s.mapperEffects op reply.outcome
    let s := s.cancelAll w effects.cancels
    if effects.crashes then s.feed i .crashed else s.feed i (.answered reply.outcome)

/-- Polls an execution that waits for the transport. A cancel is noticed first. -/
def resume (s : Session ι D) (w : Waker) (i : Nat) (slot : Slot ι D) (reply : Reply) :
    Session ι D :=
  if slot.call.lifecycle.signaled then s.feed i .noticed
  else if reply.gate.all s.openGates.contains then s.deliver w i slot.call.operation reply
  else if i ∈ s.waiting then s
  else { s with waiting := s.waiting ++ [i] }

/-- Polls the execution of a call. What it makes ready on the way is made ready by `w`. -/
def drive (s : Session ι D) (w : Waker) (i : Nat) : Session ι D :=
  match s.slot? i with
  | none => s
  | some slot =>
    match slot.call.execution, slot.reply with
    | .awaiting, some reply => s.resume w i slot reply
    | .idle, _ =>
      let call := slot.call.advance s.client
      match call.execution with
      | .awaiting =>
        let (reply, script) := s.script.take
        let slot := { slot with call, reply := some reply }
        { s.put i slot with script, sent := s.sent ++ call.sent }.resume w i slot reply
      | _ => s.put i { slot with call }
    | _, _ => s

/-- A round of the executor: turns of tasks, up to the given number of them or to one that finds no
task. -/
def round : Nat → Session ι D → Session ι D
  | 0, s => s
  | n + 1, s =>
    match s.executor.next with
    | (none, executor) => { s with executor }
    | (some i, executor) => round n ({ s with executor }.drive (.task i) i)

/-- Rounds until the caller has what it waits for, as long as there are tasks that can go on, and no
more than the given number of them. -/
def roundsUntil (isOver : Session ι D → Bool) : Nat → Session ι D → Session ι D
  | 0, s => s
  | n + 1, s =>
    if isOver s || s.executor.isIdle then s
    else roundsUntil isOver n (s.round Executor.roundLength)

/-- The caller waits, and the executor works meanwhile. In every round a task gets a turn, and while
they run, a call can become ready only by being canceled, and so only once. -/
def waitUntil (isOver : Session ι D → Bool) (s : Session ι D) : Session ι D :=
  s.roundsUntil isOver (s.executor.load + s.slots.length + 1)

/-- How many rounds the executor gets when the session settles. -/
def settlingRounds : Nat := 64

/-- Lets the executor work off the tasks that can go on. -/
def settle (s : Session ι D) : Session ι D :=
  Nat.repeat (round Executor.roundLength) settlingRounds s

def add (s : Session ι D) (slot : Slot ι D) : Nat × Session ι D :=
  (s.slots.length, { s with slots := s.slots ++ [slot] })

/-- The id of the next call: calls are counted from one. -/
def nextId (s : Session ι D) : Nat := s.slots.length + 1

/-- Makes a call the caller can do with what it likes. -/
def rawCall (s : Session ι D) (op : Operation ι D) : Nat × Session ι D :=
  s.add { call := .fresh s.nextId op, holding := .raw, hasHandle := true }

/-- A task of the shared executor polls a call that was handed over, and then sends the result. -/
def runHandedOver (s : Session ι D) (i : Nat) : Session ι D :=
  let s := s.drive .outside i
  { s with slots := s.slots.modify i fun slot =>
      { slot with channel := slot.channel.map (·.send slot.call) } }

/-- Runs a new call while the thread of the caller waits for its result: on this thread, or, where
it is the only one of its executor, on a thread of the shared executor. -/
def block (s : Session ι D) (call : Call ι D) : Nat × Session ι D :=
  match s.surroundings with
  | .none | .multiThread =>
    let (i, s) := s.add { call, holding := .gone, hasHandle := false }
    (i, s.drive .outside i)
  | .singleThread =>
    let (i, s) := s.add { call, holding := .gone, hasHandle := false, channel := some .empty }
    (i, s.runHandedOver i)

/-- Makes a call and hands it to the caller in the form of the client's delivery. -/
def newCall (s : Session ι D) (op : Operation ι D) : Nat × Session ι D :=
  let call := (Call.fresh s.nextId op).markAdapted
  match s.client.delivery with
  | .raw => s.add { call, holding := .raw, hasHandle := true }
  | .future => s.add { call, holding := .future, hasHandle := false }
  | .stream => s.add { call, holding := .stream false, hasHandle := false }
  | .spawn =>
    let (i, s) := s.add { call, holding := .spawned, hasHandle := true, background := true }
    (i, { s with executor := s.executor.spawn i })
  | .blocking => s.block call

/-- Makes a fresh call of the operation of a raw call. -/
def duplicate? (s : Session ι D) (i : Nat) : Option (Nat × Session ι D) := do
  let slot ← s.slot? i
  if slot.holding = .raw then
    s.add { call := slot.call.duplicate s.nextId, holding := .raw, hasHandle := true }
  else none

def begin? (s : Session ι D) (i : Nat) : Option (Session ι D) := do
  let slot ← s.slot? i
  if slot.holding = .raw then s.hold i .future else none

/-- Hands a raw call to the background, which will call back with the result. -/
def enqueue? (s : Session ι D) (i : Nat) : Option (Session ι D) := do
  let slot ← s.slot? i
  if slot.holding = .raw then
    let s := s.put i { slot with holding := .enqueued, background := true }
    return { s with executor := s.executor.spawn i }
  else none

/-- The caller drops what it has of a call. In the background the call goes on. -/
def drop (s : Session ι D) (i : Nat) : Session ι D := s.hold i .gone

def release (s : Session ι D) (gate : String) : Session ι D :=
  let isAt (i : Nat) : Bool := (s.slot? i).any fun slot => slot.reply.any (·.gate == some gate)
  let s' := { s with openGates := gate :: s.openGates, waiting := s.waiting.filter (!isAt ·) }
  (s.waiting.filter isAt).foldl (wake · .outside ·) s'

/-- What a background task leaves to the caller: the result, or that it died. -/
def Slot.taskResult? (slot : Slot ι D) : Option (Delivered D) :=
  match slot.call.execution, slot.holding with
  | .done r, _ => some (.result r)
  | .crashed, .enqueued => some .callbackDropped
  | .crashed, _ => some (.result (.error (.task "task panicked")))
  | _, _ => none

/-- The result of a call that the caller waited for. One that was handed over is received from its
channel; one that died on the thread of the caller leaves nothing. -/
def blockingResult? (s : Session ι D) (i : Nat) : Option (CallResult D) := do
  let slot ← s.slot? i
  match slot.channel with
  | some channel => channel.receive?
  | none => slot.call.result?

def holding (s : Session ι D) (i : Nat) : Holding :=
  match s.slot? i with
  | some slot => slot.holding
  | none => .gone

def isOver (s : Session ι D) (i : Nat) : Bool := (s.slot? i).any (·.call.isOver)

/-- Looks for the result of a call in the background. -/
def pollTask (s : Session ι D) (i : Nat) : Delivered D × Session ι D :=
  match (s.slot? i).bind Slot.taskResult? with
  | some d => (d, s.hold i .gone)
  | none => (.pending, s)

/-- The result of a call that the caller drives, if it is over. -/
def ownResult? (s : Session ι D) (i : Nat) : Option (CallResult D) :=
  (s.slot? i).bind (·.call.result?)

def poll (s : Session ι D) (i : Nat) : Delivered D × Session ι D :=
  match s.holding i with
  | .gone => (.gone, s)
  | .raw => (.notStarted, s)
  | .stream true => (.ended, s)
  | .spawned | .enqueued => s.pollTask i
  | .future =>
    let s := s.drive .caller i
    match s.ownResult? i with
    | some r => (.result r, s.hold i .gone)
    | none => (.pending, s)
  | .stream false =>
    let s := s.drive .caller i
    match s.ownResult? i with
    | some r => (.result r, s.hold i (.stream true))
    | none => (.pending, s)

/-- Whether a call has been sent the signal of a cancel. -/
def isSignaled (s : Session ι D) (i : Nat) : Bool := (s.slot? i).any (·.call.lifecycle.signaled)

/-- Polls a call of the caller; if it has to wait, the executor works until the call is canceled. -/
def await (s : Session ι D) (i : Nat) : Option (CallResult D) × Session ι D :=
  let s := s.drive .caller i
  match s.ownResult? i with
  | some r => (some r, s)
  | none =>
    let s := (s.waitUntil (·.isSignaled i)).drive .caller i
    (s.ownResult? i, s)

/-- Waits for the result of a call; nothing is left of the call for the caller. -/
def execute (s : Session ι D) (i : Nat) : Delivered D × Session ι D :=
  match s.holding i with
  | .gone => (.gone, s)
  | .stream true => (.results [], s.hold i .gone)
  | .raw | .future =>
    let (r, s) := s.await i
    (match r with | some r => .result r | none => .pending, s.hold i .gone)
  | .stream false =>
    let (r, s) := s.await i
    (match r with | some r => .results [r] | none => .pending, s.hold i .gone)
  | .spawned | .enqueued =>
    let (d, s) := (s.waitUntil (·.isOver i)).pollTask i
    (d, s.hold i .gone)

end Session

end GraphClient
