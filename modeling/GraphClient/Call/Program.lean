import GraphClient.Call.Race

/-!
All calls of a program. They are made one after the other, of any operations and with any clients,
and numbered by one counter that starts again after 2^64 calls; then each takes its steps whenever
it likes. The transports answer a request the same way whoever sends it and whenever that is.
-/

namespace GraphClient

variable {ι : Type} [Domains ι]

/-- A transport whose answer depends on the request and on nothing else. -/
abbrev Responder := HttpRequest → Except TransportError HttpResponse

/-- A call with the client that made it, and the cancels that were begun. -/
structure Issued (ι : Type) [Domains ι] where
  {Data : Type}
  client : Client ι Responder
  race : Race ι Data

structure Making (ι : Type) [Domains ι] where
  {Data : Type}
  client : Client ι Responder
  operation : Operation ι Data
  adapted : Bool

inductive Deed where
  | next
  | answered
  | noticed
  | crashed
  | newCancel
  | cancel (n : Nat)

inductive Act (ι : Type) [Domains ι] where
  | create (m : Making ι)
  | duplicate (i : Nat)
  | step (i : Nat) (d : Deed)

/-- The calls made so far, in that order, and the number that the next one gets. -/
structure Program (ι : Type) [Domains ι] where
  calls : List (Issued ι) := []
  nextId : UInt64 := 1

namespace Making

def issue (m : Making ι) (id : Nat) : Issued ι where
  client := m.client
  race := .start <|
    if m.adapted then (Call.fresh id m.operation).markAdapted else .fresh id m.operation

end Making

namespace Issued

def id (c : Issued ι) : Nat := c.race.call.id

/-- The turn that a deed is. The answer is that to the request sent last. -/
def turn? (c : Issued ι) : Deed → Option Turn
  | .next => some (.execution .next)
  | .answered =>
    c.race.call.sent.getLast?.map fun q => .execution (.answered (c.client.transport q))
  | .noticed => some (.execution .noticed)
  | .crashed => some (.execution .crashed)
  | .newCancel => some .newCancel
  | .cancel n => some (.cancel n)

def step (c : Issued ι) (d : Deed) : Option (Issued ι) :=
  (c.turn? d).bind fun t => (c.race.step c.client t).map fun race => { c with race }

/-- Deeds one after the other, if all of them can be done. -/
def run (c : Issued ι) : List Deed → Option (Issued ι)
  | [] => some c
  | d :: rest => (c.step d).bind fun c => c.run rest

/-- A new call for the operation of this one, under another number. -/
def duplicate (c : Issued ι) (id : Nat) : Issued ι :=
  { c with race := .start (c.race.call.duplicate id) }

theorem run_append (c : Issued ι) (ds es : List Deed) :
    c.run (ds ++ es) = (c.run ds).bind fun c => c.run es := by
  induction ds generalizing c with
  | nil => rfl
  | cons d ds ih => cases h : c.step d <;> simp [run, h, ih]

end Issued

namespace Program

/-- A program that has made no call; other programs may have used numbers before. -/
def start (nextId : UInt64) : Program ι := { nextId }

/-- Adds a call under the next number. The counter starts again when it has run through. -/
def add (p : Program ι) (issue : Nat → Issued ι) : Program ι where
  calls := p.calls ++ [issue p.nextId.toNat]
  nextId := p.nextId + 1

def step (p : Program ι) : Act ι → Option (Program ι)
  | .create m => some (p.add m.issue)
  | .duplicate i => p.calls[i]?.bind fun c =>
    match c.race.call.execution with
    | .idle => some (p.add c.duplicate)
    | _ => none
  | .step i d => p.calls[i]?.bind fun c =>
    (c.step d).map fun c => { p with calls := p.calls.set i c }

/-- Acts one after the other, if all of them can be done. -/
def run (p : Program ι) : List (Act ι) → Option (Program ι)
  | [] => some p
  | a :: rest => (p.step a).bind fun p => p.run rest

/-- A program can be stopped anywhere and go on from there. -/
theorem run_append (p : Program ι) (as bs : List (Act ι)) :
    p.run (as ++ bs) = (p.run as).bind fun p => p.run bs := by
  induction as generalizing p with
  | nil => rfl
  | cons a as ih => cases h : p.step a <;> simp [run, h, ih]

end Program

end GraphClient
