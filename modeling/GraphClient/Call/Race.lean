import GraphClient.Call

/-!
Races: the execution of one call and the cancels that were begun through its handles, taking turns
in any order. A turn is one step of one of them, so that anything can come between two steps. No
fairness is assumed: any of them may stop for good.
-/

namespace GraphClient

variable {ι : Type} [Domains ι] {τ D : Type}

/-- A call, and the cancels that were begun, each as far as it has come. -/
structure Race (ι : Type) [Domains ι] (D : Type) where
  call : Call ι D
  cancels : List Cancel := []

/-- Who takes a step. A call is handed to its caller before anything of its execution. -/
inductive Turn where
  | handOver
  | execution (e : Event)
  | newCancel
  | cancel (i : Nat)

namespace Race

def start (call : Call ι D) : Race ι D := ⟨call, []⟩

def step (client : Client ι τ) (r : Race ι D) : Turn → Option (Race ι D)
  | .handOver => match r.call.execution with
    | .idle => some { r with call := r.call.markAdapted }
    | _ => none
  | .execution e => (r.call.step client e).map fun call => { r with call }
  | .newCancel => some { r with cancels := r.cancels ++ [.taking] }
  | .cancel i => r.cancels[i]?.map fun c =>
    let (c, lifecycle) := c.step r.call.lifecycle
    { call := { r.call with lifecycle }, cancels := r.cancels.set i c }

/-- Turns one after the other, if all of them can be taken. -/
def run (client : Client ι τ) (r : Race ι D) : List Turn → Option (Race ι D)
  | [] => some r
  | t :: rest => (r.step client t).bind fun r => r.run client rest

@[simp] theorem run_nil (client : Client ι τ) (r : Race ι D) : r.run client [] = some r := rfl

@[simp] theorem run_cons (client : Client ι τ) (r : Race ι D) (t : Turn) (rest : List Turn) :
    r.run client (t :: rest) = (r.step client t).bind fun r => r.run client rest := rfl

theorem run_append (client : Client ι τ) (r : Race ι D) (ts us : List Turn) :
    r.run client (ts ++ us) = (r.run client ts).bind fun r => r.run client us := by
  induction ts generalizing r with
  | nil => rfl
  | cons t ts ih => cases h : r.step client t <;> simp [h, ih]

end Race

end GraphClient
