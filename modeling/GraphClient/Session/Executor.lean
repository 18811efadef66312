/-!
Executors with one thread: which of the tasks that can go on gets the next turn. Tasks made ready by
work of the executor itself wait in its own queue, those made ready from outside in a queue to which
they are posted. The own queue comes first, but at regular intervals a turn looks at the posted one
first, so that no task waits forever.
-/

namespace GraphClient

inductive Waker where
  | task (i : Nat)
  | caller
  | outside
  deriving DecidableEq, Repr

/-- The tasks that can go on, by number, and how many turns there have been. -/
structure Executor where
  own : List Nat := []
  posted : List Nat := []
  turns : Nat := 0
  deriving DecidableEq, Repr

namespace Executor

/-- The number of turns in a row; after them, or after a turn that finds no task, the executor looks
after its caller. -/
def roundLength : Nat := 61

/-- Every turn whose number is divisible by this looks at the posted tasks first. -/
def postedInterval : Nat := 31

def isIdle (e : Executor) : Bool := e.own.isEmpty && e.posted.isEmpty

def load (e : Executor) : Nat := e.own.length + e.posted.length

def spawn (e : Executor) (i : Nat) : Executor := { e with own := e.own ++ [i] }

/-- Makes a task ready. One that is ready already, or at work, is left where it is. -/
def wake (e : Executor) (w : Waker) (i : Nat) : Executor :=
  if w = .task i ∨ i ∈ e.own ∨ i ∈ e.posted then e
  else match w with
    | .outside => { e with posted := e.posted ++ [i] }
    | _ => e.spawn i

/-- The task of the next turn, from the queue that comes first at that turn if it has one. -/
def next (e : Executor) : Option Nat × Executor :=
  let turns := e.turns + 1
  match e.own, e.posted with
  | [], [] => (none, { e with turns })
  | i :: own, [] => (some i, { e with own, turns })
  | [], j :: posted => (some j, { e with posted, turns })
  | i :: own, j :: posted =>
    if turns % postedInterval = 0 then (some j, { e with posted, turns })
    else (some i, { e with own, turns })

/-- A turn finds a task unless none waits. -/
theorem next_eq_none_iff (e : Executor) : e.next.1 = none ↔ e.isIdle = true := by
  unfold next isIdle
  split <;> simp [*]
  split <;> simp

/-- The task that gets a turn leaves its queue. -/
theorem load_next {e : Executor} {i : Nat} (h : e.next.1 = some i) :
    e.next.2.load + 1 = e.load := by
  unfold next load at *
  split at h
  · simp at h
  · simp_all
  · simp_all
  · simp_all
    split <;> simp <;> omega

end Executor

end GraphClient
