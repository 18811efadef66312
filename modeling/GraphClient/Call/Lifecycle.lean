/-!
The lifecycle of a call, as far as it is shared with the handles that observe and cancel the call:
the phase, the sender of the cancel channel while it is in place, and the signal in that channel.
Executions and cancels touch these one at a time, in any order; the steps of a cancel are therefore
kept apart, and a cancel in one go is the case in which nothing comes between them.
-/

namespace GraphClient

inductive Phase where
  | created
  | adapted
  | executing
  | completed
  | failed
  | canceled
  deriving DecidableEq, Repr

namespace Phase

/-- No other phase follows. -/
def isTerminal : Phase → Bool
  | completed | failed | canceled => true
  | created | adapted | executing => false

/-- The order in which phases follow each other; the terminal ones share a rank. -/
def rank : Phase → Nat
  | created => 0
  | adapted => 1
  | executing => 2
  | completed | failed | canceled => 3

def name : Phase → String
  | created => "Created"
  | adapted => "Adapted"
  | executing => "Executing"
  | completed => "Completed"
  | failed => "Failed"
  | canceled => "Canceled"

/-- Terminal phases are those of the highest rank. -/
theorem rank_eq_three_iff (p : Phase) : p.rank = 3 ↔ p.isTerminal = true := by
  cases p <;> simp [rank, isTerminal]

end Phase

structure Lifecycle where
  phase : Phase
  -- the sender of the cancel channel is in place: the call is pending
  armed : Bool
  -- a cancel has been sent to the execution
  signaled : Bool
  deriving DecidableEq, Repr

namespace Lifecycle

def fresh : Lifecycle := ⟨.created, true, false⟩

instance : Inhabited Lifecycle := ⟨fresh⟩

def isPending (l : Lifecycle) : Bool := l.armed

def enter (l : Lifecycle) (p : Phase) : Lifecycle := { l with phase := p }

/-- Goes on to a phase from a given one, and stays in any other. -/
def advance (l : Lifecycle) (source target : Phase) : Lifecycle :=
  if l.phase = source then l.enter target else l

def disarm (l : Lifecycle) : Lifecycle := { l with armed := false }

def signal (l : Lifecycle) : Lifecycle := { l with signaled := true }

/-- Cancels the call, unless it is finished or canceled already. Says whether it did. -/
def cancel (l : Lifecycle) : Bool × Lifecycle :=
  if l.armed then (true, (l.disarm.enter .canceled).signal) else (false, l)

end Lifecycle

/-- How far a cancel has come: it takes the sender, then enters the phase, then sends the signal. -/
inductive Cancel where
  | taking
  | entering
  | signaling
  | done (won : Bool)
  deriving DecidableEq, Repr

namespace Cancel

def step : Cancel → Lifecycle → Cancel × Lifecycle
  | taking, l => if l.armed then (entering, l.disarm) else (done false, l)
  | entering, l => (signaling, l.enter .canceled)
  | signaling, l => (done true, l.signal)
  | done won, l => (done won, l)

end Cancel

end GraphClient
