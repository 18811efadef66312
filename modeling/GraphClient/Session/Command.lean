import GraphClient.Session

/-!
Commands: what a caller does with a session, one thing after the other, and the results that it is
given on the way.
-/

namespace GraphClient

variable {ι : Type} [Domains ι] {D : Type}

inductive Command (ι : Type) [Domains ι] (D : Type) where
  | rawCall (op : Operation ι D)
  | newCall (op : Operation ι D)
  | duplicate (i : Nat)
  | begin (i : Nat)
  | enqueue (i : Nat)
  | drop (i : Nat)
  | cancel (i : Nat)
  | poll (i : Nat)
  | execute (i : Nat)
  | settle
  | release (gate : String)

namespace Command

/-- The caller asks for what the call is to bring. -/
def Drives (i : Nat) : Command ι D → Prop
  | poll j | execute j => i = j
  | rawCall _ | newCall _ | duplicate _ | begin _ | enqueue _ | drop _ | cancel _ | settle
  | release _ => False

/-- The caller keeps nothing of the call, whether it has its result or not. -/
def Leaves (i : Nat) : Command ι D → Prop
  | drop j | execute j => i = j
  | rawCall _ | newCall _ | duplicate _ | begin _ | enqueue _ | cancel _ | poll _ | settle
  | release _ => False

def operation? : Command ι D → Option (Operation ι D)
  | rawCall op | newCall op => some op
  | duplicate _ | begin _ | enqueue _ | drop _ | cancel _ | poll _ | execute _ | settle
  | release _ => none

end Command

def Delivered.toList : Delivered D → List (CallResult D)
  | result r => [r]
  | results rs => rs
  | pending | notStarted | gone | ended | callbackDropped => []

namespace Session

/-- Does what the command says, and gives the results that the caller gets, each with the number of
its call. A command that cannot be followed does nothing. -/
def perform (s : Session ι D) : Command ι D → List (Nat × CallResult D) × Session ι D
  | .rawCall op => ([], (s.rawCall op).2)
  | .newCall op =>
    let (i, s) := s.newCall op
    match s.holding i with
    | .gone => ((s.blockingResult? i).toList.map (i, ·), s)
    | _ => ([], s)
  | .duplicate i => ([], ((s.duplicate? i).map (·.2)).getD s)
  | .begin i => ([], (s.begin? i).getD s)
  | .enqueue i => ([], (s.enqueue? i).getD s)
  | .drop i => ([], s.drop i)
  | .cancel i => ([], ((s.cancel? .outside i).map (·.2)).getD s)
  | .poll i =>
    let (d, s) := s.poll i
    (d.toList.map (i, ·), s)
  | .execute i =>
    let (d, s) := s.execute i
    (d.toList.map (i, ·), s)
  | .settle => ([], s.settle)
  | .release gate => ([], s.release gate)

def performAll (s : Session ι D) : List (Command ι D) → List (Nat × CallResult D) × Session ι D
  | [] => ([], s)
  | c :: rest =>
    let (now, s) := s.perform c
    let (later, s) := s.performAll rest
    (now ++ later, s)

/-- What is done in two goes is done in one. -/
theorem performAll_append (s : Session ι D) (cs ds : List (Command ι D)) :
    s.performAll (cs ++ ds) = ((s.performAll cs).1 ++ ((s.performAll cs).2.performAll ds).1,
      ((s.performAll cs).2.performAll ds).2) := by
  induction cs generalizing s with
  | nil => rfl
  | cons c rest ih => simp [performAll, ih]

/-- The results of one call, in the order in which the caller got them. -/
def resultsOf (i : Nat) (log : List (Nat × CallResult D)) : List (CallResult D) :=
  log.filterMap fun p => if p.1 = i then some p.2 else none

@[simp] theorem resultsOf_append (i : Nat) (log more : List (Nat × CallResult D)) :
    resultsOf i (log ++ more) = resultsOf i log ++ resultsOf i more := by
  simp [resultsOf]

@[simp] theorem resultsOf_map_self (i : Nat) (rs : List (CallResult D)) :
    resultsOf i (rs.map (i, ·)) = rs := by
  have hsome : (fun p : Nat × CallResult D => if p.1 = i then some p.2 else none) ∘ (i, ·) =
      some := by
    funext r
    simp
  rw [resultsOf, List.filterMap_map, hsome, List.filterMap_some]

theorem resultsOf_map_of_ne {i j : Nat} (h : j ≠ i) (rs : List (CallResult D)) :
    resultsOf i (rs.map (j, ·)) = [] := by
  simp [resultsOf, h]

end Session

end GraphClient
