import GraphClient.Variables

/-!
Variables as a program makes them: values are bound to names one after the other, and nested input
objects are made in the same way. In such a history a name may come up any number of times.
-/

namespace GraphClient

variable {ι : Type} [Domains ι]

/-- A value with no other one inside that waits to be encoded, as a program gives it. -/
inductive Leaf (ι : Type) [Domains ι] where
  | plain (value : Plain)
  | custom (scalar : ScalarType ι) (t : ι) (x : Domains.Carrier t)
  | null
  | json (v : Json)
  | invalid (message : String)

inductive Draft (ι : Type) [Domains ι] where
  | leaf (l : Leaf ι)
  | customs (scalar : ScalarType ι) (t : ι) (xs : List (Domains.Carrier t))
  | list (items : List (Draft ι))
  -- a nested input object, given by all that was bound in it
  | object (history : List (String × Draft ι))

namespace Leaf

def make : Leaf ι → VariableValue ι
  | plain value => .plain value
  | custom scalar t x => .custom scalar t x
  | null => .json .null
  | json v => .json v
  | invalid message => .invalid message

/-- The variables after the value was bound to a name. -/
def bindTo (vs : Variables ι) (name : String) : Leaf ι → Variables ι
  | plain value => vs.set name value
  | custom scalar t x => vs.custom name scalar t x
  | null => vs.null name
  | json v => vs.add name (.json v)
  | invalid message => vs.add name (.invalid message)

end Leaf

namespace Draft

mutual

def make : Draft ι → VariableValue ι
  | leaf l => l.make
  | customs scalar t xs => .list (xs.map (.custom scalar t))
  | list items => .list (makeItems items)
  | object history => .object (bindAll .empty history).bindings

def makeItems : List (Draft ι) → List (VariableValue ι)
  | [] => []
  | d :: rest => make d :: makeItems rest

/-- The variables after the value was bound to a name. -/
def bindTo (vs : Variables ι) (name : String) : Draft ι → Variables ι
  | leaf l => l.bindTo vs name
  | customs scalar t xs => vs.customList name scalar t xs
  | list items => vs.add name (.list (makeItems items))
  | object history => vs.object name (bindAll .empty history)

/-- The variables after values were bound to names, one after the other. -/
def bindAll (vs : Variables ι) : List (String × Draft ι) → Variables ι
  | [] => vs
  | (name, d) :: rest => bindAll (bindTo vs name d) rest

end

end Draft

def Variables.ofHistory (h : List (String × Draft ι)) : Variables ι := Draft.bindAll .empty h

end GraphClient
