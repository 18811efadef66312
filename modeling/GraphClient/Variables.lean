import GraphClient.Codec

/-!
The variables of an operation: values bound to names in the order the names first came up. A later
binding of a name replaces the earlier one in its place. Plain values are in JSON form from the
start; custom scalars are written when the variables are encoded.
-/

namespace GraphClient

variable {ι : Type} [Domains ι]

inductive VariableValue (ι : Type) [Domains ι] where
  | json (v : Json)
  | custom (scalar : ScalarType ι) (t : ι) (x : Domains.Carrier t)
  | list (items : List (VariableValue ι))
  | object (bindings : List (String × VariableValue ι))
  | invalid (message : String)

/-- The bindings of an operation, each name once. -/
structure Variables (ι : Type) [Domains ι] where
  bindings : List (String × VariableValue ι) := []

namespace VariableValue

/-- A plain value, put into JSON form at once. -/
def plain (value : Plain) : VariableValue ι :=
  match value.toJson with
  | .ok v => json v
  | .error why => invalid why.message

mutual

/-- The JSON value of a variable. The items of a list go by the name of the list. -/
def encode (c : Codec ι) (name : String) : VariableValue ι → Except EncodeError Json
  | json v => .ok v
  | custom scalar t x => c.encodeScalarFor scalar t x name
  | list items => do return .array (← encodeItems c name items)
  | object bindings => do return .object (← encodeBindings c bindings [])
  | invalid message => .error (.invalidVariable name message)

def encodeItems (c : Codec ι) (name : String) :
    List (VariableValue ι) → Except EncodeError (List Json)
  | [] => .ok []
  | x :: rest => do
    let v ← encode c name x
    return v :: (← encodeItems c name rest)

/-- Encodes bindings in their order; the members come to stand in name order. -/
def encodeBindings (c : Codec ι) :
    List (String × VariableValue ι) → Entries Json → Except EncodeError (Entries Json)
  | [], members => .ok members
  | (name, x) :: rest, members => do
    let v ← encode c name x
    encodeBindings c rest (Entries.insert name v members)

end

mutual

def outline : VariableValue ι → String
  | json v => Outline.tuple "Json" [v.outline]
  | custom scalar t _ =>
    Outline.record "Custom"
      [("scalar", scalar.outline), ("type_name", Outline.text (Domains.typeName t))]
  | list items => Outline.tuple "List" [Outline.list (outlineItems items)]
  | object bindings => Outline.tuple "Object" [outlineBindings bindings]
  | invalid message => Outline.tuple "Invalid" [Outline.text message]

def outlineItems : List (VariableValue ι) → List String
  | [] => []
  | x :: rest => outline x :: outlineItems rest

def outlineBindings (bindings : List (String × VariableValue ι)) : String :=
  Outline.record "Variables" [("entries", Outline.list (outlinePairs bindings))]

def outlinePairs : List (String × VariableValue ι) → List String
  | [] => []
  | (name, x) :: rest => Outline.tuple "" [Outline.text name, outline x] :: outlinePairs rest

end

end VariableValue

namespace Variables

def empty : Variables ι := ⟨[]⟩

instance : Inhabited (Variables ι) := ⟨empty⟩

/-- Replaces the value of a name in its place, or adds the name at the end. -/
def bind (name : String) (x : VariableValue ι) :
    List (String × VariableValue ι) → List (String × VariableValue ι)
  | [] => [(name, x)]
  | (n, y) :: rest => if n = name then (n, x) :: rest else (n, y) :: bind name x rest

def add (vs : Variables ι) (name : String) (x : VariableValue ι) : Variables ι :=
  ⟨bind name x vs.bindings⟩

def set (vs : Variables ι) (name : String) (value : Plain) : Variables ι :=
  vs.add name (.plain value)

def custom (vs : Variables ι) (name : String) (scalar : ScalarType ι) (t : ι)
    (x : Domains.Carrier t) : Variables ι :=
  vs.add name (.custom scalar t x)

def customList (vs : Variables ι) (name : String) (scalar : ScalarType ι) (t : ι)
    (xs : List (Domains.Carrier t)) : Variables ι :=
  vs.add name (.list (xs.map (.custom scalar t)))

def object (vs : Variables ι) (name : String) (inner : Variables ι) : Variables ι :=
  vs.add name (.object inner.bindings)

def null (vs : Variables ι) (name : String) : Variables ι := vs.add name (.json .null)

def get? (vs : Variables ι) (name : String) : Option (VariableValue ι) :=
  (vs.bindings.find? fun p => p.1 == name).map (·.2)

def size (vs : Variables ι) : Nat := vs.bindings.length

def isEmpty (vs : Variables ι) : Bool := vs.bindings.isEmpty

def outline (vs : Variables ι) : String := VariableValue.outlineBindings vs.bindings

end Variables

namespace Codec

/-- The members of the JSON object that carries the variables. -/
def encodeVariables (c : Codec ι) (vs : Variables ι) : Except EncodeError (Entries Json) :=
  VariableValue.encodeBindings c vs.bindings []

end Codec

end GraphClient
