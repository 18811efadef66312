import GraphClient.Json.Record
import GraphClient.Reader
import GraphClient.Variables

/-!
Operations: one query or mutation, with the variables of this use of it and the mapper that turns
the data of a response into a result. A JSON envelope carries the operation to the server: the
document, the operation's name if it has one, and the encoded variables.
-/

namespace GraphClient

inductive OperationKind where
  | query | mutation
  deriving DecidableEq, Repr

namespace OperationKind

instance : Inhabited OperationKind := ⟨query⟩

def name : OperationKind → String
  | query => "query"
  | mutation => "mutation"

def shape : Shape OperationKind := .constant [("query", query), ("mutation", mutation)]

def toJson (k : OperationKind) : Json := .string k.name

def outline : OperationKind → String
  | query => "Query"
  | mutation => "Mutation"

end OperationKind

structure Request where
  document : String
  operationName : Option String := none
  vars : Entries Json := []
  deriving DecidableEq

namespace Request

def ofDocument (document : String) : Request := ⟨document, none, []⟩

/-- Names the operation; the empty name stands for none. -/
def withOperationName (r : Request) (name : String) : Request :=
  { r with operationName := if name = "" then none else some name }

def withVariables (r : Request) (vars : Entries Json) : Request := { r with vars }

def shape : Shape Request :=
  .record "GraphQLRequest"
    (.field "query" .string .required <|
      .field "operationName" (.option .string) (.nullable none) <|
      .field "variables" (.entries .any) (.optional []) .done)
    fun (document, operationName, vars, ()) => ⟨document, operationName, vars⟩

/-- The envelope in JSON. An operation without a name leaves the member out. -/
def toJson (r : Request) : Json :=
  .object <|
    [("query", .string r.document)] ++
    (match r.operationName with
      | some name => [("operationName", .string name)]
      | none => []) ++
    [("variables", .object r.vars)]

def body (r : Request) : String := r.toJson.text

end Request

variable {ι : Type} [Domains ι] {D : Type}

structure SideEffects where
  -- the calls that it cancels, by number
  cancels : List Nat := []
  crashes : Bool := false
  deriving DecidableEq, Repr

/-- Turns the data of a response into a result. It is asked only where there is data. -/
structure Mapper (ι : Type) [Domains ι] (D : Type) where
  map : Reader ι → Except DecodeError D
  effects : SideEffects := {}

namespace Mapper

/-- A mapper that takes the whole data by its shape. -/
def ofShape (shape : Shape D) : Mapper ι D where
  map r := r.deserialize shape

/-- A mapper given by a function; the name of its result type is given along. -/
def functionOutline (typeName : String) : String :=
  Outline.partialRecord "FnMapper" [("data", Outline.text typeName)]

def shapeOutline (typeName : String) : String :=
  Outline.record "DeserializeMapper" [("data", Outline.text typeName)]

end Mapper

structure Operation (ι : Type) [Domains ι] (D : Type) where
  document : String
  -- empty for an operation without a name
  name : String
  kind : OperationKind := .query
  vars : Variables ι := .empty
  mapper : Mapper ι D

end GraphClient
