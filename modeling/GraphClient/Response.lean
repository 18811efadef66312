import GraphClient.Error

/-!
Responses. The envelope is the body as the server sent it; a response is what a caller gets of it.
A server may send partial data beside errors, so both are kept.
-/

namespace GraphClient

structure Envelope where
  data : Option Json := none
  errors : List ServerError := []
  extensions : Option Json := none
  deriving DecidableEq

namespace Envelope

/-- No member of the envelope is required. -/
def shape : Shape Envelope :=
  .record "ResponseEnvelope"
    (.field "data" (.option .any) (.optional none) <|
      .field "errors" (.list ServerError.shape) (.optional []) <|
      .field "extensions" (.option .any) (.optional none) .done)
    fun (data, errors, extensions, ()) => ⟨data, errors, extensions⟩

/-- The data that a mapper is asked about: null counts as absent. -/
def data? (e : Envelope) : Option Json :=
  match e.data with
  | some .null => none
  | data => data

end Envelope

/-- What a caller gets of a response. There is no data where the server sent null or none. -/
structure Response (D : Type) where
  operationName : String
  data : Option D
  errors : List ServerError
  extensions : Option Json

namespace Response

variable {D E : Type}

def hasErrors (r : Response D) : Bool := !r.errors.isEmpty

/-- There is data, and there are no errors. -/
def isSuccess (r : Response D) : Bool := r.data.isSome && r.errors.isEmpty

/-- The messages of the errors in one line, if there are errors. -/
def errorMessage? (r : Response D) : Option String :=
  if r.errors.isEmpty then none else some (ServerError.joinMessages r.errors)

def toResult (r : Response D) : Except CallError (Response D) :=
  if r.errors.isEmpty then .ok r else .error (.graphql r.errors)

/-- The data; errors come first, then the absence of data. -/
def toData (r : Response D) : Except CallError D := do
  let r ← r.toResult
  match r.data with
  | some d => .ok d
  | none => .error (.decode (.missingField "data"))

def map (f : D → E) (r : Response D) : Response E :=
  ⟨r.operationName, r.data.map f, r.errors, r.extensions⟩

end Response

end GraphClient
