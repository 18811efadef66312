import GraphClient.Response.ServerError

/-!
What can go wrong, by the phase in which it shows: building a client, decoding a response, encoding
variables, the transport, and the call as a whole. Each group words its own messages.
-/

namespace GraphClient

inductive ConfigurationError where
  | missingField (name : String)
  | invalidEndpoint (url message : String)
  | scalarTypeMismatch (scalar expected actual : String)
  | missingScalarAdapter (scalar : String)
  | invalidHeader (message : String)
  deriving DecidableEq, Repr

/-- A value of a response that could not be turned into its domain type. -/
inductive DecodeError where
  | notAString (scalar path found : String)
  | scalar (scalar path message : String)
  | unknownScalar (scalar path : String)
  | scalarTypeMismatch (scalar registered requested : String)
  | unexpectedType (path expected found : String)
  | missingField (path : String)
  | json (path : String) (error : JsonError)
  deriving DecidableEq

inductive EncodeError where
  | unknownScalar (scalar name : String)
  | scalarTypeMismatch (scalar name expected actual : String)
  | invalidVariable (name message : String)
  | json (error : JsonError)
  deriving DecidableEq

inductive TransportError where
  | request (message : String)
  | timeout
  | connection (message : String)
  | tooManyRedirects
  | invalidHeader (message : String)
  | body (message : String)
  deriving DecidableEq, Repr

/-- Everything that can go wrong once a call has been created. -/
inductive CallError where
  | transport (error : TransportError)
  -- the status is none of success; the body is there if it is text
  | httpStatus (status : Nat) (body : Option String)
  | encode (error : EncodeError)
  | decode (error : DecodeError)
  | graphql (errors : List ServerError)
  | canceled
  | task (message : String)
  deriving DecidableEq

namespace ConfigurationError

def message : ConfigurationError → String
  | missingField name => name ++ " is null"
  | invalidEndpoint url message => "Invalid server URL '" ++ url ++ "': " ++ message
  | scalarTypeMismatch scalar expected actual =>
    "Adapter for scalar '" ++ scalar ++ "' handles " ++ actual ++ ", but the scalar maps to " ++
      expected
  | missingScalarAdapter scalar => "No custom type adapter registered for scalar '" ++ scalar ++ "'"
  | invalidHeader message => "Invalid header: " ++ message

end ConfigurationError

namespace DecodeError

def message : DecodeError → String
  | notAString name path found =>
    "Expected a string for scalar '" ++ name ++ "' at '" ++ path ++ "', found " ++ found
  | scalar name path message =>
    "Failed to decode scalar '" ++ name ++ "' at '" ++ path ++ "': " ++ message
  | unknownScalar name path => "Unknown scalar '" ++ name ++ "' at '" ++ path ++ "'"
  | scalarTypeMismatch name registered requested =>
    "Scalar '" ++ name ++ "' decodes to " ++ registered ++ ", not " ++ requested
  | unexpectedType path expected found =>
    "Expected " ++ expected ++ " at '" ++ path ++ "', found " ++ found
  | missingField path => "Missing required field '" ++ path ++ "'"
  | json path error => "JSON error at '" ++ path ++ "': " ++ error.message

/-- Where in the response the fault is, if the error says so. -/
def path? : DecodeError → Option String
  | notAString _ path _ => some path
  | scalar _ path _ => some path
  | unknownScalar _ path => some path
  | scalarTypeMismatch _ _ _ => none
  | unexpectedType path _ _ => some path
  | missingField path => some path
  | json path _ => some path

end DecodeError

namespace EncodeError

def message : EncodeError → String
  | unknownScalar scalar name => "Unknown scalar '" ++ scalar ++ "' for variable '" ++ name ++ "'"
  | scalarTypeMismatch scalar name expected actual =>
    "Variable '" ++ name ++ "' holds " ++ actual ++ ", but scalar '" ++ scalar ++ "' expects " ++
      expected
  | invalidVariable name message =>
    "Variable '" ++ name ++ "' could not be serialized: " ++ message
  | json error => "JSON error: " ++ error.message

end EncodeError

namespace TransportError

def message : TransportError → String
  | request message => "HTTP request error: " ++ message
  | timeout => "Request timed out"
  | connection message => "Connection error: " ++ message
  | tooManyRedirects => "Too many redirects"
  | invalidHeader message => "Invalid header: " ++ message
  | body message => "Invalid response body: " ++ message

end TransportError

namespace CallError

def message : CallError → String
  | transport error => error.message
  | httpStatus status body =>
    "HTTP " ++ toString status ++ (match body with | some text => ": " ++ text | none => "")
  | encode error => error.message
  | decode error => error.message
  | graphql errors => "GraphQL error: " ++ ServerError.joinMessages errors
  | canceled => "Call was canceled"
  | task message => "Call task failed: " ++ message

def isCanceled : CallError → Bool
  | canceled => true
  | _ => false

end CallError

end GraphClient
