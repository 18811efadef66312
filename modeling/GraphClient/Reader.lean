import GraphClient.Codec

/-!
A cursor over one value of a response's data. It moves by fields and list elements, reads leaves
with typed accessors, and puts the place of the value into every error.
-/

namespace GraphClient

variable {ι : Type} [Domains ι]

/-- A value of a response, with the path that leads to it. -/
structure Reader (ι : Type) [Domains ι] where
  codec : Codec ι
  value : Json
  path : String

namespace Reader

def root (codec : Codec ι) (value : Json) : Reader ι := ⟨codec, value, ""⟩

/-- The path of a field: its name behind a dot, or by itself where there is no path yet. -/
def fieldPath (path name : String) : String := if path = "" then name else path ++ "." ++ name

/-- The path of a list element: its position in brackets. -/
def elementPath (path : String) (i : Nat) : String := path ++ "[" ++ toString i ++ "]"

/-- A field of an object. A field that is absent reads as null, and so does any field of a value
that is no object. -/
def field (r : Reader ι) (name : String) : Reader ι :=
  { r with value := r.value.member name, path := fieldPath r.path name }

def isNull (r : Reader ι) : Bool := r.value.isNull

/-- The error of an accessor on a value of another sort: null counts as missing. -/
def unexpected (r : Reader ι) (expected : String) : DecodeError :=
  if r.isNull then .missingField r.path
  else .unexpectedType r.path expected r.value.kind.name

def string (r : Reader ι) : Except DecodeError String :=
  match r.value with
  | .string s => .ok s
  | _ => .error (r.unexpected "string")

def int64 (r : Reader ι) : Except DecodeError Int :=
  match r.value with
  | .number n => match n.toInt64? with
    | some i => .ok i
    | none => .error (r.unexpected "integer")
  | _ => .error (r.unexpected "integer")

def float (r : Reader ι) : Except DecodeError Float :=
  match r.value with
  | .number n => .ok n.toFloat
  | _ => .error (r.unexpected "number")

def bool (r : Reader ι) : Except DecodeError Bool :=
  match r.value with
  | .bool b => .ok b
  | _ => .error (r.unexpected "boolean")

/-- The readers of list items from position `i` on. -/
def elements (r : Reader ι) (i : Nat) : List Json → List (Reader ι)
  | [] => []
  | v :: rest => { r with value := v, path := elementPath r.path i } :: r.elements (i + 1) rest

def list (r : Reader ι) : Except DecodeError (List (Reader ι)) :=
  match r.value with
  | .array items => .ok (r.elements 0 items)
  | _ => .error (r.unexpected "list")

/-- A custom scalar as a value of the domain type `t`. -/
def custom (r : Reader ι) (scalar : ScalarType ι) (t : ι) :
    Except DecodeError (Domains.Carrier t) :=
  if r.isNull then .error (.missingField r.path)
  else r.codec.decodeScalarAt scalar t r.value r.path

/-- Nothing where the value is null, else what `read` gives. -/
def optional {α : Type} (r : Reader ι) (read : Reader ι → Except DecodeError α) :
    Except DecodeError (Option α) :=
  if r.isNull then .ok none else (read r).map some

/-- Takes the value by a shape of standard JSON. -/
def deserialize {α : Type} (r : Reader ι) (shape : Shape α) : Except DecodeError α :=
  r.codec.decodeAt shape r.value r.path

def outline (r : Reader ι) : String :=
  Outline.record "ResponseReader" [("path", Outline.text r.path), ("value", r.value.outline)]

end Reader

end GraphClient
