import GraphClient.Json.Record

/-!
Errors that a server reports in its responses, in their JSON form and as one line of text.
-/

namespace GraphClient

structure Location where
  line : UInt32
  column : UInt32
  deriving DecidableEq, Repr

/-- A step from a response's data to the value that an error is about. -/
inductive PathSegment where
  | field (name : String)
  | index (position : UInt64)
  deriving DecidableEq, Repr

structure ServerError where
  message : String
  locations : List Location := []
  path : Option (List PathSegment) := none
  extensions : Option Json := none
  deriving DecidableEq

namespace Location

def shape : Shape Location :=
  .record "GraphQLLocation"
    (.field "line" .nat32 .required <| .field "column" .nat32 .required .done)
    fun (line, column, ()) => ⟨.ofNat line, .ofNat column⟩

def toJson (l : Location) : Json :=
  .object [("line", .ofNat l.line.toNat (by have := l.line.toNat_lt; omega)),
    ("column", .ofNat l.column.toNat (by have := l.column.toNat_lt; omega))]

def outline (l : Location) : String :=
  Outline.record "GraphQLLocation"
    [("line", toString l.line.toNat), ("column", toString l.column.toNat)]

end Location

namespace PathSegment

/-- A string is a field, an integer that is not negative an index. -/
def ofJson? : Json → Option PathSegment
  | .string name => some (field name)
  | .number (.int n _) => if 0 ≤ n then some (index (.ofNat n.toNat)) else none
  | _ => none

def shape : Shape PathSegment := .pick "PathSegment" ofJson?

def toJson : PathSegment → Json
  | field name => .string name
  | index i => .ofNat i.toNat (by have := i.toNat_lt; omega)

def outline : PathSegment → String
  | field name => Outline.tuple "Field" [Outline.text name]
  | index i => Outline.tuple "Index" [toString i.toNat]

/-- The segment as it follows another one, or as it starts a path. -/
def display (first : Bool) : PathSegment → String
  | field name => if first then name else "." ++ name
  | index i => "[" ++ toString i.toNat ++ "]"

/-- The text of a path: names with a dot between them, positions in brackets. -/
def displayPath : List PathSegment → String
  | [] => ""
  | s :: rest => s.display true ++ String.join (rest.map (display false))

end PathSegment

namespace ServerError

/-- The members of an error; only the message is required. -/
def shape : Shape ServerError :=
  .record "GraphQLError"
    (.field "message" .string .required <|
      .field "locations" (.list Location.shape) (.optional []) <|
      .field "path" (.option (.list PathSegment.shape)) (.optional none) <|
      .field "extensions" (.option .any) (.optional none) .done)
    fun (message, locations, path, extensions, ()) => ⟨message, locations, path, extensions⟩

/-- The error in JSON. What it does not have is left out. -/
def toJson (e : ServerError) : Json :=
  .object <|
    [("message", .string e.message)] ++
    (if e.locations.isEmpty then [] else
      [("locations", .array (e.locations.map Location.toJson))]) ++
    (match e.path with
      | some path => [("path", .array (path.map PathSegment.toJson))]
      | none => []) ++
    (match e.extensions with
      | some extensions => [("extensions", extensions)]
      | none => [])

/-- The message, and the path in parentheses if there is one. -/
def display (e : ServerError) : String :=
  match e.path with
  | some path => e.message ++ " (at " ++ PathSegment.displayPath path ++ ")"
  | none => e.message

def outline (e : ServerError) : String :=
  Outline.record "GraphQLError"
    [("message", Outline.text e.message),
      ("locations", Outline.list (e.locations.map Location.outline)),
      ("path", Outline.option (e.path.map fun p => Outline.list (p.map PathSegment.outline))),
      ("extensions", Outline.option (e.extensions.map Json.outline))]

def joinMessages (errors : List ServerError) : String := "; ".intercalate (errors.map message)

end ServerError

end GraphClient
