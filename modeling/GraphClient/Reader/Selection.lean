import GraphClient.Operation

/-!
Selections: single values picked out of the data of a response by a list of steps, each written as
text. Mappers for ad-hoc queries are made of them.
-/

namespace GraphClient

variable {ι : Type} [Domains ι]

inductive Step where
  | field (name : String)
  | element (i : Nat)
  deriving DecidableEq, Repr

structure Selection (ι : Type) [Domains ι] where
  steps : List Step
  write : Reader ι → Except DecodeError String

namespace Reader

/-- Goes where a step leads. A list without the element lacks it. -/
def step (r : Reader ι) : Step → Except DecodeError (Reader ι)
  | .field name => .ok (r.field name)
  | .element i => do
    match (← r.list)[i]? with
    | some r => .ok r
    | none => .error (.missingField ("index " ++ toString i))

/-- Goes where the steps lead, one after the other. -/
def follow (r : Reader ι) : List Step → Except DecodeError (Reader ι)
  | [] => .ok r
  | s :: rest => do (← r.step s).follow rest

end Reader

namespace Selection

def ofString (r : Reader ι) : Except DecodeError String := r.string

def ofInt64 (r : Reader ι) : Except DecodeError String := r.int64.map toString

def ofFloat (r : Reader ι) : Except DecodeError String :=
  r.float.map fun x => (Json.ofFloat x).text

def ofBool (r : Reader ι) : Except DecodeError String := r.bool.map Outline.truth

def ofIsNull (r : Reader ι) : Except DecodeError String := .ok (Outline.truth r.isNull)

def ofPath (r : Reader ι) : Except DecodeError String := .ok r.path

def ofValue (r : Reader ι) : Except DecodeError String := .ok r.value.text

def ofOutline (r : Reader ι) : Except DecodeError String := .ok r.outline

/-- A list as the number of its elements, and the path and value of each. -/
def ofList (r : Reader ι) : Except DecodeError String := do
  let rs ← r.list
  return toString rs.length ++ ":" ++
    ",".intercalate (rs.map fun r => r.path ++ "=" ++ r.value.text)

def ofCustom (scalar : ScalarType ι) (t : ι) (write : Domains.Carrier t → String)
    (r : Reader ι) : Except DecodeError String :=
  (r.custom scalar t).map write

def ofShape (shape : Shape String) (r : Reader ι) : Except DecodeError String :=
  r.deserialize shape

def orNone (write : Reader ι → Except DecodeError String) (r : Reader ι) :
    Except DecodeError String :=
  (r.optional write).map fun text => text.getD "None"

def run (s : Selection ι) (r : Reader ι) : Except DecodeError String := do
  s.write (← r.follow s.steps)

/-- All selections in turn, up to the first that fails. -/
def runAll (ss : List (Selection ι)) (r : Reader ι) : Except DecodeError (List String) :=
  ss.mapM fun s => s.run r

/-- The mapper that gives the texts of all selections. -/
def toMapper (ss : List (Selection ι)) (effects : SideEffects) : Mapper ι (List String) where
  map := runAll ss
  effects := effects

end Selection

end GraphClient
