import GraphClient.Registry
import GraphClient.Json.Plain

/-!
The codec of a client: the custom scalars it handles, each with the adapter that reads and writes
its strings. Standard JSON passes through unchanged.
-/

namespace GraphClient

variable {ι : Type} [Domains ι]

/-- The scalars that are handled, in the order of the registry they come from. -/
structure Codec (ι : Type) [Domains ι] where
  adapters : List (ScalarType ι × Adapter ι)

namespace Codec

/-- The codec that handles no custom scalar. -/
def standard : Codec ι := ⟨[]⟩

instance : Inhabited (Codec ι) := ⟨standard⟩

/-- The codec of a registry in which every scalar has an adapter. -/
def ofRegistry (r : Registry ι) : Except ConfigurationError (Codec ι) := do
  r.validate
  return ⟨r.entries.filterMap fun e => e.adapter.map fun a => (e.scalar, a)⟩

def scalarTypes (c : Codec ι) : List (ScalarType ι) := c.adapters.map (·.1)

/-- The adapter that serves the scalar of a name. -/
def adapter? (c : Codec ι) (name : String) : Option (Adapter ι) :=
  (c.adapters.find? fun p => p.1.name == name).map (·.2)

/-- Whether a scalar of this name is handled, whatever domain type is asked for. -/
def supports (c : Codec ι) (scalar : ScalarType ι) : Bool := (c.adapter? scalar.name).isSome

/-- Reads a custom scalar as a value of the domain type `t`. -/
def decodeScalarAt (c : Codec ι) (scalar : ScalarType ι) (t : ι) (v : Json) (path : String) :
    Except DecodeError (Domains.Carrier t) :=
  match c.adapter? scalar.name with
  | none => .error (.unknownScalar scalar.name path)
  | some a =>
    if h : a.domain = t then
      match v with
      | .string s =>
        match a.wire.decode s with
        | .ok x => .ok (h ▸ x)
        | .error message => .error (.scalar scalar.name path message)
      | v => .error (.notAString scalar.name path v.kind.name)
    else .error (.scalarTypeMismatch scalar.name a.typeName (Domains.typeName t))

def decodeScalar (c : Codec ι) (scalar : ScalarType ι) (t : ι) (v : Json) :
    Except DecodeError (Domains.Carrier t) :=
  c.decodeScalarAt scalar t v ""

/-- Writes a value of the domain type `t` as a custom scalar, for the variable `name`. -/
def encodeScalarFor (c : Codec ι) (scalar : ScalarType ι) (t : ι) (x : Domains.Carrier t)
    (name : String) : Except EncodeError Json :=
  match c.adapter? scalar.name with
  | none => .error (.unknownScalar scalar.name name)
  | some a =>
    if h : t = a.domain then .ok (.string (a.wire.encode (h ▸ x)))
    else .error (.scalarTypeMismatch scalar.name name a.typeName (Domains.typeName t))

/-- Writes a custom scalar that stands by itself; messages name it after the scalar. -/
def encodeScalar (c : Codec ι) (scalar : ScalarType ι) (t : ι) (x : Domains.Carrier t) :
    Except EncodeError Json :=
  c.encodeScalarFor scalar t x scalar.name

def parse (_ : Codec ι) (body : ByteArray) : Except DecodeError Json :=
  (Json.parse body).mapError (.json "")

def encode (_ : Codec ι) (value : Plain) : Except EncodeError Json :=
  value.toJson.mapError .json

def decodeAt {α : Type} (_ : Codec ι) (shape : Shape α) (v : Json) (path : String) :
    Except DecodeError α :=
  (shape.read v).mapError fun why => .json path (.ofMismatch why)

/-- Takes a value of a known shape that stands by itself. -/
def decode {α : Type} (c : Codec ι) (shape : Shape α) (v : Json) : Except DecodeError α :=
  c.decodeAt shape v ""

def outline (c : Codec ι) : String :=
  Outline.record "Codec" [("scalars", Outline.list (c.scalarTypes.map ScalarType.outline))]

/-- The codec reads JSON as it stands. -/
theorem parse_of_ok (c : Codec ι) {body : ByteArray} {v : Json} (h : Json.parse body = .ok v) :
    c.parse body = .ok v := by
  rw [parse, h]
  rfl

theorem parse_of_error (c : Codec ι) {body : ByteArray} {why : JsonError}
    (h : Json.parse body = .error why) : c.parse body = .error (.json "" why) := by
  rw [parse, h]
  rfl

theorem decode_of_ok {α : Type} (c : Codec ι) {shape : Shape α} {v : Json} {a : α}
    (h : shape.read v = .ok a) : c.decode shape v = .ok a := by
  rw [decode, decodeAt, h]
  rfl

theorem decode_of_error {α : Type} (c : Codec ι) {shape : Shape α} {v : Json} {why : Mismatch}
    (h : shape.read v = .error why) : c.decode shape v = .error (.json "" (.ofMismatch why)) := by
  rw [decode, decodeAt, h]
  rfl

end Codec

end GraphClient
