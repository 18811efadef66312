import GraphClient.Codec

/-!
Adapters as a codec holds them, side by side whatever their domain types are. A value goes into such
an adapter and comes out of it in a box that knows its domain type only when it is opened. Reading a
scalar looks at the domain type twice, at that of the adapter and at that of the box, so that there
are six ways out of it, one of which no adapter ever takes.
-/

namespace GraphClient

variable {ι : Type} [Domains ι]

structure Boxed (ι : Type) [Domains ι] where
  domain : ι
  value : Domains.Carrier domain

namespace Boxed

/-- The value, if it is one of the domain type `t`. -/
def open? (b : Boxed ι) (t : ι) : Option (Domains.Carrier t) :=
  if h : b.domain = t then some (h ▸ b.value) else none

/-- Under its own domain type, and under no other, a value comes out of its box. -/
@[simp] theorem open?_self (t : ι) (x : Domains.Carrier t) :
    (⟨t, x⟩ : Boxed ι).open? t = some x := by
  simp [open?]

theorem open?_of_ne {b : Boxed ι} {t : ι} (h : b.domain ≠ t) : b.open? t = none := by
  simp [open?, h]

end Boxed

/-- An adapter of some domain type. That the values it gives are of this type is not part of what it
is. -/
structure ErasedAdapter (ι : Type) [Domains ι] where
  domain : ι
  decode : String → Except String (Boxed ι)
  -- nothing for a value of another domain type
  encode? : Boxed ι → Option String

namespace ErasedAdapter

def typeName (a : ErasedAdapter ι) : String := Domains.typeName a.domain

end ErasedAdapter

def Adapter.erase (a : Adapter ι) : ErasedAdapter ι where
  domain := a.domain
  decode text := (a.wire.decode text).map fun x => ⟨a.domain, x⟩
  encode? b := (b.open? a.domain).map a.wire.encode

inductive ScalarExit (α : Type) where
  | unknown
  | foreign (registered : String)
  | notText (found : String)
  | refused (message : String)
  | stray (registered : String)
  | value (x : α)

def ScalarExit.result {α : Type} (scalar path requested : String) :
    ScalarExit α → Except DecodeError α
  | unknown => .error (.unknownScalar scalar path)
  | foreign registered => .error (.scalarTypeMismatch scalar registered requested)
  | notText found => .error (.notAString scalar path found)
  | refused message => .error (.scalar scalar path message)
  | stray registered => .error (.scalarTypeMismatch scalar registered requested)
  | value x => .ok x

namespace Codec

/-- The adapter that serves the scalar of a name, as the codec holds it. -/
def erased? (c : Codec ι) (name : String) : Option (ErasedAdapter ι) :=
  (c.adapter? name).map Adapter.erase

/-- The way out of reading a custom scalar as a value of the domain type `t`. -/
def exit (c : Codec ι) (scalar : ScalarType ι) (t : ι) (v : Json) :
    ScalarExit (Domains.Carrier t) :=
  match c.erased? scalar.name with
  | none => .unknown
  | some a =>
    if a.domain = t then
      match v with
      | .string text =>
        match a.decode text with
        | .error message => .refused message
        | .ok b =>
          match b.open? t with
          | some x => .value x
          | none => .stray a.typeName
      | v => .notText v.kind.name
    else .foreign a.typeName

/-- Writes a value in a box as a custom scalar, for the variable `name`. -/
def encodeBoxed (c : Codec ι) (scalar : ScalarType ι) (b : Boxed ι) (name : String) :
    Except EncodeError Json :=
  match c.erased? scalar.name with
  | none => .error (.unknownScalar scalar.name name)
  | some a =>
    match a.encode? b with
    | some text => .ok (.string text)
    | none => .error (.scalarTypeMismatch scalar.name name a.typeName (Domains.typeName b.domain))

end Codec

end GraphClient
