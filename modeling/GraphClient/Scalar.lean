import GraphClient.Scalar.Wire
import GraphClient.Text.Outline

/-!
Custom scalars. A schema names leaf types beyond the built-in ones; on the wire each of their values
is a string. A scalar type ties such a name to a domain type, and an adapter converts the values of
one domain type. The domain types themselves are open: any type whose elements identify types.
-/

namespace GraphClient

/-- The domain types of a program: `ι` identifies them, `Carrier` gives the values of each. -/
class Domains (ι : Type) where
  [decEq : DecidableEq ι]
  Carrier : ι → Type
  typeName : ι → String

instance {ι : Type} [Domains ι] : DecidableEq ι := Domains.decEq

/-- A scalar of the schema and the domain type it maps to. -/
structure ScalarType (ι : Type) where
  name : String
  domain : ι
  deriving DecidableEq, Repr

/-- Converts the values of one domain type to and from wire strings. -/
structure Adapter (ι : Type) [Domains ι] where
  domain : ι
  wire : Wire (Domains.Carrier domain)

variable {ι : Type} [Domains ι]

namespace ScalarType

def typeName (s : ScalarType ι) : String := Domains.typeName s.domain

/-- Whether values of a domain type belong to the scalar. -/
def isOf (s : ScalarType ι) (t : ι) : Bool := s.domain = t

def outline (s : ScalarType ι) : String :=
  Outline.record "ScalarType"
    [("name", Outline.text s.name), ("type_name", Outline.text s.typeName)]

end ScalarType

namespace Adapter

def typeName (a : Adapter ι) : String := Domains.typeName a.domain

def outline (a : Adapter ι) : String :=
  Outline.record "FnTypeAdapter" [("type", Outline.text a.typeName)]

end Adapter

end GraphClient
