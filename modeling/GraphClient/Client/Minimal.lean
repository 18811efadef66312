import GraphClient.Exchange
import GraphClient.Client.History

/-!
# The least a program needs to make calls

One domain type, a client of an endpoint without scalars or headers of its own, and an operation
whose result is the whole data. Statements about all clients and operations are tried out on these.
Where two domain types are needed, there is a second program with texts and truth values.
-/

namespace GraphClient

/-- The domain types of a program whose custom scalars all stand for texts. -/
inductive TextDomain where
  | text
  deriving DecidableEq, Repr

instance : Domains TextDomain where
  Carrier _ := String
  typeName _ := "text"

/-- The domain types of a program whose custom scalars stand for texts or truth values. -/
inductive MixedDomain where
  | text
  | truth
  deriving DecidableEq, Repr

instance : Domains MixedDomain where
  Carrier
    | .text => String
    | .truth => Bool
  typeName
    | .text => "text"
    | .truth => "truth"

/-- A scalar whose values are texts and travel as they are. -/
def ScalarType.label : ScalarType TextDomain := ⟨"Label", .text⟩

def Codec.labels : Codec TextDomain := ⟨[(.label, ⟨.text, Wire.text⟩)]⟩

/-- The client of an endpoint that leaves all else as it is. -/
def Client.minimal : Client TextDomain Unit where
  endpoint :=
    { scheme := "https"
      authority := some { host := some (.domain "localhost") }
      path := .segments [""]
      query := none
      fragment := none }
  transport := ()
  codec := .standard
  registry := .empty
  delivery := .raw
  headers := .empty

/-- The settings that a client needs, and no others. -/
def History.minimal {ι : Type} [Domains ι] : History ι Unit :=
  [.transport (), .endpoint (.parsed Client.minimal.endpoint), .delivery .raw]

/-- A query without name or variables that takes the data as it comes. -/
def Operation.minimal : Operation TextDomain Json where
  document := "\x7b a \x7d"
  name := ""
  mapper := .ofShape .any

end GraphClient
