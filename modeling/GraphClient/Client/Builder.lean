import GraphClient.Client

/-!
The step-by-step configuration of a client. Setting never fails: what is wrong is remembered, and
`build` reports it. A later adapter of a scalar takes the place of an earlier one, faults included;
of header faults the first one stays.
-/

namespace GraphClient

variable {ι : Type} [Domains ι] {τ : Type}

structure Builder (ι : Type) [Domains ι] (τ : Type) where
  transport : Option τ := none
  endpoint : Option Endpoint := none
  delivery : Option Delivery := none
  registry : Registry ι := .empty
  headers : Headers := .empty
  -- the refused adapters by scalar name, in the order of their registration
  scalarFaults : List (String × ConfigurationError) := []
  headerFault : Option ConfigurationError := none

namespace Builder

def empty : Builder ι τ := {}

instance : Inhabited (Builder ι τ) := ⟨empty⟩

def withTransport (b : Builder ι τ) (t : τ) : Builder ι τ := { b with transport := some t }

def withEndpoint (b : Builder ι τ) (e : Endpoint) : Builder ι τ := { b with endpoint := some e }

def withDelivery (b : Builder ι τ) (d : Delivery) : Builder ι τ := { b with delivery := some d }

/-- Registers the adapter of a scalar. What was wrong with an earlier one of that name no longer
counts. -/
def withAdapter (b : Builder ι τ) (scalar : ScalarType ι) (adapter : Adapter ι) : Builder ι τ :=
  let faults := b.scalarFaults.filter fun (name, _) => name != scalar.name
  match b.registry.register scalar adapter with
  | .ok registry => { b with registry, scalarFaults := faults }
  | .error why => { b with scalarFaults := faults ++ [(scalar.name, why)] }

/-- Declares a scalar that operations use; it will need an adapter. -/
def withScalar (b : Builder ι τ) (scalar : ScalarType ι) : Builder ι τ :=
  { b with registry := b.registry.declare scalar }

/-- Sets a header of every request, by its name and the bytes of its value. -/
def withHeader (b : Builder ι τ) (name : String) (bytes : List UInt8) : Builder ι τ :=
  match b.headers.set name bytes with
  | .ok headers => { b with headers }
  | .error fault =>
    { b with headerFault := some (b.headerFault.getD (.invalidHeader fault.message)) }

def withBearerToken (b : Builder ι τ) (token : String) : Builder ι τ :=
  b.withHeader "authorization" ("Bearer " ++ token).toUTF8.toList

def required {α : Type} (name : String) : Option α → Except ConfigurationError α
  | some a => .ok a
  | none => .error (.missingField name)

def noFault : Option ConfigurationError → Except ConfigurationError Unit
  | none => .ok ()
  | some why => .error why

/-- Freezes the configuration. Missing parts are reported first, then the endpoint, headers,
adapters that were refused, and scalars without an adapter. -/
def build (b : Builder ι τ) : Except ConfigurationError (Client ι τ) := do
  let transport ← required "transport" b.transport
  let endpoint ← required "server_url" b.endpoint
  let delivery ← required "result_adapter" b.delivery
  let endpoint ← endpoint.resolve
  noFault b.headerFault
  noFault (b.scalarFaults.head?.map (·.2))
  let codec ← Codec.ofRegistry b.registry
  return { endpoint, transport, codec, registry := b.registry, delivery, headers := b.headers }

def outline (b : Builder ι τ) : String :=
  Outline.record "GraphQLClientBuilder"
    [("endpoint", Outline.option (b.endpoint.map Endpoint.outline)),
     ("has_transport", Outline.truth b.transport.isSome),
     ("has_result_adapter", Outline.truth b.delivery.isSome),
     ("registry", b.registry.outline)]

end Builder

/-- A builder that starts out with the configuration of a client. -/
def Client.toBuilder (c : Client ι τ) : Builder ι τ where
  transport := some c.transport
  endpoint := some (.parsed c.endpoint)
  delivery := some c.delivery
  registry := c.registry
  headers := c.headers

end GraphClient
