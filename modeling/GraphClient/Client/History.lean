import GraphClient.Client.Builder
import Mathlib.Data.List.Dedup

/-!
Histories of a configuration: the settings that were made, one after the other. What a history comes
to is read off the settings alone. Of a part that is set as a whole the last setting counts, of
header faults the first one; scalars come in the order in which their names first came up, each with
its last adapter that fits.
-/

namespace GraphClient

variable {ι : Type} [Domains ι] {τ α : Type}

inductive Setting (ι : Type) [Domains ι] (τ : Type) where
  | transport (t : τ)
  | endpoint (e : Endpoint)
  | delivery (d : Delivery)
  | header (name : String) (bytes : List UInt8)
  | bearerToken (token : String)
  | adapter (scalar : ScalarType ι) (adapter : Adapter ι)
  | scalar (scalar : ScalarType ι)

namespace Builder

def configure (b : Builder ι τ) : Setting ι τ → Builder ι τ
  | .transport t => b.withTransport t
  | .endpoint e => b.withEndpoint e
  | .delivery d => b.withDelivery d
  | .header name bytes => b.withHeader name bytes
  | .bearerToken token => b.withBearerToken token
  | .adapter scalar adapter => b.withAdapter scalar adapter
  | .scalar scalar => b.withScalar scalar

def configureAll (b : Builder ι τ) (settings : List (Setting ι τ)) : Builder ι τ :=
  settings.foldl configure b

end Builder

/-- What is wrong with a header. The name comes before the value. -/
def Header.fault? (name : String) (bytes : List UInt8) : Option HeaderFault :=
  if (normalizeName? name).isNone then some .invalidName
  else if (HeaderValue.ofBytes? bytes).isNone then some .invalidValue
  else none

/-- What is wrong with an adapter for a scalar: it handles another domain type. -/
def ScalarType.mismatch? (scalar : ScalarType ι) (adapter : Adapter ι) :
    Option ConfigurationError :=
  if scalar.domain = adapter.domain then none
  else some (.scalarTypeMismatch scalar.name scalar.typeName adapter.typeName)

/-- The first of the required parts that is not there. -/
def missingPart? (t : Option τ) (e : Option Endpoint) (d : Option Delivery) :
    Option ConfigurationError :=
  if t.isNone then some (.missingField "transport")
  else if e.isNone then some (.missingField "server_url")
  else if d.isNone then some (.missingField "result_adapter")
  else none

def error? : Except ConfigurationError α → Option ConfigurationError
  | .ok _ => none
  | .error why => some why

namespace Setting

def transport? : Setting ι τ → Option τ
  | transport t => some t
  | _ => none

def endpoint? : Setting ι τ → Option Endpoint
  | endpoint e => some e
  | _ => none

def delivery? : Setting ι τ → Option Delivery
  | delivery d => some d
  | _ => none

/-- The header that is set, be it by its name or as the one that carries a token. -/
def header? : Setting ι τ → Option (String × List UInt8)
  | header name bytes => some (name, bytes)
  | bearerToken token => some ("authorization", ("Bearer " ++ token).toUTF8.toList)
  | _ => none

def headerFault? (s : Setting ι τ) : Option HeaderFault :=
  s.header?.bind fun (name, bytes) => Header.fault? name bytes

/-- The value that is set for a header, given by the lower-case form of its name. -/
def headerValue? (key : String) (s : Setting ι τ) : Option HeaderValue :=
  s.header?.bind fun (name, bytes) =>
    if Header.normalizeName? name = some key then HeaderValue.ofBytes? bytes else none

def registration? : Setting ι τ → Option (ScalarType ι × Adapter ι)
  | adapter s a => some (s, a)
  | _ => none

/-- A registration under a name, whether the adapter fits or not. -/
def registrationOf? (name : String) (s : Setting ι τ) : Option (ScalarType ι × Adapter ι) :=
  s.registration?.filter fun r => r.1.name = name

def matching? (name : String) (s : Setting ι τ) : Option (ScalarType ι × Adapter ι) :=
  (s.registrationOf? name).filter fun r => r.1.domain = r.2.domain

def declared? : Setting ι τ → Option String
  | scalar s => some s.name
  | _ => none

/-- The name that comes up: that of a scalar that is declared, or is given an adapter that fits. -/
def entered? : Setting ι τ → Option String
  | scalar s => some s.name
  | adapter s a => if s.domain = a.domain then some s.name else none
  | _ => none

theorem registrationOf?_adapter (s : ScalarType ι) (a : Adapter ι) (name : String) :
    (adapter s a : Setting ι τ).registrationOf? name =
      if s.name = name then some (s, a) else none := by
  simp [registrationOf?, registration?, Option.filter_some]

theorem matching?_adapter (s : ScalarType ι) (a : Adapter ι) (name : String) :
    (adapter s a : Setting ι τ).matching? name =
      if s.name = name ∧ s.domain = a.domain then some (s, a) else none := by
  unfold matching?
  rw [registrationOf?_adapter]
  by_cases hn : s.name = name
  · simp [hn, Option.filter_some]
  · simp [hn]

end Setting

/-- The settings that were made on a new builder, the first one first. -/
abbrev History (ι : Type) [Domains ι] (τ : Type) := List (Setting ι τ)

/-- The builder on which all settings of a history were made. -/
def Builder.ofHistory (h : History ι τ) : Builder ι τ := Builder.empty.configureAll h

namespace History

def last? (h : History ι τ) (get : Setting ι τ → Option α) : Option α := (h.filterMap get).getLast?

def missing? (h : History ι τ) : Option ConfigurationError :=
  missingPart? (h.last? Setting.transport?) (h.last? Setting.endpoint?) (h.last? Setting.delivery?)

def unresolved? (h : History ι τ) : Option ConfigurationError :=
  (h.last? Setting.endpoint?).bind fun e => error? e.resolve

/-- What was wrong with the first header that was wrong. -/
def refusedHeader? (h : History ι τ) : Option ConfigurationError :=
  (h.findSome? Setting.headerFault?).map fun fault => .invalidHeader fault.message

/-- The names under which adapters were registered, in the order of their last registrations. -/
def registered (h : History ι τ) : List String :=
  ((h.filterMap Setting.registration?).map fun r => r.1.name).dedup

/-- What is wrong with the last registration under a name. -/
def mismatch? (h : History ι τ) (name : String) : Option ConfigurationError :=
  (h.last? (Setting.registrationOf? name)).bind fun r => r.1.mismatch? r.2

/-- Of the names whose last registration does not fit, what is wrong with the one whose last
registration came first. -/
def mismatched? (h : History ι τ) : Option ConfigurationError := h.registered.findSome? h.mismatch?

/-- The first declared scalar that was never given an adapter that fits. -/
def unserved? (h : History ι τ) : Option ConfigurationError :=
  ((h.filterMap Setting.declared?).find? fun name =>
    (h.last? (Setting.matching? name)).isNone).map .missingScalarAdapter

/-- What building reports, if anything: the first of these that applies. -/
def fault? (h : History ι τ) : Option ConfigurationError :=
  [h.missing?, h.unresolved?, h.refusedHeader?, h.mismatched?, h.unserved?].findSome? id

/-- The names that came up, in the order in which they did first. -/
def entered (h : History ι τ) : List String := (h.filterMap Setting.entered?).eraseDups

/-- Each name's last registration that fits, in the order of the names. -/
def scalars (h : History ι τ) : List (ScalarType ι × Adapter ι) :=
  h.entered.filterMap fun name => h.last? (Setting.matching? name)

structure Describes (h : History ι τ) (c : Client ι τ) : Prop where
  transport : h.last? Setting.transport? = some c.transport
  endpoint : ∃ e, h.last? Setting.endpoint? = some e ∧ e.resolve = .ok c.endpoint
  delivery : h.last? Setting.delivery? = some c.delivery
  -- under each name in lower case, whatever the case in which it was given, stands the last value
  headers : ∀ key, c.headers.find? key = h.last? (Setting.headerValue? key)
  sorted : Entries.Sorted c.headers.entries
  -- the names come in the order in which they first came up, and none is left out
  names : c.registry.names = h.entered
  registry : c.registry.entries = h.scalars.map fun r => ⟨r.1, some r.2⟩
  codec : c.codec.adapters = h.scalars

end History

end GraphClient
