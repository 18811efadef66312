import GraphClient.Url
import GraphClient.Error
import GraphClient.Codec
import GraphClient.Http.Message

/-!
Clients: frozen configurations, shared by all calls made with them. The transport is any type `τ`,
of which a client holds one value. Where its requests go can be given as text, which is read when the
client is built; the client itself keeps the URL.
-/

namespace GraphClient

inductive Endpoint where
  | text (s : String)
  | parsed (url : Url)
  deriving DecidableEq, Repr

namespace Endpoint

/-- The URL must have a host. -/
def check (url : Url) : Except ConfigurationError Url :=
  if url.isOpaque ∨ url.host?.isNone then
    .error (.invalidEndpoint url.text "URL must be absolute and have a host")
  else .ok url

def resolve : Endpoint → Except ConfigurationError Url
  | parsed url => check url
  | text s => match Url.parse s with
    | .ok url => check url
    | .error fault => .error (.invalidEndpoint s fault.message)

def outline : Endpoint → String
  | text s => Outline.tuple "Text" [Outline.text s]
  | parsed url => Outline.tuple "Parsed" [url.outline]

theorem eq_of_check {url checked : Url} (h : check url = .ok checked) : checked = url := by
  unfold check at h
  split at h
  · cases h
  · exact (Except.ok.inj h).symm

theorem check_of_check {url checked : Url} (h : check url = .ok checked) :
    check checked = .ok checked := by
  have same := eq_of_check h
  subst same
  exact h

/-- What an endpoint was resolved to resolves to itself. -/
theorem resolve_parsed_of_resolve {e : Endpoint} {url : Url} (h : e.resolve = .ok url) :
    (parsed url).resolve = .ok url := by
  cases e with
  | parsed u => exact check_of_check h
  | text s =>
    simp only [resolve] at h
    cases read : Url.parse s with
    | ok u => rw [read] at h; exact check_of_check h
    | error fault => rw [read] at h; cases h

end Endpoint

variable {ι : Type} [Domains ι]

/-- How a call and its result reach the caller. In the first three forms nothing happens until the
caller asks for it; a spawned call starts at once, in the background. -/
inductive Delivery where
  | raw
  | future
  | stream
  | spawn
  | blocking
  deriving DecidableEq, Repr

structure Client (ι : Type) [Domains ι] (τ : Type) where
  endpoint : Url
  transport : τ
  codec : Codec ι
  registry : Registry ι
  delivery : Delivery
  headers : Headers

namespace Client

variable {τ : Type}

/-- The name of the delivery is shown in full, so it is given along. -/
def outline (c : Client ι τ) (deliveryName : String) : String :=
  Outline.record "GraphQLClient"
    [("endpoint", Outline.text c.endpoint.text),
     ("codec", c.codec.outline),
     ("adapter", Outline.text deliveryName)]

end Client

end GraphClient
