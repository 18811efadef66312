import GraphClient.Client
import GraphClient.Operation
import GraphClient.Response
import GraphClient.Http.Message

/-!
One exchange with the server: from an operation to the request, and from what the transport gives to
the result of the call. Every way in which the exchange can end gives one result, and no two of them
are mixed: errors of the server are passed on in full beside data, and stand for data that does not
fit.
-/

namespace GraphClient

variable {ι : Type} [Domains ι] {τ D : Type}

/-- What a call comes to. -/
abbrev CallResult (D : Type) := Except CallError (Response D)

namespace Exchange

/-- The headers of a request: those of the client, except that the content is always JSON, and that
JSON is accepted unless the client says otherwise. -/
def headers (defaults : Headers) : Headers :=
  (defaults.insert "content-type" .applicationJson).insertIfAbsent "accept" .applicationJson

def request (c : Client ι τ) (op : Operation ι D) : Except EncodeError HttpRequest := do
  let vars ← c.codec.encodeVariables op.vars
  let envelope :=
    ((Request.ofDocument op.document).withOperationName op.name).withVariables vars
  return { url := c.endpoint, headers := headers c.headers, body := envelope.body.toUTF8 }

def envelope (codec : Codec ι) : Except TransportError HttpResponse → Except CallError Envelope
  | .error why => .error (.transport why)
  | .ok r =>
    if r.isSuccess then
      match codec.parse r.body with
      | .error why => .error (.decode why)
      | .ok tree => (codec.decode Envelope.shape tree).mapError .decode
    else .error (.httpStatus r.status r.text?)

/-- The result of an envelope, given what the mapper said of its data. Where the mapper failed, the
errors of the server come first. -/
def conclude (name : String) (e : Envelope) : Option (Except DecodeError D) → CallResult D
  | none => .ok ⟨name, none, e.errors, e.extensions⟩
  | some (.ok d) => .ok ⟨name, some d, e.errors, e.extensions⟩
  | some (.error why) => if e.errors.isEmpty then .error (.decode why) else .error (.graphql e.errors)

def answer (codec : Codec ι) (op : Operation ι D)
    (outcome : Except TransportError HttpResponse) : CallResult D :=
  match envelope codec outcome with
  | .error why => .error why
  | .ok e => conclude op.name e (e.data?.map fun v => op.mapper.map (.root codec v))

/-- A whole exchange by a transport that answers each request by itself. -/
def run (c : Client ι τ) (op : Operation ι D)
    (transport : HttpRequest → Except TransportError HttpResponse) : CallResult D :=
  match request c op with
  | .error why => .error (.encode why)
  | .ok r => answer c.codec op (transport r)

end Exchange

end GraphClient
