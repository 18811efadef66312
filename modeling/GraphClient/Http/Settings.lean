import GraphClient.Http.Message
import GraphClient.Error

/-!
Settings of the transport over HTTP: how long an exchange may take, how many redirects it may
follow, and what every request carries. A transport may also wrap a connection that was set up
elsewhere; then it has no settings of its own.
-/

namespace GraphClient

structure HttpSettings where
  timeout : Nat := 30000
  connectTimeout : Nat := 10000
  -- the redirects an exchange may follow; none at zero
  maxRedirects : Nat := 10
  userAgent : String := "HorizonGraphQL/1.0.0 (Rust)"
  headers : Headers := .empty
  deriving DecidableEq

/-- A transport over HTTP, with its settings unless it wraps a connection set up elsewhere. -/
structure HttpTransport where
  settings : Option HttpSettings
  deriving DecidableEq

namespace HttpSettings

def withTimeout (s : HttpSettings) (ms : Nat) : HttpSettings := { s with timeout := ms }

def withConnectTimeout (s : HttpSettings) (ms : Nat) : HttpSettings :=
  { s with connectTimeout := ms }

def withMaxRedirects (s : HttpSettings) (n : Nat) : HttpSettings := { s with maxRedirects := n }

def withoutRedirects (s : HttpSettings) : HttpSettings := s.withMaxRedirects 0

def withUserAgent (s : HttpSettings) (name : String) : HttpSettings := { s with userAgent := name }

/-- Adds a header given by its name and the bytes of its value. -/
def withHeader (s : HttpSettings) (name : String) (bytes : List UInt8) :
    Except TransportError HttpSettings :=
  match s.headers.set name bytes with
  | .ok headers => .ok { s with headers }
  | .error fault => .error (.invalidHeader fault.message)

/-- Builds the transport. The name of the user agent must be fit for a header. -/
def build (s : HttpSettings) : Except TransportError HttpTransport :=
  if (HeaderValue.ofString? s.userAgent).isSome then .ok ⟨some s⟩
  else .error (.request "builder error")

/-- A time in seconds, if it is at least one, else in milliseconds. -/
def timeText (ms : Nat) : String :=
  if ms = 0 then "0ns"
  else if ms < 1000 then toString ms ++ "ms"
  else
    let digits := (toString (1000 + ms % 1000)).toList.drop 1
    let fraction := (digits.reverse.dropWhile (· == '0')).reverse
    toString (ms / 1000) ++ (if fraction.isEmpty then "" else "." ++ String.ofList fraction) ++ "s"

/-- A header value in quotes, with bytes that are no visible characters in hexadecimal. -/
def valueText (v : HeaderValue) : String :=
  "\"" ++ String.join (v.bytes.map fun b =>
    if b = 34 then "\\\""
    else if 32 ≤ b ∧ b < 127 then String.singleton (.ofNat b.toNat)
    else "\\x" ++ String.ofList (Nat.toDigits 16 b.toNat)) ++ "\""

def outline (s : HttpSettings) : String :=
  Outline.record "HttpTransportConfig"
    [("timeout", timeText s.timeout),
     ("connect_timeout", timeText s.connectTimeout),
     ("max_redirects", toString s.maxRedirects),
     ("user_agent", Outline.text s.userAgent),
     ("default_headers",
      Outline.mapping (s.headers.entries.map fun (name, v) => (Outline.text name, valueText v)))]

end HttpSettings

namespace HttpTransport

/-- A transport over a connection that was set up elsewhere. -/
def wrapping : HttpTransport := ⟨none⟩

def outline (t : HttpTransport) : String :=
  Outline.record "HttpTransport" [("config", Outline.option (t.settings.map HttpSettings.outline))]

end HttpTransport

end GraphClient
