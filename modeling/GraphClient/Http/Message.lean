import GraphClient.Entries
import GraphClient.Url

/-!
The messages of one exchange: the request handed to a transport, always to be posted, and the
response it comes back with. Each carries a set of headers, one value for each name, where names are
compared without regard to letter case.
-/

namespace GraphClient

inductive HeaderFault where
  | invalidName | invalidValue
  deriving DecidableEq, Repr

def HeaderFault.message : HeaderFault → String
  | invalidName => "Invalid header name"
  | invalidValue => "Invalid header value"

namespace Header

def isNameChar (c : Char) : Bool :=
  c.isAlphanum || "!#$%&'*+-.^_`|~".toList.contains c

def normalizeName? (name : String) : Option String :=
  let cs := name.toList
  if !cs.isEmpty && cs.length < 65536 && cs.all isNameChar then
    some (String.ofList (cs.map Char.toLower))
  else none

/-- Any byte may stand in a header value except the control characters; of those the tab may. -/
def isValueByte (b : UInt8) : Bool := b == 9 || (32 ≤ b && b != 127)

end Header

structure HeaderValue where
  bytes : List UInt8
  valid : bytes.all Header.isValueByte = true
  deriving DecidableEq, Repr

namespace HeaderValue

def ofBytes? (bytes : List UInt8) : Option HeaderValue :=
  if h : bytes.all Header.isValueByte = true then some ⟨bytes, h⟩ else none

def ofString? (s : String) : Option HeaderValue := ofBytes? s.toUTF8.toList

def text? (v : HeaderValue) : Option String := String.fromUTF8? ⟨v.bytes.toArray⟩

def applicationJson : HeaderValue :=
  ⟨[97, 112, 112, 108, 105, 99, 97, 116, 105, 111, 110, 47, 106, 115, 111, 110], by decide⟩

theorem text?_applicationJson : applicationJson.text? = some "application/json" := by
  decide +kernel

end HeaderValue

structure Headers where
  entries : Entries HeaderValue := []
  deriving DecidableEq

namespace Headers

def empty : Headers := ⟨[]⟩

instance : Inhabited Headers := ⟨empty⟩

def insert (hs : Headers) (name : String) (value : HeaderValue) : Headers :=
  ⟨Entries.insert name value hs.entries⟩

def find? (hs : Headers) (name : String) : Option HeaderValue := Entries.find? name hs.entries

/-- Sets the header of a lower-case name unless there is one. -/
def insertIfAbsent (hs : Headers) (name : String) (value : HeaderValue) : Headers :=
  if (hs.find? name).isSome then hs else hs.insert name value

/-- Sets a header given by a name in any letter case and the bytes of its value. An invalid name is
reported before an invalid value. -/
def set (hs : Headers) (name : String) (bytes : List UInt8) : Except HeaderFault Headers :=
  match Header.normalizeName? name, HeaderValue.ofBytes? bytes with
  | none, _ => .error .invalidName
  | some _, none => .error .invalidValue
  | some name, some value => .ok (hs.insert name value)

end Headers

structure HttpRequest where
  url : Url
  headers : Headers
  body : ByteArray

structure HttpResponse where
  status : Nat
  headers : Headers := .empty
  body : ByteArray

namespace HttpResponse

/-- The status is one of success, from 200 to 299. -/
def isSuccess (r : HttpResponse) : Bool := 200 ≤ r.status && r.status < 300

def text? (r : HttpResponse) : Option String := String.fromUTF8? r.body

end HttpResponse

end GraphClient
