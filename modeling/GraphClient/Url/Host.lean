import GraphClient.Url.Address
import GraphClient.Url.DomainName
import GraphClient.Text.Outline

/-!
Hosts of URLs, and what can be wrong with a URL. A URL of a special scheme has a domain name or an
address; in any other URL the host is taken as it stands.
-/

namespace GraphClient

inductive UrlFault where
  | noScheme | emptyHost | invalidPort | invalidIpv4 | invalidIpv6 | invalidDomain
  | forbiddenHostCharacter
  deriving DecidableEq, Repr

def UrlFault.message : UrlFault → String
  | noScheme => "relative URL without a base"
  | emptyHost => "empty host"
  | invalidPort => "invalid port number"
  | invalidIpv4 => "invalid IPv4 address"
  | invalidIpv6 => "invalid IPv6 address"
  | invalidDomain => "invalid international domain name"
  | forbiddenHostCharacter => "invalid domain character"

inductive Host where
  | domain (name : String)
  | ipv4 (address : Ipv4)
  | ipv6 (address : Ipv6)
  deriving DecidableEq, Repr

namespace Host

def text : Host → String
  | domain name => name
  | ipv4 address => address.text
  | ipv6 address => "[" ++ address.text ++ "]"

def outline : Host → String
  | domain name => Outline.tuple "Domain" [Outline.text name]
  | ipv4 address => Outline.tuple "Ipv4" [address.text]
  | ipv6 address => Outline.tuple "Ipv6" [address.mixedText]

def isForbidden (c : Char) : Bool :=
  ['\x00', '\t', '\n', '\r', ' ', '#', '/', ':', '<', '>', '?', '@', '[', '\\', ']', '^', '|'].contains
    c

/-- Not allowed in a domain name. Domain names are ASCII here. -/
def isForbiddenInDomain (c : Char) : Bool :=
  isForbidden c || c == '%' || c.val ≤ 0x20 || 0x7f ≤ c.val

def bracketed? (cs : List Char) : Except UrlFault Host :=
  match cs.reverse with
  | ']' :: inner => match Ipv6.ofChars? inner.reverse with
    | some address => .ok (ipv6 address)
    | none => .error .invalidIpv6
  | _ => .error .invalidIpv6

/-- The domain name that the bytes spell, in lower case. -/
def domainOfBytes? (bytes : List UInt8) : Option (List Char) :=
  let cs := bytes.map fun b => Char.ofNat b.toNat
  if cs.any isForbiddenInDomain then none
  else some (cs.map Char.toLower) |>.filter DomainName.isValid

/-- The host of a URL with a special scheme. A name whose last part is a number must be an
address. -/
def ofSpecial? : List Char → Except UrlFault Host
  | '[' :: cs => bracketed? cs
  | cs =>
    match domainOfBytes? (Percent.decode cs) with
    | none => .error .invalidDomain
    | some [] => .error .emptyHost
    | some name =>
      if Ipv4.isMeant name then
        match Ipv4.ofChars? name with
        | some address => .ok (ipv4 address)
        | none => .error .invalidIpv4
      else .ok (domain (String.ofList name))

/-- The host of any other URL; it may be absent. -/
def ofOther? : List Char → Except UrlFault (Option Host)
  | '[' :: cs => (bracketed? cs).map some
  | [] => .ok none
  | cs =>
    if cs.any isForbidden then .error .forbiddenHostCharacter
    else .ok (some (domain (String.ofList (Percent.encode Percent.isControl cs))))

end Host

end GraphClient
