import GraphClient.Url.Host
import GraphClient.Url.Path

/-!
Absolute URLs: reading them from text, and writing them in their normal form. Schemes and domain
names are lower-case, the default port of a scheme is left out, dots in paths are followed, and
every part is percent-encoded as far as it has to be.
-/

namespace GraphClient

structure Authority where
  username : String := ""
  password : Option String := none
  -- absent where a scheme allows an empty host
  host : Option Host := none
  port : Option Nat := none
  deriving DecidableEq, Repr

structure Url where
  scheme : String
  authority : Option Authority
  path : UrlPath
  query : Option String
  fragment : Option String
  deriving DecidableEq, Repr

namespace Authority

def text (a : Authority) : String :=
  let secret := match a.password with | some p => ":" ++ p | none => ""
  let user := if a.username = "" ∧ a.password = none then "" else a.username ++ secret ++ "@"
  let host := match a.host with | some h => h.text | none => ""
  let port := match a.port with | some n => ":" ++ toString n | none => ""
  user ++ host ++ port

end Authority

namespace Url

def host? (u : Url) : Option Host := u.authority.bind (·.host)

def port? (u : Url) : Option Nat := u.authority.bind (·.port)

def username (u : Url) : String := match u.authority with | some a => a.username | none => ""

def password? (u : Url) : Option String := u.authority.bind (·.password)

/-- The path is opaque, so that no relative reference can be resolved against the URL. -/
def isOpaque (u : Url) : Bool :=
  match u.path, u.authority with
  | .opaqueText _, none => true
  | _, _ => false

/-- The normal form. A path that would be taken for an authority is set off by a dot. -/
def text (u : Url) : String :=
  let authority := match u.authority with
    | some a => "//" ++ a.text
    | none => if u.path.text.toList.take 2 = ['/', '/'] then "/." else ""
  let query := match u.query with | some q => "?" ++ q | none => ""
  let fragment := match u.fragment with | some f => "#" ++ f | none => ""
  u.scheme ++ ":" ++ authority ++ u.path.text ++ query ++ fragment

def outline (u : Url) : String :=
  let optionalText (s : Option String) := Outline.option (s.map Outline.text)
  Outline.record "Url"
    [("scheme", Outline.text u.scheme),
     ("cannot_be_a_base", Outline.truth u.isOpaque),
     ("username", Outline.text u.username),
     ("password", optionalText u.password?),
     ("host", Outline.option (u.host?.map Host.outline)),
     ("port", Outline.option (u.port?.map toString)),
     ("path", Outline.text u.path.text),
     ("query", optionalText u.query),
     ("fragment", optionalText u.fragment)]

/-- The port that a scheme uses when none is given. -/
def defaultPort? (scheme : String) : Option Nat :=
  [("http", 80), ("https", 443), ("ws", 80), ("wss", 443), ("ftp", 21)].lookup scheme

def kindOf (scheme : String) : SchemeKind :=
  if scheme = "file" then .file
  else if (defaultPort? scheme).isSome then .special
  else .other

/-- The text without control characters and blanks around it, and without line breaks and tabs
inside. -/
def cleaned (text : String) : List Char :=
  let isOuter (c : Char) : Bool := c.val ≤ 0x20
  let trimmed := ((text.toList.dropWhile isOuter).reverse.dropWhile isOuter).reverse
  trimmed.filter fun c => c != '\t' && c != '\n' && c != '\r'

/-- The scheme in lower case, and what follows its colon. -/
def splitScheme (cs : List Char) : Option (String × List Char) :=
  let isSchemeChar (c : Char) := c.isAlphanum || c == '+' || c == '-' || c == '.'
  match cs with
  | [] => none
  | c :: _ =>
    if c.isAlpha then
      match cs.dropWhile isSchemeChar with
      | ':' :: rest =>
        some (String.ofList ((cs.takeWhile isSchemeChar).map Char.toLower), rest)
      | _ => none
    else none

/-- The query and the fragment, from the mark that begins the first of them. -/
def splitTail (kind : SchemeKind) (cs : List Char) : Option String × Option String :=
  let encodedQuery := if kind.isSpecial then Percent.inSpecialQuery else Percent.inQuery
  let fragment (cs : List Char) := match cs with
    | '#' :: f => some (String.ofList (Percent.encode Percent.inFragment f))
    | _ => none
  match cs with
  | '?' :: rest =>
    (some (String.ofList (Percent.encode encodedQuery (rest.takeWhile (· != '#')))),
      fragment (rest.dropWhile (· != '#')))
  | cs => (none, fragment cs)

def endsPath (c : Char) : Bool := c == '?' || c == '#'

/-- The URL of an authority and of the text behind it. -/
def assemble (scheme : String) (authority : Option Authority) (path : UrlPath)
    (tail : List Char) : Url :=
  let (query, fragment) := splitTail (kindOf scheme) tail
  { scheme, authority, path, query, fragment }

/-- The path that begins with a slash or is empty. Where the scheme is special it is never
empty. -/
def rootedPath (kind : SchemeKind) (cs : List Char) : UrlPath :=
  match cs with
  | [] => if kind.isSpecial then .segments [""] else .segments []
  | c :: rest =>
    let below := if c == '/' || (kind.isSpecial && c == '\\') then rest else c :: rest
    .segments ((UrlPath.ofChars kind below).map String.ofList)

/-- The user name and password before the last at sign, and the text behind it. `ended` says that
the URL goes on behind the authority. -/
def splitUserInfo (cs : List Char) (ended : Bool) :
    Except UrlFault ((String × Option String) × List Char) :=
  if cs.contains '@' then
    let host := (cs.reverse.takeWhile (· != '@')).reverse
    let info := cs.take (cs.length - host.length - 1)
    if info.isEmpty && host.isEmpty && ended then .error .emptyHost
    else
      let encode cs := String.ofList (Percent.encode Percent.inUserInfo cs)
      let password := (info.dropWhile (· != ':')).drop 1
      .ok ((encode (info.takeWhile (· != ':')),
        if password.isEmpty then none else some (encode password)), host)
  else .ok (("", none), cs)

/-- The host text, up to the first colon outside of brackets, and what follows it. -/
def splitHost (inBrackets : Bool) : List Char → List Char × List Char
  | [] => ([], [])
  | c :: cs =>
    if c == ':' && !inBrackets then ([], c :: cs)
    else
      let (host, rest) := splitHost (c == '[' || (inBrackets && c != ']')) cs
      (c :: host, rest)

/-- The port behind a colon, unless it is the default, and what follows it. -/
def splitPort (scheme : String) : List Char → Except UrlFault (Option Nat × List Char)
  | ':' :: cs =>
    let digits := cs.takeWhile Char.isDigit
    let rest := cs.dropWhile Char.isDigit
    match Ipv4.digits? 10 digits with
    | none => .error .invalidPort
    | some n =>
      if n ≥ 65536 then .error .invalidPort
      else match rest with
        | [] | '\\' :: _ =>
          .ok (if digits.isEmpty || defaultPort? scheme == some n then none else some n, rest)
        | _ => .error .invalidPort
  | cs => .ok (none, cs)

def parseAuthority (scheme : String) (cs : List Char) : Except UrlFault Url := do
  let kind := kindOf scheme
  let endsAuthority c := c == '/' || endsPath c || (kind.isSpecial && c == '\\')
  let behind := cs.dropWhile fun c => !endsAuthority c
  let ((username, password), hostAndPort) ←
    splitUserInfo (cs.takeWhile fun c => !endsAuthority c) !behind.isEmpty
  let (hostText, rest) := splitHost false hostAndPort
  let host ← if kind.isSpecial then
      if hostText.isEmpty then .error .emptyHost else (Host.ofSpecial? hostText).map some
    else Host.ofOther? hostText
  if host.isNone && rest.head? == some ':' then .error .emptyHost
  let (port, rest) ← splitPort scheme rest
  if host.isNone && (username != "" || password.isSome) then .error .emptyHost
  let path := rest ++ behind
  return assemble scheme (some { username, password, host, port })
    (rootedPath kind (path.takeWhile fun c => !endsPath c)) (path.dropWhile fun c => !endsPath c)

/-- Reads what stands behind the scheme of a local file. Two slashes lead to a host, unless a drive
letter follows; the local host is as good as none. Where there is no host behind two slashes, the
path begins with the empty segment in front of its slash, and so not with a drive letter. -/
def parseFile (cs : List Char) : Except UrlFault Url := do
  let isSlash c := c == '/' || c == '\\'
  let finish (host : Option Host) (path : List Char) : Url :=
    let (segments, hasDrive) := UrlPath.ofFileChars (path.takeWhile fun c => !endsPath c)
    assemble "file" (some { host := if hasDrive then none else host })
      (.segments (segments.map String.ofList)) (path.dropWhile fun c => !endsPath c)
  let belowSlash (cs : List Char) := if cs.head?.any isSlash then cs.drop 1 else cs
  if (cs.take 2).length = 2 ∧ (cs.take 2).all isSlash then
    let ends c := isSlash c || endsPath c
    let hostText := (cs.drop 2).takeWhile fun c => !ends c
    let behind := (cs.drop 2).dropWhile fun c => !ends c
    if UrlPath.isDriveLetter hostText then return finish none (cs.drop 2)
    else if hostText.isEmpty then return finish none behind
    else
      let host ← Host.ofSpecial? hostText
      if host = .domain "localhost" then return finish none behind
      else return finish (some host) (belowSlash behind)
  else return finish none (belowSlash cs)

/-- Reads what stands behind any other scheme that is not special. -/
def parseOther (scheme : String) (cs : List Char) : Except UrlFault Url :=
  let path := cs.takeWhile fun c => !endsPath c
  let tail := cs.dropWhile fun c => !endsPath c
  match cs with
  | '/' :: '/' :: rest => parseAuthority scheme rest
  | '/' :: _ => .ok (assemble scheme none (rootedPath .other path) tail)
  | _ =>
    let text := String.ofList (Percent.encode Percent.isControl path)
    .ok (assemble scheme none (.opaqueText text) tail)

/-- Reads a URL. It must be absolute. -/
def parse (text : String) : Except UrlFault Url :=
  match splitScheme (cleaned text) with
  | none => .error .noScheme
  | some (scheme, rest) =>
    match kindOf scheme with
    | .file => parseFile rest
    | .special => parseAuthority scheme (rest.dropWhile fun c => c == '/' || c == '\\')
    | .other => parseOther scheme rest

end Url

end GraphClient
