import GraphClient.Url.Address

/-!
Paths of URLs. A path is a list of segments, in which `.` and `..` have been followed, or, in a URL
without authority, an opaque text. Drive letters, which begin the path of a local file, are kept
when `..` is followed.
-/

namespace GraphClient

/-- The kinds of scheme: they differ in what a URL of the scheme may hold. -/
inductive SchemeKind where
  | special
  | file
  | other
  deriving DecidableEq, Repr

def SchemeKind.isSpecial (k : SchemeKind) : Bool := k != .other

inductive UrlPath where
  | opaqueText (text : String)
  | segments (ss : List String)
  deriving DecidableEq, Repr

namespace UrlPath

/-- Each segment stands behind a slash. -/
def text : UrlPath → String
  | opaqueText text => text
  | segments ss => String.join (ss.map ("/" ++ ·))

/-- A letter and a colon, where a bar is taken for a colon. -/
def isDriveLetter (s : List Char) : Bool :=
  match s with
  | [c, d] => c.isAlpha && (d == ':' || d == '|')
  | _ => false

def isDot (s : List Char) : Bool := ["." , "%2e"].contains (String.ofList (s.map Char.toLower))

def isDotDot (s : List Char) : Bool :=
  ["..", "%2e.", ".%2e", "%2e%2e"].contains (String.ofList (s.map Char.toLower))

/-- Leaves the last segment, which stands first here, unless it is a drive letter. -/
def leave : List (List Char) → List (List Char)
  | [] => []
  | s :: ss => if isDriveLetter s then s :: ss else ss

/-- Follows segments that are already encoded; those passed so far stand last first. -/
def follow (passed : List (List Char)) : List (List Char) → List (List Char)
  | [] => passed
  | s :: rest =>
    let isLast := rest.isEmpty
    if isDotDot s then follow (if isLast then [] :: leave passed else leave passed) rest
    else if isDot s then follow (if isLast then [] :: passed else passed) rest
    else follow (s :: passed) rest

/-- The segments that a text behind the first slash spells. -/
def ofChars (kind : SchemeKind) (cs : List Char) : List (List Char) :=
  let isSeparator c := c == '/' || (kind.isSpecial && c == '\\')
  (follow [] ((cutAt isSeparator cs).map (Percent.encode Percent.inPath))).reverse

/-- Empty segments at the start of a file's path are dropped, but one segment stays. -/
def trimmed (ss : List (List Char)) : List (List Char) :=
  match ss.dropWhile List.isEmpty with
  | [] => [[]]
  | ss => ss

/-- As `follow`, in the path of a file: a drive letter that no segment stands before gets its colon.
The flag says whether there is one. -/
def followFile (passed : List (List Char)) : List (List Char) → List (List Char) × Bool
  | [] => (passed, false)
  | s :: rest =>
    let isLast := rest.isEmpty
    if isDotDot s then followFile (if isLast then [] :: leave passed else leave passed) rest
    else if isDot s then followFile (if isLast then [] :: passed else passed) rest
    else match passed, s with
      | [], [c, d] =>
        if isDriveLetter [c, d] then (follow [[c, ':']] rest, true)
        else followFile [[c, d]] rest
      | passed, s => followFile (s :: passed) rest

/-- The segments of a file's path, and whether it begins with a drive letter. -/
def ofFileChars (cs : List Char) : List (List Char) × Bool :=
  let isSeparator c := c == '/' || c == '\\'
  let (ss, hasDrive) :=
    followFile [] ((cutAt isSeparator cs).map (Percent.encode Percent.inPath))
  (trimmed ss.reverse, hasDrive)

end UrlPath

end GraphClient
