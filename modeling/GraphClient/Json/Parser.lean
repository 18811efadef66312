import GraphClient.Json.NumberText
import GraphClient.Json.StringText

/-!
JSON values from text. Lists and objects nest to a fixed depth; of repeated member names the last
one counts.
-/

namespace GraphClient.Scan

open Text (Source Glyph)

/-- Members up to the end of the object, their values read by `item`. -/
def members {α : Type} (item : Source → Scan (α × Source)) :
    Nat → Bool → Source → Scan (List (String × α) × Source)
  | 0, _, src => fail .unfinishedObject src
  | fuel + 1, first, src => do
    let (more, src) ← nextMember first src
    if more then
      let (name, src) ← string (src.drop 1)
      let ((), src) ← colon src
      let (a, src) ← item src
      let (rest, src) ← members item fuel false src
      return ((name, a) :: rest, src)
    else return ([], src)

def object {α : Type} (item : Source → Scan (α × Source)) (src : Source) :
    Scan (List (String × α) × Source) :=
  settle closeObject (members item (Source.size src + 1) true src)

/-- A value that is no list or object, told by its first character. -/
def plainValue (src : Source) : Scan (Json × Source) :=
  match src with
  | [] => fail .unfinishedValue []
  | .char 'n' :: rest => do let ((), rest) ← word ['u', 'l', 'l'] rest; return (.null, rest)
  | .char 't' :: rest => do let ((), rest) ← word ['r', 'u', 'e'] rest; return (.bool true, rest)
  | .char 'f' :: rest => do
    let ((), rest) ← word ['a', 'l', 's', 'e'] rest
    return (.bool false, rest)
  | .char '"' :: rest => do let (s, rest) ← string rest; return (.string s, rest)
  | .char '-' :: rest => do let (n, rest) ← number true rest; return (.number n, rest)
  | .char c :: rest =>
    if c.isDigit then do
      let (n, rest) ← number false (.char c :: rest)
      return (.number n, rest)
    else failNext .expectedValue (.char c :: rest)
  | rest => failNext .expectedValue rest

/-- A value. Lists and objects may be opened `depth` deep. -/
def value (depth : Nat) (src : Source) : Scan (Json × Source) :=
  match skipBlanks src with
  | .char '[' :: rest =>
    match depth with
    | 0 => failNext .tooDeep (.char '[' :: rest)
    | depth + 1 => do
      let (items, rest) ← list (value depth) rest
      return (.array items, rest)
  | .char '\x7b' :: rest =>
    match depth with
    | 0 => failNext .tooDeep (.char '\x7b' :: rest)
    | depth + 1 => do
      let (ms, rest) ← object (value depth) rest
      return (.object (Entries.ofList ms), rest)
  | rest => plainValue rest

/-- Lists and objects may be opened this deep. -/
def maxDepth : Nat := 127

end GraphClient.Scan

namespace GraphClient.Json

open Text (Source)

def ofSource (text : Source) : Except JsonError Json := Scan.run (Scan.value Scan.maxDepth) text

def parse (bytes : ByteArray) : Except JsonError Json := ofSource (.ofBytes bytes)

end GraphClient.Json
