import GraphClient.Json.Parser

/-!
Skipping a value that nobody asked for. Only the outer form is checked: brackets, commas, names and
colons, the spelling of words, and the parts of a number. Nesting is not bounded, numbers may be of
any size, and escapes need not pair up.
-/

namespace GraphClient.Scan

open Text (Source Glyph)

inductive Enclosing where
  | list | object
  deriving DecidableEq, Repr

def skipString : Nat → Source → Scan (Unit × Source)
  | 0, _ => fail .unfinishedString []
  | _ + 1, [] => fail .unfinishedString []
  | _ + 1, .char '"' :: rest => .ok ((), rest)
  | fuel + 1, .char '\\' :: rest =>
    match rest with
    | .char 'u' :: rest => do
      let (_, rest) ← hex4 rest
      skipString fuel rest
    | rest => do
      let (_, rest) ← escaped rest
      skipString fuel rest
  | fuel + 1, g :: rest =>
    match g with
    | .char c => if c.toNat < 32 then fail .controlCharacter (g :: rest) else skipString fuel rest
    | .stray _ => skipString fuel rest

def skipDigits (src : Source) : Scan (Unit × Source) :=
  match digits src with
  | ([], _) => failNext .invalidNumber src
  | (_, rest) => .ok ((), rest)

/-- The exponent of a number, if it has one. -/
def skipExponent (src : Source) : Scan (Unit × Source) :=
  match exponent? src with
  | some (.char '-' :: rest) => skipDigits rest
  | some (.char '+' :: rest) => skipDigits rest
  | some rest => skipDigits rest
  | none => .ok ((), src)

def skipNumber (src : Source) : Scan (Unit × Source) :=
  match digits src with
  | ([], _) => failNext .invalidNumber src
  | (0 :: _ :: _, _) => failNext .invalidNumber (src.drop 1)
  | (_, .char '.' :: rest) => do
    let ((), rest) ← skipDigits rest
    skipExponent rest
  | (_, rest) => skipExponent rest

/-- Skips a value that is no list or object, or goes into one. -/
def skipOne (src : Source) : Scan (Option Enclosing × Source) :=
  match skipBlanks src with
  | [] => fail .unfinishedValue []
  | .char '[' :: rest => .ok (some .list, rest)
  | .char '\x7b' :: rest => .ok (some .object, rest)
  | .char 'n' :: rest => do let ((), rest) ← word ['u', 'l', 'l'] rest; return (none, rest)
  | .char 't' :: rest => do let ((), rest) ← word ['r', 'u', 'e'] rest; return (none, rest)
  | .char 'f' :: rest => do let ((), rest) ← word ['a', 'l', 's', 'e'] rest; return (none, rest)
  | .char '"' :: rest => do
    let ((), rest) ← skipString (Source.size rest + 1) rest
    return (none, rest)
  | .char '-' :: rest => do let ((), rest) ← skipNumber rest; return (none, rest)
  | .char c :: rest =>
    if c.isDigit then do
      let ((), rest) ← skipNumber (.char c :: rest)
      return (none, rest)
    else failNext .expectedValue (.char c :: rest)
  | rest => failNext .expectedValue rest

def skipName (src : Source) : Scan (Unit × Source) :=
  match skipBlanks src with
  | [] => fail .unfinishedObject []
  | .char '"' :: rest => do
    let ((), rest) ← skipString (Source.size rest + 1) rest
    colon rest
  | rest => failNext .keyNotString rest

/-- Skips what is left of the open lists and objects, innermost first. `fresh` says that nothing
has been read of the innermost one. -/
def skipRest : Nat → List Enclosing → Bool → Source → Scan (Unit × Source)
  | _, [], _, src => .ok ((), src)
  | 0, _ :: _, _, src => fail .unfinishedValue src
  | fuel + 1, e :: outer, fresh, src =>
    match skipBlanks src, e with
    | [], .list => fail .unfinishedList []
    | [], .object => fail .unfinishedObject []
    | .char ']' :: rest, .list => skipRest fuel outer false rest
    | .char '\x7d' :: rest, .object => skipRest fuel outer false rest
    | .char ',' :: rest, e => skipElement fuel e outer (if fresh then .char ',' :: rest else rest)
    | rest, e =>
      if fresh then skipElement fuel e outer rest
      else failNext (match e with | .list => .expectedListComma | .object => .expectedObjectComma) rest
where
  skipElement (fuel : Nat) (e : Enclosing) (outer : List Enclosing) (src : Source) :
      Scan (Unit × Source) := do
    let ((), src) ← match e with
      | .list => pure ((), src)
      | .object => skipName src
    match ← skipOne src with
    | (some inner, rest) => skipRest fuel (inner :: e :: outer) true rest
    | (none, rest) => skipRest fuel (e :: outer) false rest

def skipValue (src : Source) : Scan (Unit × Source) := do
  match ← skipOne src with
  | (some e, rest) => skipRest (Source.size rest + 1) [e] true rest
  | (none, rest) => return ((), rest)

end GraphClient.Scan
