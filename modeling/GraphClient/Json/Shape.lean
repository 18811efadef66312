import GraphClient.Json.Skip

/-!
Shapes of JSON. A shape says how a typed value is taken from a JSON value, and how the same value
is read from JSON text directly. From text the first fault in reading order is reported, with its
place; in a value the members of an object are met in name order and faults have no place.
-/

namespace GraphClient

open Text (Source Glyph)

structure Shape (α : Type) where
  read : Json → Except Mismatch α
  -- reads the value from text in which lists and objects may be opened so deep
  scan : Nat → Source → Scan (α × Source)

namespace Shape

variable {α β : Type}

open Scan (fail failNext refuse skipBlanks)

def map (f : α → β) (s : Shape α) : Shape β where
  read v := (s.read v).map f
  scan depth src := do
    let (a, rest) ← s.scan depth src
    return (f a, rest)

/-- Reports the value in front as one of the wrong sort. A list or object is not read. -/
def unexpected (expected : String) (src : Source) : Scan (α × Source) :=
  match src with
  | .char '[' :: _ => refuse (.invalidType .sequence expected) src
  | .char '\x7b' :: _ => refuse (.invalidType .map expected) src
  | src => do
    let (v, rest) ← Scan.plainValue src
    refuse (.invalidType (.ofJson v) expected) rest

/-- Values other than lists and objects, given by what is accepted of them. -/
def scalar (expected : String) (accept : Json → Option (Except Mismatch α)) : Shape α where
  read v := (accept v).getD (.error (.invalidType (.ofJson v) expected))
  scan _ src :=
    match skipBlanks src with
    | .char '[' :: rest => refuse (.invalidType .sequence expected) (.char '[' :: rest)
    | .char '\x7b' :: rest => refuse (.invalidType .map expected) (.char '\x7b' :: rest)
    | src => do
      let (v, rest) ← Scan.plainValue src
      match (accept v).getD (.error (.invalidType (.ofJson v) expected)) with
      | .ok a => return (a, rest)
      | .error why => refuse why rest

def any : Shape Json where
  read := .ok
  scan := Scan.value

def string : Shape String :=
  scalar "a string" fun
    | .string s => some (.ok s)
    | _ => none

def bool : Shape Bool :=
  scalar "a boolean" fun
    | .bool b => some (.ok b)
    | _ => none

def unit : Shape Unit :=
  scalar "unit" fun
    | .null => some (.ok ())
    | _ => none

def float : Shape Float :=
  scalar "f64" fun
    | .number n => some (.ok n.toFloat)
    | _ => none

/-- Integers between two bounds, both allowed. A number with a fraction or an exponent is none. -/
def int (name : String) (least greatest : Int) : Shape Int :=
  scalar name fun
    | .number (.int n _) =>
      some (if least ≤ n ∧ n ≤ greatest then .ok n else .error (.invalidValue (.integer n) name))
    | _ => none

def nat (name : String) (greatest : Nat) : Shape Nat := (int name 0 greatest).map Int.toNat

def int64 : Shape Int := int "i64" (-9223372036854775808) 9223372036854775807
def nat8 : Shape Nat := nat "u8" 255
def nat32 : Shape Nat := nat "u32" 4294967295

def option (s : Shape α) : Shape (Option α) where
  read
    | .null => .ok none
    | v => (s.read v).map some
  scan depth src :=
    match skipBlanks src with
    | .char 'n' :: rest => do
      let ((), rest) ← Scan.word ['u', 'l', 'l'] rest
      return (none, rest)
    | src => do
      let (a, rest) ← s.scan depth src
      return (some a, rest)

/-- Goes into a list or object, if another one may be opened. -/
def nested (depth : Nat) (src : Source) (body : Nat → Source → Scan (α × Source)) :
    Scan (α × Source) :=
  match depth with
  | 0 => failNext .tooDeep src
  | depth + 1 => body depth (src.drop 1)

def readItems (s : Shape α) : List Json → Except Mismatch (List α)
  | [] => .ok []
  | v :: rest => do return (← s.read v) :: (← readItems s rest)

def list (s : Shape α) : Shape (List α) where
  read
    | .array items => readItems s items
    | v => .error (.invalidType (.ofJson v) "a sequence")
  scan depth src :=
    match skipBlanks src with
    | [] => fail .unfinishedValue []
    | .char '[' :: rest =>
      nested depth (.char '[' :: rest) fun depth => Scan.list (s.scan depth)
    | src => unexpected "a sequence" src

def readMembers (s : Shape α) : List (String × Json) → Except Mismatch (List (String × α))
  | [] => .ok []
  | (name, v) :: rest => do return (name, ← s.read v) :: (← readMembers s rest)

def entries (s : Shape α) : Shape (Entries α) where
  read
    | .object members => (readMembers s members).map Entries.ofList
    | v => .error (.invalidType (.ofJson v) "a map")
  scan depth src :=
    match skipBlanks src with
    | [] => fail .unfinishedValue []
    | .char '\x7b' :: rest =>
      nested depth (.char '\x7b' :: rest) fun depth src => do
        let (ms, rest) ← Scan.object (s.scan depth) src
        return (Entries.ofList ms, rest)
    | src => unexpected "a map" src

/-- A choice by the sort of the value. Where nothing is picked, the list or object around the value
says where that was. -/
def pick (choice : String) (pick : Json → Option α) : Shape α where
  read v := match pick v with
    | some a => .ok a
    | none => .error (.noVariant choice)
  scan depth src := do
    let (v, rest) ← Scan.value depth src
    match pick v with
    | some a => return (a, rest)
    | none => throw (.loose (.noVariant choice) rest)

def ofName (names : List (String × α)) (name : String) : Except Mismatch α :=
  match names.lookup name with
  | some a => .ok a
  | none => .error (.unknownVariant name (names.map (·.1)))

/-- A constant given by name: as a string, or as the only member of an object, with null under
it. -/
def constant (names : List (String × α)) : Shape α where
  read
    | .string s => ofName names s
    | .object [(name, v)] => do
      let a ← ofName names name
      unit.read v
      return a
    | .object _ => .error (.invalidValue .map "map with a single key")
    | v => .error (.invalidType (.ofJson v) "string or map")
  scan depth src :=
    match skipBlanks src with
    | [] => fail .unfinishedValue []
    | .char '"' :: rest => named rest
    | .char '\x7b' :: rest =>
      nested depth (.char '\x7b' :: rest) fun depth src => do
        let (a, src) ← match skipBlanks src with
          | [] => fail .unfinishedObject []
          | .char '"' :: rest => named rest
          | src => failNext .keyNotString src
        let ((), src) ← Scan.colon src
        let ((), src) ← unit.scan depth src
        match skipBlanks src with
        | [] => fail .unfinishedObject []
        | .char '\x7d' :: rest => return (a, rest)
        | rest => fail .expectedValue rest
    | src => failNext .expectedValue src
where
  named (src : Source) : Scan (α × Source) := do
    let (s, rest) ← Scan.string src
    match ofName names s with
    | .ok a => return (a, rest)
    | .error why => refuse why rest

def ofText (s : Shape α) (text : String) : Except JsonError α :=
  Scan.run (s.scan Scan.maxDepth) (.ofString text)

/-- Takes the value from the bytes of a whole text. -/
def ofBytes (s : Shape α) (bytes : ByteArray) : Except JsonError α :=
  Scan.run (s.scan Scan.maxDepth) (.ofBytes bytes)

end Shape

end GraphClient
