import GraphClient.Json.Shape

/-!
Records in JSON: an object with a member for each field, in any order, or a list of the fields in
their own order. Members of other names are passed over. A record is described field by field; the
fields read so far stand in slots, and together they make a row.
-/

namespace GraphClient

open Text (Source Glyph)

/-- Whether a field may be left out, and what it is then. Of `nullable` fields only an object may
lack one, and a list may not. -/
inductive Presence (α : Type) where
  | required
  | nullable (absent : α)
  | optional (absent : α)

/-- The fields of a record in order, with the type of their slots and the type of their row. -/
inductive Fields : Type → Type → Type 1 where
  | done : Fields Unit Unit
  | field {α σ ρ : Type} (name : String) (shape : Shape α) (presence : Presence α)
      (rest : Fields σ ρ) : Fields (Option α × σ) (α × ρ)

namespace Fields

open Scan (fail failNext refuse skipBlanks)

def count {σ ρ : Type} : Fields σ ρ → Nat
  | done => 0
  | field _ _ _ rest => rest.count + 1

def empty {σ ρ : Type} : Fields σ ρ → σ
  | done => ()
  | field _ _ _ rest => (none, rest.empty)

def readMember {σ ρ : Type} : Fields σ ρ → String → Json → σ → Except Mismatch σ
  | done, _, _, slots => .ok slots
  | field name shape _ rest, key, v, (slot, slots) =>
    if key = name then
      if slot.isSome then .error (.duplicateField name)
      else (shape.read v).map fun a => (some a, slots)
    else (rest.readMember key v slots).map fun slots => (slot, slots)

/-- Takes in all members of an object in turn. -/
def readMembers {σ ρ : Type} (fs : Fields σ ρ) : List (String × Json) → σ → Except Mismatch σ
  | [], slots => .ok slots
  | (key, v) :: members, slots => do fs.readMembers members (← fs.readMember key v slots)

/-- The row of the slots. Of the fields that must not be missing the first one is reported. -/
def row {σ ρ : Type} : Fields σ ρ → σ → Except Mismatch ρ
  | done, () => .ok ()
  | field name _ presence rest, (slot, slots) => do
    let a ← match slot, presence with
      | some a, _ => .ok a
      | none, .required => .error (.missingField name)
      | none, .nullable a => .ok a
      | none, .optional a => .ok a
    return (a, ← rest.row slots)

/-- The row of a list, and the items beyond it. `index` counts the fields already filled. -/
def readItems {σ ρ : Type} (expected : String) :
    Fields σ ρ → Nat → List Json → Except Mismatch (ρ × List Json)
  | done, _, items => .ok ((), items)
  | field _ shape _ rest, index, v :: items => do
    let a ← shape.read v
    let (row, items) ← rest.readItems expected (index + 1) items
    return ((a, row), items)
  | field _ _ (.optional a) rest, index, [] => do
    let (row, items) ← rest.readItems expected (index + 1) []
    return ((a, row), items)
  | field _ _ _ _, index, [] => .error (.invalidLength index expected)

/-- Reads the colon and the value of a member whose name has been read. -/
def scanMember {σ ρ : Type} (depth : Nat) :
    Fields σ ρ → String → σ → Source → Scan (σ × Source)
  | done, _, slots, src => do
    let ((), src) ← Scan.colon src
    let ((), src) ← Scan.skipValue src
    return (slots, src)
  | field name shape _ rest, key, (slot, slots), src =>
    if key = name then
      if slot.isSome then throw (.loose (.duplicateField name) src)
      else do
        let ((), src) ← Scan.colon src
        let (a, src) ← shape.scan depth src
        return ((some a, slots), src)
    else do
      let (slots, src) ← rest.scanMember depth key slots src
      return ((slot, slots), src)

/-- Reads members up to the end of the object. -/
def scanMembers {σ ρ : Type} (depth : Nat) (fs : Fields σ ρ) :
    Nat → Bool → σ → Source → Scan (ρ × Source)
  | 0, _, _, src => fail .unfinishedObject src
  | fuel + 1, first, slots, src => do
    let (more, src) ← Scan.nextMember first src
    if more then
      let (key, src) ← Scan.string (src.drop 1)
      let (slots, src) ← fs.scanMember depth key slots src
      fs.scanMembers depth fuel false slots src
    else
      match fs.row slots with
      | .ok row => return (row, src)
      | .error why => throw (.loose why src)

def scanItems {σ ρ : Type} (depth : Nat) (expected : String) :
    Fields σ ρ → Nat → Source → Scan (ρ × Source)
  | done, _, src => .ok ((), src)
  | field _ shape presence rest, index, src => do
    let (more, src) ← Scan.nextElement (index == 0) src
    if more then
      let (a, src) ← shape.scan depth src
      let (row, src) ← rest.scanItems depth expected (index + 1) src
      return ((a, row), src)
    else
      match presence with
      | .optional a => do
        let (row, src) ← rest.scanItems depth expected (index + 1) src
        return ((a, row), src)
      | _ => throw (.loose (.invalidLength index expected) src)

end Fields

namespace Shape

open Scan (fail refuse skipBlanks)

/-- A record, given by its name, its fields, and how a row makes it. -/
def record {σ ρ α : Type} (name : String) (fields : Fields σ ρ) (build : ρ → α) : Shape α where
  read
    | .object members => do
      let slots ← fields.readMembers members fields.empty
      return build (← fields.row slots)
    | .array items => do
      let (row, beyond) ← fields.readItems expectedItems 0 items
      if beyond.isEmpty then return build row
      else throw (.invalidLength items.length "fewer elements in array")
    | v => .error (.invalidType (.ofJson v) ("struct " ++ name))
  scan depth src :=
    match skipBlanks src with
    | [] => fail .unfinishedValue []
    | .char '[' :: rest =>
      nested depth (.char '[' :: rest) fun depth src => do
        let (row, rest) ← Scan.settle Scan.closeList (fields.scanItems depth expectedItems 0 src)
        return (build row, rest)
    | .char '\x7b' :: rest =>
      nested depth (.char '\x7b' :: rest) fun depth src => do
        let (row, rest) ← Scan.settle Scan.closeObject
          (fields.scanMembers depth (Source.size src + 1) true fields.empty src)
        return (build row, rest)
    | src => unexpected ("struct " ++ name) src
where
  expectedItems : String :=
    "struct " ++ name ++ " with " ++ toString fields.count ++
      (if fields.count = 1 then " element" else " elements")

end Shape

end GraphClient
