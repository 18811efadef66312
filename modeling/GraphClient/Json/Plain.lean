import GraphClient.Json.Fault

/-!
Plain program values on their way to JSON: some have no JSON form, and the conversion says which.
Names of members are texts; numbers and truth values used as names become their text.
-/

namespace GraphClient

inductive PlainKey where
  | text (s : String)
  | int (n : Int)
  | bool (b : Bool)
  | float (x : Float)
  | list

inductive Plain where
  | json (v : Json)
  | int (n : Int)
  | float (x : Float)
  | bytes (bs : List UInt8)
  | map (entries : List (PlainKey × Plain))
  | failing (message : String)

namespace PlainKey

def toText : PlainKey → Except JsonError String
  | text s => .ok s
  | int n => .ok (toString n)
  | bool b => .ok (Outline.truth b)
  | float x =>
    if x.isFinite then .ok (Json.numberText (.float x))
    else .error ⟨.malformed .infiniteKey, none⟩
  | list => .error ⟨.malformed .keyNotString, none⟩

end PlainKey

namespace Plain

mutual

/-- The JSON value of a plain value. Integers must fit 64 bits; doubles that are not finite become
null. -/
def toJson : Plain → Except JsonError Json
  | json v => .ok v
  | int n => match Json.int? n with
    | some v => .ok v
    | none => .error ⟨.malformed .numberOutOfRange, none⟩
  | float x => .ok (.ofFloat x)
  | bytes bs => .ok (.array (bs.map fun b => .ofNat b.toNat (by have := b.toNat_lt; omega)))
  | map entries => (toMembers entries).map fun ms => .object (Entries.ofList ms)
  | failing message => .error (.custom message)

def toMembers : List (PlainKey × Plain) → Except JsonError (List (String × Json))
  | [] => .ok []
  | (key, value) :: rest => do
    let name ← key.toText
    let v ← value.toJson
    return (name, v) :: (← toMembers rest)

end

end Plain

end GraphClient
