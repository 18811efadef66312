import GraphClient.Entries

/-!
JSON values. An integer is kept apart from a floating-point number, and fits 64 bits: signed when
it is negative, unsigned otherwise. The members of an object stand in a list; a *canonical* value
has them in name order, each name once.
-/

namespace GraphClient

/-- The integers a JSON number holds exactly: from minus two to the 63rd, up to below two to the
64th. -/
def IsJsonInt (n : Int) : Prop := -9223372036854775808 ≤ n ∧ n < 18446744073709551616

instance (n : Int) : Decidable (IsJsonInt n) := inferInstanceAs (Decidable (_ ∧ _))

inductive JsonNumber where
  | int (value : Int) (fits : IsJsonInt value)
  | float (value : Float)
  deriving DecidableEq

inductive Json where
  | null
  | bool (value : Bool)
  | number (value : JsonNumber)
  | string (value : String)
  | array (items : List Json)
  | object (members : List (String × Json))

inductive JsonKind where
  | null | boolean | number | string | array | object
  deriving DecidableEq, Repr

def JsonKind.name : JsonKind → String
  | null => "null"
  | boolean => "boolean"
  | number => "number"
  | string => "string"
  | array => "array"
  | object => "object"

namespace JsonNumber

/-- The number as a signed 64-bit integer, if it is one. -/
def toInt64? : JsonNumber → Option Int
  | int n _ => if n < 9223372036854775808 then some n else none
  | float _ => none

def toFloat : JsonNumber → Float
  | int n _ => Float.ofInt n
  | float x => x

end JsonNumber

namespace Json

instance : Inhabited Json := ⟨null⟩

mutual

/-- Values are equal when they are written the same way. -/
def decEq : (a b : Json) → Decidable (a = b)
  | null, null => isTrue rfl
  | bool a, bool b => if h : a = b then isTrue (h ▸ rfl) else isFalse (by simp [h])
  | number a, number b => if h : a = b then isTrue (h ▸ rfl) else isFalse (by simp [h])
  | string a, string b => if h : a = b then isTrue (h ▸ rfl) else isFalse (by simp [h])
  | array a, array b =>
    match decEqItems a b with
    | isTrue h => isTrue (h ▸ rfl)
    | isFalse h => isFalse (by simp [h])
  | object a, object b =>
    match decEqMembers a b with
    | isTrue h => isTrue (h ▸ rfl)
    | isFalse h => isFalse (by simp [h])
  | null, bool _ | null, number _ | null, string _ | null, array _ | null, object _
  | bool _, null | bool _, number _ | bool _, string _ | bool _, array _ | bool _, object _
  | number _, null | number _, bool _ | number _, string _ | number _, array _
  | number _, object _
  | string _, null | string _, bool _ | string _, number _ | string _, array _
  | string _, object _
  | array _, null | array _, bool _ | array _, number _ | array _, string _ | array _, object _
  | object _, null | object _, bool _ | object _, number _ | object _, string _
  | object _, array _ => isFalse (by simp)

def decEqItems : (a b : List Json) → Decidable (a = b)
  | [], [] => isTrue rfl
  | [], _ :: _ | _ :: _, [] => isFalse (by simp)
  | x :: a, y :: b =>
    match decEq x y, decEqItems a b with
    | isTrue h, isTrue t => isTrue (h ▸ t ▸ rfl)
    | isFalse h, _ => isFalse (by simp [h])
    | _, isFalse t => isFalse (by simp [t])

def decEqMembers : (a b : List (String × Json)) → Decidable (a = b)
  | [], [] => isTrue rfl
  | [], _ :: _ | _ :: _, [] => isFalse (by simp)
  | (m, x) :: a, (n, y) :: b =>
    if k : m = n then
      match decEq x y, decEqMembers a b with
      | isTrue h, isTrue t => isTrue (k ▸ h ▸ t ▸ rfl)
      | isFalse h, _ => isFalse (by simp [h])
      | _, isFalse t => isFalse (by simp [t])
    else isFalse (by simp [k])

end

instance : DecidableEq Json := decEq

def kind : Json → JsonKind
  | null => .null
  | bool _ => .boolean
  | number _ => .number
  | string _ => .string
  | array _ => .array
  | object _ => .object

def isNull : Json → Bool
  | null => true
  | _ => false

@[simp] theorem isNull_iff (v : Json) : v.isNull = true ↔ v = null := by
  cases v <;> simp [isNull]

/-- A member of an object; null where there is none. -/
def member (name : String) : Json → Json
  | object members => (Entries.find? name members).getD null
  | _ => null

def int? (n : Int) : Option Json :=
  if h : IsJsonInt n then some (number (.int n h)) else none

/-- A finite double as a number; JSON has no other doubles, so they become null. -/
def ofFloat (x : Float) : Json := if x.isFinite then number (.float x) else null

def ofNat (n : Nat) (h : n < 18446744073709551616) : Json :=
  number (.int n ⟨by omega, by omega⟩)

mutual

/-- The value with the members of every object in name order, of repeated names the last. -/
def canonical : Json → Json
  | array items => array (canonicalItems items)
  | object members => object (Entries.ofList (canonicalMembers members))
  | v => v

def canonicalItems : List Json → List Json
  | [] => []
  | v :: rest => canonical v :: canonicalItems rest

def canonicalMembers : List (String × Json) → List (String × Json)
  | [] => []
  | (name, v) :: rest => (name, canonical v) :: canonicalMembers rest

end

mutual

/-- Every object has its members in name order, each name once. -/
def IsCanonical : Json → Prop
  | array items => AreCanonical items
  | object members => Entries.Sorted members ∧ HasCanonicalMembers members
  | _ => True

def AreCanonical : List Json → Prop
  | [] => True
  | v :: rest => IsCanonical v ∧ AreCanonical rest

def HasCanonicalMembers : List (String × Json) → Prop
  | [] => True
  | (_, v) :: rest => IsCanonical v ∧ HasCanonicalMembers rest

end

end Json

end GraphClient
