/-!
Wire forms: how a domain value is written as the string that carries it, and read back. Besides the
form itself this holds the forms of integers, truth values, texts and calendar dates.
-/

namespace GraphClient

/-- A way to write values as strings and to read them back; reading may refuse with a message. -/
structure Wire (α : Type) where
  encode : α → String
  decode : String → Except String α

namespace Wire

def text : Wire String := ⟨id, .ok⟩

def bool : Wire Bool where
  encode b := if b then "true" else "false"
  decode s :=
    if s = "true" then .ok true
    else if s = "false" then .ok false
    else .error "provided string was not `true` or `false`"

/-- Appends decimal digits to a number of sign `negative` as long as it fits 64 bits. Of a bad digit
and a number out of range the one that comes first is reported. -/
def readDigits (negative : Bool) (n : Nat) : List Char → Except String Nat
  | [] => .ok n
  | c :: cs =>
    if c.isDigit then
      let next := 10 * n + (c.toNat - 48)
      if next < 9223372036854775808 ∨ (negative ∧ next = 9223372036854775808) then readDigits negative next cs
      else .error (if negative then "number too small to fit in target type"
        else "number too large to fit in target type")
    else .error "invalid digit found in string"

/-- A signed 64-bit integer in decimal, with an optional sign. -/
def readInt64 (s : String) : Except String Int :=
  match s.toList with
  | [] => .error "cannot parse integer from empty string"
  | ['+'] | ['-'] => .error "invalid digit found in string"
  | '+' :: cs => (readDigits false 0 cs).map Int.ofNat
  | '-' :: cs => (readDigits true 0 cs).map fun n => -Int.ofNat n
  | cs => (readDigits false 0 cs).map Int.ofNat

def int64 : Wire Int := ⟨toString, readInt64⟩

end Wire

structure Date where
  year : Nat
  month : Nat
  day : Nat
  deriving DecidableEq, Repr

namespace Date

def isLeap (year : Nat) : Bool := year % 4 == 0 && (year % 100 != 0 || year % 400 == 0)

def daysIn (year month : Nat) : Nat :=
  if month = 2 then (if isLeap year then 29 else 28)
  else if month = 4 ∨ month = 6 ∨ month = 9 ∨ month = 11 then 30
  else 31

/-- A number with zeros in front, up to a width. -/
def pad (width n : Nat) : String :=
  let ds := Nat.toDigits 10 n
  String.ofList (List.replicate (width - ds.length) '0' ++ ds)

def write (d : Date) : String := pad 4 d.year ++ "-" ++ pad 2 d.month ++ "-" ++ pad 2 d.day

def number (cs : List Char) : Nat := cs.foldl (fun n c => 10 * n + (c.toNat - 48)) 0

/-- Reads ten characters of the form `YYYY-MM-DD` that name a day. -/
def read (s : String) : Except String Date :=
  match s.toList with
  | [y1, y2, y3, y4, '-', m1, m2, '-', d1, d2] =>
    if [y1, y2, y3, y4, m1, m2, d1, d2].all Char.isDigit then
      let date : Date := ⟨number [y1, y2, y3, y4], number [m1, m2], number [d1, d2]⟩
      if date.month = 0 ∨ 12 < date.month then .error "month out of range"
      else if date.day = 0 ∨ daysIn date.year date.month < date.day then
        .error "day out of range"
      else .ok date
    else .error "expected YYYY-MM-DD"
  | _ => .error "expected YYYY-MM-DD"

end Date

namespace Wire

def date : Wire Date := ⟨Date.write, Date.read⟩

/-- The text between a leading `<` and a trailing `>`. -/
def untag? (s : String) : Option String :=
  match s.toList with
  | '<' :: cs => match cs.reverse with
    | '>' :: inner => some (String.ofList inner.reverse)
    | _ => none
  | _ => none

def tagged {α : Type} (w : Wire α) : Wire α where
  encode a := "<" ++ w.encode a ++ ">"
  decode s := match untag? s with
    | some inner => w.decode inner
    | none => .error "missing tag"

def failing {α : Type} (message : String) : Wire α := ⟨fun _ => "", fun _ => .error message⟩

end Wire

end GraphClient
