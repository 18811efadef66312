import GraphClient.Json.Basic
import GraphClient.Number.Shortest
import GraphClient.Text.Outline

/-!
The compact JSON text of a value: no blanks, members in the order they stand in. Text is written
in front of what follows it, so that a reader's rest is in view: `v.write rest` is the text of `v`
and then `rest`.
-/

namespace GraphClient.Json

/-- Doubles are written positionally when the leading digit stands for `10 ^ -5` to `10 ^ 15`. -/
def floatLayout : Number.Layout := ⟨-5, 15⟩

def digitsOf (n : Nat) : List Char := Nat.toDigits 10 n

def writeInt (n : Int) : List Char :=
  if n < 0 then '-' :: digitsOf n.natAbs else digitsOf n.natAbs

def writeNumber : JsonNumber → List Char
  | .int n _ => writeInt n
  | .float x => floatLayout.writeFloat x

/-- The lower-case hexadecimal digit of a number below sixteen. -/
def hexDigit (n : Nat) : Char :=
  if n < 10 then Char.ofNat (48 + n) else Char.ofNat (87 + n)

/-- A character inside a string: the quote, the backslash and the characters below the blank are
escaped, all else stands for itself. -/
def escape (c : Char) : List Char :=
  if c = '"' then ['\\', '"']
  else if c = '\\' then ['\\', '\\']
  else if c = '\x08' then ['\\', 'b']
  else if c = '\x0c' then ['\\', 'f']
  else if c = '\n' then ['\\', 'n']
  else if c = '\r' then ['\\', 'r']
  else if c = '\t' then ['\\', 't']
  else if c.toNat < 32 then
    ['\\', 'u', '0', '0', hexDigit (c.toNat / 16), hexDigit (c.toNat % 16)]
  else [c]

def writeString (s : String) (rest : List Char) : List Char :=
  '"' :: (s.toList.flatMap escape ++ '"' :: rest)

mutual

/-- The text of a value in front of `rest`. -/
def write : Json → List Char → List Char
  | null, rest => 'n' :: 'u' :: 'l' :: 'l' :: rest
  | bool true, rest => 't' :: 'r' :: 'u' :: 'e' :: rest
  | bool false, rest => 'f' :: 'a' :: 'l' :: 's' :: 'e' :: rest
  | number n, rest => writeNumber n ++ rest
  | string s, rest => writeString s rest
  | array [], rest => '[' :: ']' :: rest
  | array (v :: items), rest => '[' :: write v (writeItems items rest)
  | object [], rest => '\x7b' :: '\x7d' :: rest
  | object ((name, v) :: members), rest =>
    '\x7b' :: writeString name (':' :: write v (writeMembers members rest))

/-- The items after the first, each behind a comma, and the closing bracket. -/
def writeItems : List Json → List Char → List Char
  | [], rest => ']' :: rest
  | v :: items, rest => ',' :: write v (writeItems items rest)

/-- The members after the first, each behind a comma, and the closing brace. -/
def writeMembers : List (String × Json) → List Char → List Char
  | [], rest => '\x7d' :: rest
  | (name, v) :: members, rest =>
    ',' :: writeString name (':' :: write v (writeMembers members rest))

end

def text (v : Json) : String := String.ofList (v.write [])

def bytes (v : Json) : ByteArray := v.text.toUTF8

def numberText (n : JsonNumber) : String := String.ofList (writeNumber n)

mutual

def outline : Json → String
  | null => "Null"
  | bool b => Outline.tuple "Bool" [Outline.truth b]
  | number n => Outline.tuple "Number" [numberText n]
  | string s => Outline.tuple "String" [Outline.text s]
  | array items => "Array " ++ Outline.list (outlineItems items)
  | object members => "Object " ++ Outline.mapping (outlineMembers members)

def outlineItems : List Json → List String
  | [] => []
  | v :: rest => outline v :: outlineItems rest

def outlineMembers : List (String × Json) → List (String × String)
  | [] => []
  | (name, v) :: rest => (Outline.text name, outline v) :: outlineMembers rest

end

end GraphClient.Json
