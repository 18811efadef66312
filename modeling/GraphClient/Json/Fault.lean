import GraphClient.Json.Text
import GraphClient.Text.Glyph

/-!
What can be wrong with JSON: text that breaks the grammar, and values that do not have the shape
asked for. `JsonError.message` words each of them; a fault found in a text says where.
-/

namespace GraphClient

inductive Malformed where
  | unfinishedValue | unfinishedList | unfinishedObject | unfinishedString
  | expectedValue | expectedIdent | expectedColon | expectedListComma | expectedObjectComma
  | trailingComma | trailingCharacters | keyNotString
  | invalidNumber | numberOutOfRange
  | invalidEscape | unfinishedSurrogate | loneSurrogate | controlCharacter | invalidCodePoint
  | tooDeep | infiniteKey
  deriving DecidableEq, Repr

namespace Malformed

def message : Malformed → String
  | unfinishedValue => "EOF while parsing a value"
  | unfinishedList => "EOF while parsing a list"
  | unfinishedObject => "EOF while parsing an object"
  | unfinishedString => "EOF while parsing a string"
  | expectedValue => "expected value"
  | expectedIdent => "expected ident"
  | expectedColon => "expected `:`"
  | expectedListComma => "expected `,` or `]`"
  | expectedObjectComma => "expected `,` or `\x7d`"
  | trailingComma => "trailing comma"
  | trailingCharacters => "trailing characters"
  | keyNotString => "key must be a string"
  | invalidNumber => "invalid number"
  | numberOutOfRange => "number out of range"
  | invalidEscape => "invalid escape"
  | unfinishedSurrogate => "unexpected end of hex escape"
  | loneSurrogate => "lone leading surrogate in hex escape"
  | controlCharacter => "control character (\\u0000-\\u001F) found while parsing a string"
  | invalidCodePoint => "invalid unicode code point"
  | tooDeep => "recursion limit exceeded"
  | infiniteKey => "float key must be finite (got NaN or +/-inf)"

end Malformed

inductive Found where
  | null
  | boolean (value : Bool)
  | integer (value : Int)
  | float (value : Float)
  | text (value : String)
  | sequence
  | map
  deriving DecidableEq

namespace Found

def ofNumber : JsonNumber → Found
  | .int n _ => integer n
  | .float x => float x

def ofJson : Json → Found
  | .null => null
  | .bool b => boolean b
  | .number n => ofNumber n
  | .string s => text s
  | .array _ => sequence
  | .object _ => map

def describe : Found → String
  | null => "null"
  | boolean b => "boolean `" ++ Outline.truth b ++ "`"
  | integer n => "integer `" ++ toString n ++ "`"
  | float x => "floating point `" ++ Json.numberText (.float x) ++ "`"
  | text s => "string " ++ Outline.text s
  | sequence => "sequence"
  | map => "map"

end Found

inductive Mismatch where
  | invalidType (found : Found) (expected : String)
  | invalidValue (found : Found) (expected : String)
  | invalidLength (length : Nat) (expected : String)
  | missingField (name : String)
  | duplicateField (name : String)
  | unknownVariant (name : String) (known : List String)
  | noVariant (choice : String)
  | custom (message : String)
  deriving DecidableEq

namespace Mismatch

def nameVariants : List String → String
  | [] => "there are no variants"
  | [a] => "expected `" ++ a ++ "`"
  | [a, b] => "expected `" ++ a ++ "` or `" ++ b ++ "`"
  | names => "expected one of " ++ ", ".intercalate (names.map fun n => "`" ++ n ++ "`")

def message : Mismatch → String
  | invalidType found expected =>
    "invalid type: " ++ found.describe ++ ", expected " ++ expected
  | invalidValue found expected =>
    "invalid value: " ++ found.describe ++ ", expected " ++ expected
  | invalidLength n expected => "invalid length " ++ toString n ++ ", expected " ++ expected
  | missingField name => "missing field `" ++ name ++ "`"
  | duplicateField name => "duplicate field `" ++ name ++ "`"
  | unknownVariant name known => "unknown variant `" ++ name ++ "`, " ++ nameVariants known
  | noVariant choice => "data did not match any variant of untagged enum " ++ choice
  | custom message => message

end Mismatch

inductive JsonFault where
  | malformed (why : Malformed)
  | mismatch (why : Mismatch)
  deriving DecidableEq

def JsonFault.message : JsonFault → String
  | malformed why => why.message
  | mismatch why => why.message

/-- A fault, and where in the text it was found if there is a text. -/
structure JsonError where
  fault : JsonFault
  position : Option Text.Position
  deriving DecidableEq

namespace JsonError

/-- A fault found in a value, not in a text. -/
def ofMismatch (m : Mismatch) : JsonError := ⟨.mismatch m, none⟩

def message (e : JsonError) : String :=
  match e.position with
  | none => e.fault.message
  | some p =>
    e.fault.message ++ " at line " ++ toString p.line ++ " column " ++ toString p.column

def wordOfDigits? (digits : List Char) : Option Nat :=
  let n := digits.foldl (fun n c => 10 * n + (c.toNat - 48)) 0
  if digits.isEmpty then none else if n < 18446744073709551616 then some n else none

/-- Reads `<digits> column <digits>` to the end of the text. -/
def lineAndColumn? (cs : List Char) : Option (Nat × Nat) :=
  let line := cs.takeWhile Char.isDigit
  let mark := " column ".toList
  let rest := cs.dropWhile Char.isDigit
  if mark.isPrefixOf rest then
    let column := rest.drop mark.length
    if column.all Char.isDigit then
      match wordOfDigits? line, wordOfDigits? column with
      | some l, some c => some (l, c)
      | _, _ => none
    else none
  else none

/-- Cuts a text at the last occurrence of `mark`. -/
def splitAtLast? (mark : List Char) : List Char → Option (List Char × List Char)
  | [] => none
  | c :: rest =>
    match splitAtLast? mark rest with
    | some (before, after) => some (c :: before, after)
    | none =>
      if mark.isPrefixOf (c :: rest) then some ([], (c :: rest).drop mark.length) else none

/-- A complaint in a value's own words. Words that end in a position are taken to be found there;
line zero stands for no position. -/
def custom (words : String) : JsonError :=
  match splitAtLast? " at line ".toList words.toList with
  | some (before, after) =>
    match lineAndColumn? after with
    | some (line, column) =>
      ⟨.mismatch (.custom (String.ofList before)), if line = 0 then none else some ⟨line, column⟩⟩
    | none => ofMismatch (.custom words)
  | none => ofMismatch (.custom words)

end JsonError

end GraphClient
