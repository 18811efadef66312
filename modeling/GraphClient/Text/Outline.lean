import GraphClient.Text.Unprintable

/-!
How diagnostics show values, in one line. Text stands in double quotes, with short escapes for the
usual control characters and a code point in braces for every other character that would not show.
Records, tuples, lists and optional values are laid out around parts that are already written.
-/

namespace GraphClient.Text

/-- The lower-case hexadecimal digits of a number, without leading zeros. -/
def hexDigits (n : Nat) : List Char := Nat.toDigits 16 n

def quoteChar (c : Char) : List Char :=
  if c = '"' then ['\\', '"']
  else if c = '\\' then ['\\', '\\']
  else if c = '\n' then ['\\', 'n']
  else if c = '\r' then ['\\', 'r']
  else if c = '\t' then ['\\', 't']
  else if c = '\x00' then ['\\', '0']
  else if isUnprintable c then ['\\', 'u', '\x7b'] ++ hexDigits c.toNat ++ ['\x7d']
  else [c]

/-- The text between double quotes, escaped so that every character of it can be seen. -/
def quote (s : String) : String :=
  String.ofList ('"' :: s.toList.flatMap quoteChar ++ ['"'])

end GraphClient.Text

namespace GraphClient.Outline

/-- The parts with a comma and a blank between them. -/
def separated (parts : List String) : String := ", ".intercalate parts

/-- A record: its name, then its fields in braces. -/
def record (name : String) (fields : List (String × String)) : String :=
  name ++ " \x7b " ++ separated (fields.map fun (field, value) => field ++ ": " ++ value) ++ " \x7d"

/-- A record that does not show all of its fields. -/
def partialRecord (name : String) (fields : List (String × String)) : String :=
  name ++ " \x7b " ++ separated ((fields.map fun (field, value) => field ++ ": " ++ value) ++ [".."])
    ++ " \x7d"

/-- A tuple: its name, which may be empty, then its parts in parentheses. -/
def tuple (name : String) (parts : List String) : String :=
  name ++ "(" ++ separated parts ++ ")"

def list (parts : List String) : String := "[" ++ separated parts ++ "]"

def mapping (entries : List (String × String)) : String :=
  "\x7b" ++ separated (entries.map fun (key, value) => key ++ ": " ++ value) ++ "\x7d"

def option : Option String → String
  | none => "None"
  | some part => tuple "Some" [part]

def truth (b : Bool) : String := if b then "true" else "false"

def text (s : String) : String := Text.quote s

end GraphClient.Outline
