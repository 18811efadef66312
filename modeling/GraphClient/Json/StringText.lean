import GraphClient.Json.Scan

/-!
Reading a JSON string whose opening quote has been read. Escapes may spell a character beyond the
basic plane as two surrogates, a leading one and a trailing one.
-/

namespace GraphClient.Scan

open Text (Source Glyph)

def hexValue? (c : Char) : Option Nat :=
  if '0' ≤ c ∧ c ≤ '9' then some (c.toNat - 48)
  else if 'a' ≤ c ∧ c ≤ 'f' then some (c.toNat - 87)
  else if 'A' ≤ c ∧ c ≤ 'F' then some (c.toNat - 55)
  else none

/-- Four hexadecimal digits. Where fewer than four bytes are left the string is unfinished. -/
def hex4 (src : Source) : Scan (Nat × Source) :=
  match src with
  | .char a :: .char b :: .char c :: .char d :: rest =>
    match hexValue? a, hexValue? b, hexValue? c, hexValue? d with
    | some a, some b, some c, some d => .ok (((a * 16 + b) * 16 + c) * 16 + d, rest)
    | _, _, _, _ => malformed
  | _ => malformed
where
  malformed : Scan (Nat × Source) :=
    if Source.size src < 4 then fail .unfinishedString []
    else .error (.placed (.malformed .invalidEscape) (Source.size src - 4))

def isLeading (n : Nat) : Bool := 0xD800 ≤ n && n ≤ 0xDBFF
def isTrailing (n : Nat) : Bool := 0xDC00 ≤ n && n ≤ 0xDFFF

def unicodeEscape (src : Source) : Scan (Char × Source) := do
  let (n, src) ← hex4 src
  if isTrailing n then fail .loneSurrogate src
  else if isLeading n then
    match src with
    | [] => fail .unfinishedString []
    | .char '\\' :: .char 'u' :: rest =>
      let (m, rest) ← hex4 rest
      if isTrailing m then
        return (Char.ofNat (0x10000 + (n - 0xD800) * 0x400 + (m - 0xDC00)), rest)
      else fail .loneSurrogate rest
    | .char '\\' :: [] => fail .unfinishedString []
    | .char '\\' :: rest => failNext .unfinishedSurrogate rest
    | rest => failNext .unfinishedSurrogate rest
  else return (Char.ofNat n, src)

/-- The character that an escape stands for, behind its backslash. -/
def escaped : Source → Scan (Char × Source)
  | [] => fail .unfinishedString []
  | .char '"' :: rest => .ok ('"', rest)
  | .char '\\' :: rest => .ok ('\\', rest)
  | .char '/' :: rest => .ok ('/', rest)
  | .char 'b' :: rest => .ok ('\x08', rest)
  | .char 'f' :: rest => .ok ('\x0c', rest)
  | .char 'n' :: rest => .ok ('\n', rest)
  | .char 'r' :: rest => .ok ('\r', rest)
  | .char 't' :: rest => .ok ('\t', rest)
  | .char 'u' :: rest => unicodeEscape rest
  | rest => failNext .invalidEscape rest

/-- The glyphs up to the closing quote, escapes resolved. -/
def content : Nat → Source → Scan (Source × Source)
  | 0, _ => fail .unfinishedString []
  | _ + 1, [] => fail .unfinishedString []
  | _ + 1, .char '"' :: rest => .ok ([], rest)
  | fuel + 1, .char '\\' :: rest => do
    let (c, rest) ← escaped rest
    let (gs, rest) ← content fuel rest
    return (.char c :: gs, rest)
  | fuel + 1, g :: rest =>
    match g with
    | .char c =>
      if c.toNat < 32 then fail .controlCharacter rest
      else do
        let (gs, rest) ← content fuel rest
        return (g :: gs, rest)
    | .stray _ => do
      let (gs, rest) ← content fuel rest
      return (g :: gs, rest)

/-- A string behind its opening quote. A stray byte is reported where its place in the string,
counted from the end, lies before the closing quote. -/
def string (src : Source) : Scan (String × Source) := do
  let (gs, rest) ← content (Source.size src + 1) src
  match Source.toChars? gs with
  | some cs => return (String.ofList cs, rest)
  | none => .error (.placed (.malformed .invalidCodePoint) (Source.size rest + Source.size (Source.fromStray gs)))

end GraphClient.Scan
