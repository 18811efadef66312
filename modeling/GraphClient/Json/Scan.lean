import GraphClient.Json.Fault

/-!
Reading JSON text from left to right. A step takes the text that is left and gives a result with
the text left after it. A fault is *placed* at the number of bytes left to read when it is found;
a value of the wrong shape may leave it to the list or object around it to say where, and is
*loose* until then.
-/

namespace GraphClient

open Text (Source Glyph)

inductive ScanFault where
  | placed (fault : JsonFault) (left : Nat)
  | loose (mismatch : Mismatch) (rest : Source)

/-- A step of reading. Most give what they read and the text that is left. -/
abbrev Scan := Except ScanFault

namespace Scan

variable {α : Type}

def fail (why : Malformed) (rest : Source) : Scan α :=
  .error (.placed (.malformed why) (Source.size rest))

/-- A fault found by looking at the next byte: the position counts that byte as read. -/
def failNext (why : Malformed) (rest : Source) : Scan α :=
  .error (.placed (.malformed why) (Source.size rest - 1))

/-- A value of the wrong shape, found after reading up to `rest`. -/
def refuse (why : Mismatch) (rest : Source) : Scan α :=
  .error (.placed (.mismatch why) (Source.size rest))

def isBlank (c : Char) : Bool := c == ' ' || c == '\n' || c == '\t' || c == '\r'

/-- Drops blanks. -/
def skipBlanks : Source → Source
  | .char c :: rest => if isBlank c then skipBlanks rest else .char c :: rest
  | src => src

/-- Reads the rest of a word whose first letter decided what it must be. -/
def word : List Char → Source → Scan (Unit × Source)
  | [], src => .ok ((), src)
  | _ :: _, [] => fail .unfinishedValue []
  | c :: cs, g :: rest =>
    if g = .char c then word cs rest else failNext .expectedIdent (g :: rest)

/-- Whether another element follows in a list. The text left starts with the element, or with the
bracket that ends the list. -/
def nextElement (first : Bool) (src : Source) : Scan (Bool × Source) :=
  match skipBlanks src with
  | [] => fail .unfinishedList []
  | .char ']' :: rest => .ok (false, .char ']' :: rest)
  | .char ',' :: rest =>
    if first then .ok (true, .char ',' :: rest)
    else
      match skipBlanks rest with
      | [] => fail .unfinishedValue []
      | .char ']' :: rest => failNext .trailingComma (.char ']' :: rest)
      | rest => .ok (true, rest)
  | rest => if first then .ok (true, rest) else failNext .expectedListComma rest

/-- Whether another member follows in an object. The text left starts with the quote of its name,
or with the brace that ends the object. -/
def nextMember (first : Bool) (src : Source) : Scan (Bool × Source) :=
  match skipBlanks src with
  | [] => fail .unfinishedObject []
  | .char '\x7d' :: rest => .ok (false, .char '\x7d' :: rest)
  | .char ',' :: rest =>
    if first then failNext .keyNotString (.char ',' :: rest)
    else
      match skipBlanks rest with
      | [] => fail .unfinishedValue []
      | .char '"' :: rest => .ok (true, .char '"' :: rest)
      | .char '\x7d' :: rest => failNext .trailingComma (.char '\x7d' :: rest)
      | rest => failNext .keyNotString rest
  | .char '"' :: rest =>
    if first then .ok (true, .char '"' :: rest)
    else failNext .expectedObjectComma (.char '"' :: rest)
  | rest => if first then failNext .keyNotString rest else failNext .expectedObjectComma rest

def colon (src : Source) : Scan (Unit × Source) :=
  match skipBlanks src with
  | [] => fail .unfinishedObject []
  | .char ':' :: rest => .ok ((), rest)
  | rest => failNext .expectedColon rest

/-- Where a list or object ends: the text left, and what is wrong there if it does not end. -/
abbrev Close := Source → Source × Option (Malformed × Nat)

def closeList : Close := fun src =>
  match skipBlanks src with
  | [] => ([], some (.unfinishedList, 0))
  | .char ']' :: rest => (rest, none)
  | .char ',' :: rest =>
    match skipBlanks rest with
    | .char ']' :: rest => (.char ']' :: rest, some (.trailingComma, Source.size rest))
    | rest => (rest, some (.trailingCharacters, Source.size rest - 1))
  | rest => (rest, some (.trailingCharacters, Source.size rest - 1))

def closeObject : Close := fun src =>
  match skipBlanks src with
  | [] => ([], some (.unfinishedObject, 0))
  | .char '\x7d' :: rest => (rest, none)
  | .char ',' :: rest => (.char ',' :: rest, some (.trailingComma, Source.size rest))
  | rest => (rest, some (.trailingCharacters, Source.size rest - 1))

/-- Ends a list or object whose content has been read. A loose fault in the content is placed
where the end is, or where the end was looked for. -/
def settle (close : Close) : Scan (α × Source) → Scan (α × Source)
  | .ok (a, src) =>
    match close src with
    | (rest, none) => .ok (a, rest)
    | (_, some (why, left)) => .error (.placed (.malformed why) left)
  | .error (.loose why src) => refuse why (close src).1
  | .error fault => .error fault

/-- Elements up to the end of the list, each read by `item`. -/
def elements (item : Source → Scan (α × Source)) : Nat → Bool → Source → Scan (List α × Source)
  | 0, _, src => fail .unfinishedList src
  | fuel + 1, first, src => do
    let (more, src) ← nextElement first src
    if more then
      let (a, src) ← item src
      let (as, src) ← elements item fuel false src
      return (a :: as, src)
    else return ([], src)

/-- A list whose opening bracket has been read. Every element takes up a byte, so the bytes left
bound their number. -/
def list (item : Source → Scan (α × Source)) (src : Source) : Scan (List α × Source) :=
  settle closeList (elements item (Source.size src + 1) true src)

def finish : Source → Scan Unit := fun src =>
  match skipBlanks src with
  | [] => .ok ()
  | rest => failNext .trailingCharacters rest

/-- Reads all of a text and places its fault by line and column. -/
def run (step : Source → Scan (α × Source)) (text : Source) : Except JsonError α :=
  match (do let (a, rest) ← step text; finish rest; return a : Scan α) with
  | .ok a => .ok a
  | .error (.placed fault left) => .error ⟨fault, some (.before text left)⟩
  | .error (.loose why _) => .error (.ofMismatch why)

end Scan

end GraphClient
