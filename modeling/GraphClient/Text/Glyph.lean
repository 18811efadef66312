/-!
A byte sequence read as text: characters where the bytes are well-formed UTF-8, and single stray
bytes where they are not. Positions in the text are counted in bytes, so a glyph knows its size.
-/

namespace GraphClient.Text

/-- A character of the text, or a byte that belongs to none. -/
inductive Glyph where
  | char (c : Char)
  | stray (b : UInt8)
  deriving DecidableEq, Repr

namespace Glyph

def size : Glyph → Nat
  | char c => c.utf8Size
  | stray _ => 1

@[simp] theorem size_char (c : Char) : (char c).size = c.utf8Size := rfl
@[simp] theorem size_stray (b : UInt8) : (stray b).size = 1 := rfl

theorem size_pos (g : Glyph) : 0 < g.size := by
  cases g with
  | char c => exact c.utf8Size_pos
  | stray b => exact Nat.one_pos

end Glyph

/-- Text to be read: what is left of it, first glyph first. -/
abbrev Source := List Glyph

namespace Source

def size : Source → Nat
  | [] => 0
  | g :: rest => g.size + size rest

@[simp] theorem size_nil : size [] = 0 := rfl

@[simp] theorem size_cons (g : Glyph) (s : Source) : size (g :: s) = g.size + size s := rfl

@[simp] theorem size_append (s t : Source) : size (s ++ t) = size s + size t := by
  induction s with
  | nil => simp
  | cons g s ih => simp [ih, Nat.add_assoc]

theorem size_eq_zero {s : Source} : s.size = 0 ↔ s = [] := by
  cases s with
  | nil => simp
  | cons g s => have := g.size_pos; simp; omega

def ofChars (cs : List Char) : Source := cs.map .char

@[simp] theorem ofChars_nil : ofChars [] = [] := rfl
@[simp] theorem ofChars_cons (c : Char) (cs : List Char) :
    ofChars (c :: cs) = .char c :: ofChars cs := rfl
@[simp] theorem ofChars_append (cs ds : List Char) :
    ofChars (cs ++ ds) = ofChars cs ++ ofChars ds := by simp [ofChars]

def ofString (s : String) : Source := ofChars s.toList

/-- The glyphs from position `i` on: a character where one starts, else the byte by itself. -/
def ofBytesFrom (bytes : ByteArray) (i : Nat) : Source :=
  if h : i < bytes.size then
    match bytes.utf8DecodeChar? i with
    | some c => .char c :: ofBytesFrom bytes (i + c.utf8Size)
    | none => .stray bytes[i] :: ofBytesFrom bytes (i + 1)
  else []
termination_by bytes.size - i
decreasing_by
  · have := c.utf8Size_pos; omega
  · omega

def ofBytes (bytes : ByteArray) : Source := ofBytesFrom bytes 0

/-- The text itself, when no byte of it is stray. -/
def toChars? : Source → Option (List Char)
  | [] => some []
  | .char c :: rest => (toChars? rest).map (c :: ·)
  | .stray _ :: _ => none

/-- Text without stray bytes is read back from its glyphs. -/
@[simp] theorem toChars?_ofChars (cs : List Char) : toChars? (ofChars cs) = some cs := by
  induction cs with
  | nil => rfl
  | cons c cs ih => simp [toChars?, ih]

/-- What is left from the first stray byte on. -/
def fromStray : Source → Source
  | [] => []
  | .char _ :: rest => fromStray rest
  | .stray b :: rest => .stray b :: rest

end Source

/-- A place in a text: lines count from one, columns count the bytes read on the line. -/
structure Position where
  line : Nat
  column : Nat
  deriving DecidableEq, Repr

namespace Position

/-- The place reached from `p` after the first `n` bytes of the text. -/
def advance (p : Position) : Nat → Source → Position
  | 0, _ => p
  | _, [] => p
  | n + 1, g :: rest =>
    if n + 1 < g.size then ⟨p.line, p.column + (n + 1)⟩
    else if g = .char '\n' then advance ⟨p.line + 1, 0⟩ (n + 1 - g.size) rest
    else advance ⟨p.line, p.column + g.size⟩ (n + 1 - g.size) rest

/-- The place in `text` with `left` bytes still to read. -/
def before (text : Source) (left : Nat) : Position :=
  advance ⟨1, 0⟩ (text.size - left) text

end Position

end GraphClient.Text
