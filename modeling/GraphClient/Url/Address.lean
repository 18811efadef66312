import GraphClient.Url.Encoding

/-!
Network addresses as hosts of URLs: four bytes, or eight pieces of sixteen bits. Both have short
forms that are read but not written: numbers that fill several bytes, and a gap of zeros wherever
one fits.
-/

namespace GraphClient

/-- Cuts a text at each separator; there is one more part than there are separators. -/
def cutAt (isSeparator : Char → Bool) : List Char → List (List Char)
  | [] => [[]]
  | c :: cs =>
    if isSeparator c then [] :: cutAt isSeparator cs
    else match cutAt isSeparator cs with
      | [] => [[c]]
      | part :: parts => (c :: part) :: parts

structure Ipv4 where
  address : UInt32
  deriving DecidableEq, Repr

namespace Ipv4

/-- The value of digits in a base, if they are digits of it. -/
def digits? (base : Nat) (cs : List Char) : Option Nat :=
  cs.foldl (fun n c => do
    let n ← n
    let d ← Percent.digit? c
    if d < base then some (base * n + d) else none) (some 0)

/-- A part of an address: decimal, octal behind a zero, or hexadecimal behind `0x`. -/
def number? : List Char → Option Nat
  | [] => none
  | '0' :: 'x' :: cs => digits? 16 cs
  | '0' :: 'X' :: cs => digits? 16 cs
  | '0' :: c :: cs => digits? 8 (c :: cs)
  | cs => digits? 10 cs

/-- The parts of a dotted name. A dot at the end adds none. -/
def parts (cs : List Char) : List (List Char) :=
  let ps := cutAt (· == '.') cs
  if ps.length > 1 && ps.getLast? == some [] then ps.dropLast else ps

/-- Whether a host must be an address, as its last part is a number. -/
def isMeant (cs : List Char) : Bool :=
  match (parts cs).getLast? with
  | some last => (!last.isEmpty && last.all Char.isDigit) || (number? last).isSome
  | none => false

/-- Each number gives a byte, except that the last one fills all bytes that are left. -/
def ofNumbers? (ns : List Nat) : Option Ipv4 :=
  match ns.reverse with
  | [] => none
  | last :: front =>
    if front.length < 4 && front.all (· < 256) && last < Nat.pow 256 (4 - front.length) then
      let high := front.reverse.foldl (fun n b => 256 * n + b) 0
      some ⟨.ofNat (high * Nat.pow 256 (4 - front.length) + last)⟩
    else none

def ofChars? (cs : List Char) : Option Ipv4 := do ofNumbers? (← (parts cs).mapM number?)

/-- The four bytes in decimal, with dots between them. -/
def text (a : Ipv4) : String :=
  let n := a.address.toNat
  ".".intercalate <| [n / 16777216, n / 65536 % 256, n / 256 % 256, n % 256].map toString

end Ipv4

structure Ipv6 where
  pieces : List UInt16
  length_pieces : pieces.length = 8
  deriving DecidableEq, Repr

namespace Ipv6

/-- The pieces read so far and how many of them stand before the gap. The gap counts as one. -/
structure Draft where
  pieces : List UInt16
  gap : Option Nat

def piece (n : Nat) (value : UInt16) : List Char → UInt16 × List Char
  | [] => (value, [])
  | c :: cs =>
    match n, Percent.digit? c with
    | n + 1, some d => piece n (16 * value + .ofNat d) cs
    | _, _ => (value, c :: cs)

/-- The value of a decimal byte: no zero in front, and at most 255. -/
def byte? (cs : List Char) : Option Nat :=
  match cs with
  | [] => none
  | '0' :: _ :: _ => none
  | cs => if cs.all Char.isDigit then (Ipv4.digits? 10 cs).filter (· < 256) else none

def dotted? (cs : List Char) : Option (List UInt16) :=
  match (cutAt (· == '.') cs).mapM byte? with
  | some [a, b, c, d] => some [.ofNat (256 * a + b), .ofNat (256 * c + d)]
  | _ => none

def read? : Nat → Draft → List Char → Option Draft
  | _, draft, [] => some draft
  | 0, _, _ :: _ => none
  | fuel + 1, draft, c :: cs =>
    if draft.pieces.length = 8 then none
    else if c = ':' then
      if draft.gap.isSome then none
      else read? fuel ⟨draft.pieces ++ [0], some (draft.pieces.length + 1)⟩ cs
    else
      let (value, rest) := piece 4 0 (c :: cs)
      match rest with
      | [] => some { draft with pieces := draft.pieces ++ [value] }
      | ':' :: d :: ds => read? fuel { draft with pieces := draft.pieces ++ [value] } (d :: ds)
      | '.' :: _ =>
        if draft.pieces.length ≤ 6 then
          (dotted? (c :: cs)).map fun ps => { draft with pieces := draft.pieces ++ ps }
        else none
      | _ => none

def ofDraft? (draft : Draft) : Option Ipv6 :=
  let full := match draft.gap with
    | some g =>
      draft.pieces.take g ++ List.replicate (8 - draft.pieces.length) 0 ++ draft.pieces.drop g
    | none => draft.pieces
  if h : full.length = 8 then some ⟨full, h⟩ else none

def ofChars? (cs : List Char) : Option Ipv6 :=
  match cs with
  | ':' :: ':' :: rest => read? cs.length ⟨[0], some 1⟩ rest >>= ofDraft?
  | ':' :: _ => none
  | [] => none
  | [_] => none
  | cs => read? cs.length ⟨[], none⟩ cs >>= ofDraft?

def pieceText (p : UInt16) : String := String.ofList (Nat.toDigits 16 p.toNat)

def zeros (ps : List UInt16) : Nat := (ps.takeWhile (· == 0)).length

/-- The first of the longest runs of zeros from position `i` on, as its start and length. -/
def longestRun (i : Nat) : List UInt16 → Nat × Nat
  | [] => (i, 0)
  | p :: ps =>
    let later := longestRun (i + 1) ps
    if zeros (p :: ps) < later.2 then later else (i, zeros (p :: ps))

/-- The pieces in hexadecimal with colons between them; the first of the longest runs of zeros, if
there is one of at least two, becomes a double colon. -/
def text (a : Ipv6) : String :=
  let join ps := ":".intercalate (ps.map pieceText)
  let (start, length) := longestRun 0 a.pieces
  if length < 2 then join a.pieces
  else join (a.pieces.take start) ++ "::" ++ join (a.pieces.drop (start + length))

/-- As `text`, but an address that stands for one of four bytes shows them. -/
def mixedText (a : Ipv6) : String :=
  match a.pieces with
  | [0, 0, 0, 0, 0, 65535, high, low] =>
    "::ffff:" ++ Ipv4.text ⟨.ofNat (65536 * high.toNat + low.toNat)⟩
  | _ => a.text

end Ipv6

end GraphClient
