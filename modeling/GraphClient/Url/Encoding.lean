/-!
The two encodings of characters in URLs. Characters that a part of a URL may not hold stand as the
bytes of their UTF-8 form, each as a percent sign and two hexadecimal digits; which characters these
are differs from part to part, and what is not ASCII is always encoded.

In the labels of a domain name letters, digits and hyphens spell the whole text. The ASCII characters
stand in front; behind the last hyphen stand the others, in the order of their code points, each as
the distance from the one before it. A distance counts the places between two code points, over the
whole text for each code point in between, and is written in digits of changing weight, the least one
first.
-/

namespace GraphClient.Percent

def isControl (c : Char) : Bool := c.val < 0x20 || 0x7f ≤ c.val

def inFragment (c : Char) : Bool := isControl c || [' ', '"', '<', '>', '`'].contains c

def inPath (c : Char) : Bool := inFragment c || ['#', '?', '\x7b', '\x7d'].contains c

def inUserInfo (c : Char) : Bool :=
  inPath c || ['/', ':', ';', '=', '@', '[', '\\', ']', '^', '|'].contains c

def inQuery (c : Char) : Bool := isControl c || [' ', '"', '#', '<', '>'].contains c

/-- Encoded in the query of a URL with a special scheme. -/
def inSpecialQuery (c : Char) : Bool := inQuery c || c == '\''

def upperDigit (n : Nat) : Char := if n < 10 then .ofNat (48 + n) else .ofNat (55 + n)

def ofByte (b : UInt8) : List Char := ['%', upperDigit (b.toNat / 16), upperDigit (b.toNat % 16)]

def encode (encoded : Char → Bool) (cs : List Char) : List Char :=
  cs.flatMap fun c => if encoded c then (String.utf8EncodeChar c).flatMap ofByte else [c]

def digit? (c : Char) : Option Nat :=
  if '0' ≤ c ∧ c ≤ '9' then some (c.toNat - 48)
  else if 'a' ≤ c ∧ c ≤ 'f' then some (c.toNat - 87)
  else if 'A' ≤ c ∧ c ≤ 'F' then some (c.toNat - 55)
  else none

/-- The bytes of a text in which some bytes are encoded. A percent sign without two digits stands
for itself. -/
def decode : List Char → List UInt8
  | [] => []
  | '%' :: a :: b :: rest =>
    match digit? a, digit? b with
    | some x, some y => .ofNat (16 * x + y) :: decode rest
    | _, _ => 37 :: decode (a :: b :: rest)
  | c :: rest => String.utf8EncodeChar c ++ decode rest

end GraphClient.Percent

namespace GraphClient

structure Punycode where
  text : List Char
  codePoint : Nat := 128
  -- the place behind the last character found
  place : Nat := 0
  -- the place reached by the digits of the number that is being read
  target : Nat := 0
  -- what the next digit is multiplied by
  weight : Nat := 1
  -- the number of digits read of the number, times the base
  position : Nat := 36
  -- tells from where on digits are large, for distances as long as the last one
  bias : Nat := 72

namespace Punycode

/-- Digits are the letters, and then the decimal digits. -/
def digit? (c : Char) : Option Nat :=
  if 'a' ≤ c ∧ c ≤ 'z' then some (c.toNat - 97)
  else if 'A' ≤ c ∧ c ≤ 'Z' then some (c.toNat - 65)
  else if '0' ≤ c ∧ c ≤ '9' then some (c.toNat - 22)
  else none

/-- Numbers must stay below this. -/
def limit : Nat := 4294967296

/-- A number ends with the digit below the threshold. -/
def threshold (d : Punycode) : Nat := max 1 (min 26 (d.position - d.bias))

/-- Divides until the number is small, and counts how often. -/
def shrink : Nat → Nat → Nat × Nat
  | 0, n => (n, 0)
  | fuel + 1, n =>
    if 455 < n then
      let (small, k) := shrink fuel (n / 35)
      (small, k + 1)
    else (n, 0)

/-- The bias after a distance in a text of so many characters. The first distance counts little, as
it leads from ASCII to the script of the text. -/
def adapt (distance length : Nat) (isFirst : Bool) : Nat :=
  let distance := if isFirst then distance / 700 else distance / 2
  let (small, k) := shrink distance (distance + distance / length)
  36 * k + 36 * small / (small + 38)

/-- The character of a code point, if there is one. -/
def char? (n : Nat) : Option Char := if h : n.isValidChar then some (Char.ofNatAux n h) else none

/-- Inserts the character that the number read leads to. -/
def insert? (d : Punycode) : Option Punycode := do
  let length := d.text.length + 1
  let codePoint := d.codePoint + d.target / length
  let place := d.target % length
  let c ← char? codePoint
  return {
    text := d.text.insertIdx place c
    codePoint
    place := place + 1
    target := place + 1
    bias := adapt (d.target - d.place) length (d.place == 0) }

def step (d : Punycode) (c : Char) : Option Punycode := do
  let digit ← digit? c
  let target := d.target + digit * d.weight
  guard (target < limit)
  if digit < d.threshold then insert? { d with target }
  else
    let weight := d.weight * (36 - d.threshold)
    guard (weight < limit)
    return { d with target, weight, position := d.position + 36 }

/-- The text that letters, digits and hyphens stand for. The last number must be complete. -/
def decode? (cs : List Char) : Option (List Char) := do
  let behind := (cs.reverse.takeWhile (· != '-')).reverse
  let front := cs.take (cs.length - behind.length - 1)
  let digits := if front.isEmpty then cs else behind
  let d ← digits.foldlM step { text := front }
  if d.position = 36 then some d.text else none

end Punycode

end GraphClient
