import GraphClient.Json.Scan

/-!
Reading a JSON number. Integers that fit 64 bits are exact. Every other number becomes a double,
and is computed, not correctly rounded: of its digits the leading ones that fit 64 bits count, and
their value is multiplied or divided by a power of ten.
-/

namespace GraphClient.Scan

open Text (Source Glyph)

def digit? : Source → Option (Nat × Source)
  | .char c :: rest => if c.isDigit then some (c.toNat - 48, rest) else none
  | _ => none

/-- The decimal digits in front, and what follows them. -/
def digits : Source → List Nat × Source
  | .char c :: rest =>
    if c.isDigit then
      let (ds, rest) := digits rest
      ((c.toNat - 48) :: ds, rest)
    else ([], .char c :: rest)
  | src => ([], src)

/-- Extends a number by digits as long as it fits 64 bits; also says how many it took. -/
def absorb (n : Nat) : List Nat → Nat × Nat
  | [] => (n, 0)
  | d :: ds =>
    if 10 * n + d < 18446744073709551616 then
      let (m, taken) := absorb (10 * n + d) ds
      (m, taken + 1)
    else (n, 0)

/-- The double `x * 10 ^ e`, in one step while the power of ten is a double and else in steps of
`10 ^ -308`; none on overflow. -/
def scale (x : Float) (e : Int) : Option Float :=
  if 308 < e then if x == 0 then some x else none
  else if 0 ≤ e then
    let y := x * Float.ofScientific 1 false e.toNat
    if y.isInf then none else some y
  else if -308 ≤ e then some (x / Float.ofScientific 1 false (-e).toNat)
  else if x == 0 then some x
  else scale (x / Float.ofScientific 1 false 308) (e + 308)
termination_by (-e).toNat
decreasing_by omega

/-- A double from its sign, significand and decimal exponent. -/
def double (negative : Bool) (significand : Nat) (e : Int) (rest : Source) : Scan (JsonNumber × Source) :=
  match scale (Float.ofNat significand) e with
  | some x => .ok (.float (if negative then -x else x), rest)
  | none => fail .numberOutOfRange rest

/-- Exponents are read while they fit 31 bits; the result says whether they did. -/
def exponentDigits (e : Nat) : Source → Nat × Bool × Source
  | .char c :: rest =>
    if c.isDigit then
      let next := 10 * e + (c.toNat - 48)
      if next < 2147483648 then exponentDigits next rest else (e, false, rest)
    else (e, true, .char c :: rest)
  | src => (e, true, src)

def exponent (negative : Bool) (significand : Nat) (e : Int) (src : Source) :
    Scan (JsonNumber × Source) := do
  let (minus, src) := match src with
    | .char '-' :: rest => (true, rest)
    | .char '+' :: rest => (false, rest)
    | src => (false, src)
  match digit? src with
  | none => if src.isEmpty then fail .unfinishedValue src else failNext .invalidNumber src
  | some (d, rest) =>
    match exponentDigits d rest with
    | (n, true, rest) => double negative significand (if minus then e - n else e + n) rest
    | (_, false, rest) =>
      if significand ≠ 0 ∧ !minus then fail .numberOutOfRange rest
      else return (.float (if negative then -0.0 else 0.0), (digits rest).2)

/-- Whether an exponent follows: the text behind its letter. -/
def exponent? : Source → Option Source
  | .char 'e' :: rest => some rest
  | .char 'E' :: rest => some rest
  | _ => none

/-- The end of a number with a fraction or too many digits. -/
def tail (negative : Bool) (significand : Nat) (e : Int) (src : Source) : Scan (JsonNumber × Source) :=
  match exponent? src with
  | some rest => exponent negative significand e rest
  | none => double negative significand e src

def fraction (negative : Bool) (significand : Nat) (e : Int) (src : Source) :
    Scan (JsonNumber × Source) :=
  match digits src with
  | ([], _) => if src.isEmpty then fail .unfinishedValue src else failNext .invalidNumber src
  | (ds, rest) =>
    let (n, taken) := absorb significand ds
    tail negative n (e - taken) rest

/-- An integer without fraction or exponent. A negative zero is no integer. -/
def whole (negative : Bool) (n : Nat) (rest : Source) : Scan (JsonNumber × Source) :=
  let value : Int := if negative then -n else n
  if h : IsJsonInt value ∧ ¬(negative ∧ n = 0) then .ok (.int value h.1, rest)
  else .ok (.float (if negative then -Float.ofNat n else Float.ofNat n), rest)

def number (negative : Bool) (src : Source) : Scan (JsonNumber × Source) :=
  match digits src with
  | ([], _) => if src.isEmpty then fail .unfinishedValue src else failNext .invalidNumber src
  | (0 :: _ :: _, _) => failNext .invalidNumber (src.drop 1)
  | (ds, rest) =>
    let (n, taken) := absorb 0 ds
    let dropped := ds.length - taken
    match rest with
    | .char '.' :: rest => fraction negative n dropped rest
    | rest =>
      match exponent? rest with
      | some rest => exponent negative n dropped rest
      | none => if dropped = 0 then whole negative n rest else double negative n dropped rest

end GraphClient.Scan
