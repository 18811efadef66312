/-!
The shortest decimal that reads back as a given floating-point number, found in exact arithmetic.
A finite double is `mantissa * 2 ^ exponent`; the reals that round to it form an interval, whose
ends belong to it when the mantissa is even. On the grid of decimals with one digit, then two, and
so on, the two neighbours of the value are tried until one lies in the interval.
-/

namespace GraphClient.Number

structure Binary where
  mantissa : Nat
  exponent : Int
  deriving DecidableEq, Repr

structure Decimal where
  digits : Nat
  exponent : Int
  deriving DecidableEq, Repr

/-- The leading bit of a normal double's mantissa, which is not stored: two to the 52nd. -/
def hidden : Nat := 4503599627370496

def Binary.ofFloat (x : Float) : Binary :=
  let bits := x.toBits.toNat
  let fraction := bits % hidden
  let biased : Nat := bits / hidden % 2048
  if biased = 0 then ⟨fraction, -1074⟩ else ⟨hidden + fraction, (biased : Int) - 1075⟩

/-- The sign bit of a double, which zeros have too. -/
def isNegative (x : Float) : Bool := x.toBits.toNat / 9223372036854775808 == 1

structure Fraction where
  num : Nat
  den : Nat

namespace Fraction

def scale2 (a : Nat) (e : Int) : Fraction :=
  if 0 ≤ e then ⟨a * Nat.pow 2 e.toNat, 1⟩ else ⟨a, Nat.pow 2 (-e).toNat⟩

def scale10 (a : Nat) (e : Int) : Fraction :=
  if 0 ≤ e then ⟨a * Nat.pow 10 e.toNat, 1⟩ else ⟨a, Nat.pow 10 (-e).toNat⟩

def compare (x y : Fraction) : Ordering := Ord.compare (x.num * y.den) (y.num * x.den)

/-- The whole part of `x / 10 ^ e`. -/
def floorDiv10 (x : Fraction) (e : Int) : Nat :=
  if 0 ≤ e then x.num / (x.den * Nat.pow 10 e.toNat)
  else x.num * Nat.pow 10 (-e).toNat / x.den

def leading (x : Fraction) : Int :=
  let guess : Int := (Nat.toDigits 10 x.num).length - (Nat.toDigits 10 x.den).length
  if compare x (scale10 1 guess) = .lt then guess - 1 else guess

end Fraction

/-- The interval of reals that round to a double, and whether its ends do. -/
structure Rounding where
  low : Fraction
  value : Fraction
  high : Fraction
  closed : Bool

/-- A double's neighbours lie one unit of its exponent away, except that below a power of two the
next one down is only half as far. -/
def Binary.rounding (b : Binary) : Rounding where
  low := .scale2 (4 * b.mantissa - if b.mantissa = hidden ∧ b.exponent ≠ -1074 then 1 else 2)
    (b.exponent - 2)
  value := .scale2 (4 * b.mantissa) (b.exponent - 2)
  high := .scale2 (4 * b.mantissa + 2) (b.exponent - 2)
  closed := b.mantissa % 2 == 0

def Rounding.accepts (r : Rounding) (d : Decimal) : Bool :=
  let x := Fraction.scale10 d.digits d.exponent
  match Fraction.compare r.low x, Fraction.compare x r.high with
  | .lt, .lt => true
  | .eq, .lt => r.closed
  | .lt, .eq => r.closed
  | _, _ => false

/-- Of the two neighbours of the value on the grid of multiples of `10 ^ e`, the one that reads
back; of two, the nearer, and at equal distance the even one. -/
def Rounding.onGrid (r : Rounding) (e : Int) : Option Decimal :=
  let d := r.value.floorDiv10 e
  let below : Decimal := ⟨d, e⟩
  let above : Decimal := ⟨d + 1, e⟩
  match d ≠ 0 && r.accepts below, r.accepts above with
  | false, false => none
  | true, false => some below
  | false, true => some above
  | true, true =>
    -- twice the value against the sum of the two neighbours
    match Fraction.compare ⟨2 * r.value.num, r.value.den⟩ (.scale10 (2 * d + 1) e) with
    | .lt => some below
    | .gt => some above
    | .eq => some (if d % 2 = 0 then below else above)

def Decimal.trim (d : Decimal) : Decimal :=
  go (Nat.toDigits 10 d.digits).length d
where
  go : Nat → Decimal → Decimal
    | 0, d => d
    | n + 1, d =>
      if d.digits ≠ 0 ∧ d.digits % 10 = 0 then go n ⟨d.digits / 10, d.exponent + 1⟩ else d

/-- The first grid, of one to seventeen digits, on which the value has a decimal. Seventeen digits
always suffice for a double. -/
def Rounding.shortest (r : Rounding) : Decimal :=
  let lead := r.value.leading
  let found := (List.range 17).findSome? fun n => r.onGrid (lead - (n : Nat))
  (found.getD ⟨r.value.floorDiv10 (lead - 16), lead - 16⟩).trim

/-- The shortest decimal that reads back as the magnitude of a finite double other than zero. -/
def shortest (x : Float) : Decimal := (Binary.ofFloat x).rounding.shortest

/-- How a decimal is laid out: positionally while the exponent of its leading digit lies between
the two bounds, otherwise with a signed exponent. -/
structure Layout where
  least : Int
  greatest : Int

/-- The text of digits whose leading one stands for `10 ^ lead`. Positional text always has a
point with a digit on either side. -/
def Layout.write (l : Layout) (digits : List Char) (lead : Int) : List Char :=
  if l.least ≤ lead ∧ lead ≤ l.greatest then
    if 0 ≤ lead then
      let width := lead.toNat + 1
      let whole := digits.take width ++ List.replicate (width - digits.length) '0'
      let fraction := digits.drop width
      whole ++ '.' :: (if fraction.isEmpty then ['0'] else fraction)
    else
      '0' :: '.' :: (List.replicate ((-lead).toNat - 1) '0' ++ digits)
  else
    let mantissa := match digits with
      | [] => []
      | [d] => [d]
      | d :: rest => d :: '.' :: rest
    mantissa ++ 'e' :: (if 0 ≤ lead then '+' else '-') :: Nat.toDigits 10 lead.natAbs

/-- The text of a finite double in a layout. -/
def Layout.writeFloat (l : Layout) (x : Float) : List Char :=
  let magnitude :=
    if x == 0 then ['0', '.', '0']
    else
      let d := shortest x
      let digits := Nat.toDigits 10 d.digits
      l.write digits (d.exponent + digits.length - 1)
  if isNegative x then '-' :: magnitude else magnitude

end GraphClient.Number
