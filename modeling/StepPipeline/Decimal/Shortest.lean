/-!
# The fewest digits that read back

A finite positive float is `m * 2 ^ q`. The numbers that round to it form an interval around it,
whose ends belong to it when `m` is even. `shortest` takes the coarsest power-of-ten grid with a
point in that interval and, on it, the point nearest to the float; of two equally near the even one.
All arithmetic is exact.
-/

namespace StepPipeline.Decimal

/-- The weight `2 ^ 52` of the leading bit of a normal float, which is not stored. -/
def leadingBit : Nat := 0x10000000000000

def fractionBits (x : Float) : Nat := x.toBits.toNat % leadingBit

def exponentBits (x : Float) : Nat := x.toBits.toNat / leadingBit % 2048

/-- The size of a finite float as `m * 2 ^ q`. -/
def binary (x : Float) : Nat × Int :=
  if exponentBits x = 0 then (fractionBits x, -1074)
  else (fractionBits x + leadingBit, (exponentBits x : Int) - 1075)

/-- The numbers that round to one float, in quarters of its last binary place `2 ^ q`. -/
structure Rounding where
  low : Nat
  mid : Nat
  high : Nat
  /-- The power of two of a quarter. -/
  exponent : Int
  /-- Whether the ends round to the float as well. -/
  closed : Bool

/-- The interval of a positive finite float. Below a power of two the neighbour is only half as
far away. -/
def Rounding.of (x : Float) : Rounding :=
  let (m, q) := binary x
  let gap := if fractionBits x = 0 ∧ 1 < exponentBits x then 1 else 2
  ⟨4 * m - gap, 4 * m, 4 * m + 2, q - 2, m % 2 == 0⟩

namespace Rounding

/-- Factors that bring a quarter and the grid of step `10 ^ g` to one unit. -/
def factors (r : Rounding) (g : Int) : Nat × Nat :=
  (Nat.pow 2 r.exponent.toNat * Nat.pow 10 (-g).toNat,
    Nat.pow 10 g.toNat * Nat.pow 2 (-r.exponent).toNat)

/-- Whether `d * 10 ^ g` lies in the interval. -/
def holds (r : Rounding) (g : Int) (d : Nat) : Bool :=
  let (a, b) := r.factors g
  if r.closed then r.low * a ≤ d * b && d * b ≤ r.high * a
  else r.low * a < d * b && d * b < r.high * a

/-- The point of the grid of step `10 ^ g` that lies in the interval nearest to its middle. -/
def nearest? (r : Rounding) (g : Int) : Option Nat :=
  let (a, b) := r.factors g
  let below := r.mid * a / b
  match r.holds g below, r.holds g (below + 1) with
  | true, true =>
    let twice := 2 * (r.mid * a)
    let centre := (2 * below + 1) * b
    some (if twice < centre ∨ twice = centre ∧ below % 2 = 0 then below else below + 1)
  | true, false => some below
  | false, true => some (below + 1)
  | false, false => none

/-- The first of the grids `10 ^ g`, `10 ^ (g - 1)`, … with a point in the interval. -/
def coarsest (r : Rounding) : Nat → Int → Nat × Int
  | 0, g => (r.mid * (r.factors g).1 / (r.factors g).2, g)
  | grids + 1, g =>
    match r.nearest? g with
    | some d => (d, g)
    | none => coarsest r grids (g - 1)

end Rounding

/-- A bound on the decimal exponent of `m * 2 ^ q`. -/
def exponentAbove (m : Nat) (q : Int) : Int := ((m.log2 : Int) + q) * 30103 / 100000 + 1

/-- Digits `d` and exponent `g` with `d * 10 ^ g` the shortest decimal that reads back as the
positive finite float `x`. -/
def shortest (x : Float) : Nat × Int :=
  let (m, q) := binary x
  (Rounding.of x).coarsest 20 (exponentAbove m q)

/-- Which decimal exponents are written with a point and no exponent. -/
structure Layout where
  least : Int
  greatest : Int

/-- Write `d * 10 ^ g`: within the layout's range positionally and always with a digit after
the point, outside it with one digit before the point and a signed exponent. -/
def Layout.write (l : Layout) (d : Nat) (g : Int) : List Char :=
  let digits := Nat.toDigits 10 d
  let e : Int := digits.length - 1 + g
  if l.least ≤ e ∧ e ≤ l.greatest then
    if e < 0 then '0' :: '.' :: List.replicate ((-e).toNat - 1) '0' ++ digits
    else
      let whole := e.toNat + 1
      if digits.length ≤ whole then
        digits ++ List.replicate (whole - digits.length) '0' ++ ['.', '0']
      else digits.take whole ++ '.' :: digits.drop whole
  else
    let mantissa := match digits with
      | [c] => [c]
      | c :: rest => c :: '.' :: rest
      | [] => []
    mantissa ++ 'e' :: (if e < 0 then '-' else '+') :: Nat.toDigits 10 e.natAbs

/-- The shortest text of a float that reads back as it, with its sign; zero is `0.0`. -/
def Layout.text (l : Layout) (x : Float) : List Char :=
  let size :=
    if fractionBits x = 0 ∧ exponentBits x = 0 then ['0', '.', '0']
    else l.write (shortest x).1 (shortest x).2
  if x.toBits ≥ 0x8000000000000000 then '-' :: size else size

end StepPipeline.Decimal
