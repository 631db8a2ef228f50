import NullSafeEquality.Decimal.Double

/-!
The shortest decimal that reads back as a given number: the coarsest decimal grid with a point that
rounds to the number, and of two such points the nearer one, the upper one if both are equally near.
The text of a number is positional, however many zeros that takes, and has a point.
-/

namespace NullSafeEquality.Decimal

/-- Bounds of what rounds to a number, in quarters of the unit of its significand. -/
structure Interval where
  low : Nat
  value : Nat
  high : Nat
  closed : Bool

namespace Double

/-- Below a power of two the next number is only half as far away. -/
def interval (d : Double) : Interval :=
  let narrow := d.significand = leastFull && leastExponent < d.exponent
  { low := 4 * d.significand - if narrow then 1 else 2
    value := 4 * d.significand
    high := 4 * d.significand + 2
    closed := d.significand % 2 = 0 }

def Interval.contains (i : Interval) (point unit : Nat) : Bool :=
  if i.closed then i.low * unit ≤ point && point ≤ i.high * unit
  else i.low * unit < point && point < i.high * unit

/-- The point of a decimal grid that rounds to the number and is nearest to it. -/
def pointOn? (d : Double) (grid : Int) : Option Nat :=
  let i := d.interval
  let (u, v) := scale 1 2 (d.exponent - 2)
  let (g, h) := scale 1 10 grid
  let unit := u * h
  let step := g * v
  let below := i.value * unit / step
  let above := below + 1
  let lower := Interval.contains i (below * step) unit
  let upper := Interval.contains i (above * step) unit
  if lower && upper then
    if above * step - i.value * unit ≤ i.value * unit - below * step then some above
    else some below
  else if lower then some below
  else if upper then some above
  else none

def search (d : Double) : Nat → Int → Nat × Int
  | 0, grid => (0, grid)
  | fuel + 1, grid =>
      match d.pointOn? grid with
      | some n => (n, grid)
      | none => search d fuel (grid - 1)

/-- The digits of the shortest decimal and the power of ten that they count. -/
def shortest (d : Double) : Nat × Int :=
  if d.significand = 0 then (0, 0)
  else
    let bits : Int := d.significand.log2 + d.exponent
    search d 40 (bits * 30103 / 100000 + 2)

end Double

/-- Digits times a power of ten, written with a point and at least one digit on either side. -/
def positional (digits : Nat) (exponent : Int) : String :=
  let ds := toString digits
  if 0 ≤ exponent then ds ++ "".pushn '0' exponent.toNat ++ ".0"
  else
    let places := (-exponent).toNat
    let padded := "".pushn '0' (places + 1 - ds.length) ++ ds
    let whole := padded.length - places
    String.ofList (padded.toList.take whole) ++ "." ++ String.ofList (padded.toList.drop whole)

def Double.text (d : Double) : String :=
  let (digits, exponent) := d.shortest
  positional digits exponent

end NullSafeEquality.Decimal
