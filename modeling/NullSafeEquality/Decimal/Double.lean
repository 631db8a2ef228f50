/-!
Finite binary numbers of double width, and the one that is nearest to a decimal. A number is a
significand below 2 ^ 53 times a power of two that is not below 2 ^ -1074; of two that are equally
near the even significand is taken.
-/

namespace NullSafeEquality.Decimal

/-- A finite number without its sign. -/
structure Double where
  significand : Nat
  exponent : Int
deriving DecidableEq, Inhabited

/-- The least significand of a number that is not among the smallest ones. -/
def leastFull : Nat := 0x10000000000000

def leastExponent : Int := -1074

def scale (n base : Nat) (exponent : Int) : Nat × Nat :=
  (n * Nat.pow base exponent.toNat, Nat.pow base (-exponent).toNat)

/-- A quotient rounded to the nearest whole number, a half to the even one. -/
def roundQuotient (num den : Nat) : Nat :=
  let q := num / den
  let r := num % den
  if 2 * r < den then q
  else if 2 * r = den then q + q % 2
  else q + 1

namespace Double

def zero : Double := { significand := 0, exponent := leastExponent }

def significandAt (num den : Nat) (exponent : Int) : Nat :=
  let (p, q) := scale 1 2 exponent
  roundQuotient (num * q) (den * p)

/-- The number nearest to a positive quotient, however large. -/
def ofQuotient (num den : Nat) : Double :=
  let high : Int := max leastExponent ((num.log2 : Int) - (den.log2 : Int) - 52)
  let low := max leastExponent (high - 1)
  let exponent := if significandAt num den high < leastFull then low else high
  let significand := significandAt num den exponent
  if significand = 2 * leastFull then { significand := leastFull, exponent := exponent + 1 }
  else { significand, exponent }

/-- The number nearest to a decimal, unless that is too large. -/
def ofDecimal? (digits : Nat) (exponent : Int) : Option Double :=
  if digits = 0 then some zero
  else
    let length : Int := (toString digits).length
    if 400 < exponent + length then none
    else if exponent + length < -400 then some zero
    else
      let (num, den) := scale digits 10 exponent
      let d := ofQuotient num den
      if 971 < d.exponent then none else some d

end Double
end NullSafeEquality.Decimal
