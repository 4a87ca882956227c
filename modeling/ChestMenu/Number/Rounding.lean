/-!
# Exact decimal approximation of positive fractions

A fraction is a pair of natural numbers, the second of them not zero, and a decimal is a coefficient
and a power of ten. Everything here is arithmetic of natural numbers, so no step rounds except where
it says so.
-/
namespace ChestMenu.Number

/-- The nearest integer to a fraction; halfway between two, the even one. -/
def roundDiv (num den : Nat) : Nat :=
  let quotient := num / den
  let twice := 2 * (num % den)
  if twice < den || (twice == den && quotient % 2 == 0) then quotient else quotient + 1

/-- How many decimal digits a number has; zero has one. -/
def digitCount (n : Nat) : Nat :=
  (Nat.toDigits 10 n).length

/-- The largest `e` for which ten to the `e` is no larger than the fraction. -/
def decimalExponent (num den : Nat) : Int :=
  if den ≤ num then (digitCount (num / den) : Int) - 1
  else
    let k := digitCount (den / num) - 1
    if den ≤ num * Nat.pow 10 k then -(k : Int) else -(k + 1 : Nat)

/-- A fraction counted in units of ten to the `unit`, again as a fraction. -/
def inUnits (num den : Nat) (unit : Int) : Nat × Nat :=
  if 0 ≤ unit then (num, den * Nat.pow 10 unit.toNat) else (num * Nat.pow 10 (-unit).toNat, den)

/-- A fraction rounded to a number of significant digits: the coefficient and the unit. -/
def significant (digits num den : Nat) : Nat × Int :=
  let unit := decimalExponent num den - digits + 1
  let (n, d) := inUnits num den unit
  (roundDiv n d, unit)

end ChestMenu.Number
