import ChestMenu.Value.Basic

/-!
# Sums of dynamic values

There is a sum of two numbers, and of two texts, lists, tuples or byte sequences in a row. A truth
value counts as zero or one. Integers are added exactly, and an integer beside a floating-point
number is turned into one first. Of a sum of decimals the first digits are kept.
-/
namespace ChestMenu

open ChestMenu.Number

namespace Number.Decimal

/-- How many digits of a sum are kept. -/
def keptDigits : Nat := 28

/-- The greatest power of ten in a sum. -/
def greatestPower : Int := 999999

/-- A finite decimal with no more digits than are kept, rounded to the nearest; halfway between two, to
the even one. It must not be too large. -/
def rounded (negative : Bool) (coefficient : Nat) (exponent : Int) : Except Failure Decimal :=
  let excess := digitCount coefficient - keptDigits
  let kept := if excess = 0 then coefficient else roundDiv coefficient (Nat.pow 10 excess)
  let (kept, excess) :=
    if digitCount kept ≤ keptDigits then (kept, excess) else (kept / 10, excess + 1)
  if kept ≠ 0 && greatestPower < exponent + excess + digitCount kept - 1 then
    .error .decimalTooLarge
  else .ok (finite negative kept (exponent + excess))

/-- A coefficient with its sign. -/
private def signed (negative : Bool) (coefficient : Nat) : Int :=
  if negative then -(coefficient : Int) else coefficient

/-- The sum of two finite decimals, of which the first has the greater exponent. It has as many places
as the second, unless these are too many to be kept. A second term that is too small to change a digit
that is kept counts as the least one that breaks a tie. -/
private def addFiner (negative : Bool) (coefficient : Nat) (exponent : Int) (negative' : Bool)
    (coefficient' : Nat) (exponent' : Int) : Except Failure Decimal :=
  if coefficient = 0 then
    rounded (negative' && (negative || coefficient' ≠ 0)) coefficient' exponent'
  else
    let least := exponent + min (-1) ((digitCount coefficient : Int) - keptDigits - 2)
    let (coefficient', exponent') :=
      if exponent' + digitCount coefficient' - 1 < least then (min 1 coefficient', least)
      else (coefficient', exponent')
    let sum := signed negative (coefficient * Nat.pow 10 (exponent - exponent').toNat) +
      signed negative' coefficient'
    rounded (sum < 0) sum.natAbs exponent'

/-- The sum of two decimals. What is no number stays so, and infinities of two signs have no sum. -/
def add : Decimal → Decimal → Except Failure Decimal
  | nan _ true _, _ | _, nan _ true _ => .error .notADecimal
  | nan negative false diagnostic, _ | _, nan negative false diagnostic =>
    .ok (nan negative false diagnostic)
  | infinite negative, infinite negative' =>
    if negative = negative' then .ok (infinite negative) else .error .notADecimal
  | infinite negative, _ | _, infinite negative => .ok (infinite negative)
  | finite negative coefficient exponent, finite negative' coefficient' exponent' =>
    if exponent' ≤ exponent then
      addFiner negative coefficient exponent negative' coefficient' exponent'
    else addFiner negative' coefficient' exponent' negative coefficient exponent

end Number.Decimal

namespace Value

/-- The integer that a truth value or an integer stands for. -/
private def whole? : Value → Option Int
  | bool b => some (if b then 1 else 0)
  | int n => some n
  | _ => none

/-- The decimal that a decimal or an integer stands for. -/
private def decimal? : Value → Option Decimal
  | decimal d => some d
  | v => (whole? v).map fun n => .finite (n < 0) n.natAbs 0

/-- The sum of two values. -/
def add (v w : Value) : Except Failure Value :=
  let refused : Except Failure Value := .error (.mismatchedTypes v.typeName w.typeName)
  match v.plain, w.plain with
  | text s, text t => .ok (text (s ++ t))
  | list xs, list ys => .ok (list (xs ++ ys))
  | tuple xs, tuple ys => .ok (tuple (xs ++ ys))
  | bytes b, bytes c => .ok (bytes (b ++ c))
  | v, w =>
    match whole? v, whole? w with
    | some n, some k => .ok (int (n + k))
    | _, _ =>
      match v, w with
      | real x, real y => .ok (real (x + y))
      | real x, w =>
        if (whole? w).isSome then do return real (x + (← w.toReal)) else refused
      | v, real y =>
        if (whole? v).isSome then do return real ((← v.toReal) + y) else refused
      | v, w =>
        match decimal? v, decimal? w with
        | some d, some d' => do return decimal (← d.add d')
        | _, _ => refused

end Value

end ChestMenu
