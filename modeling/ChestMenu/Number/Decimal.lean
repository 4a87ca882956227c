import ChestMenu.Number.Real

/-!
# Decimal numbers of any precision

A decimal keeps the number of places that it was written with, so `1.50` and `1.5` are two decimals,
and its text shows them. The text is positional unless the exponent is positive or the number is
smaller than a millionth; then it is scientific.
-/
namespace ChestMenu.Number

open ChestMenu.Text

/-- A decimal number: sign, coefficient and power of ten, or a special value. -/
inductive Decimal where
  | finite (negative : Bool) (coefficient : Nat) (exponent : Int)
  | infinite (negative : Bool)
  | nan (negative signaling : Bool) (diagnostic : List Char)
deriving Repr, DecidableEq

namespace Decimal

private def signText (negative : Bool) : List Char :=
  if negative then ['-'] else []

/-- The text of a decimal. -/
def text : Decimal → String
  | .infinite negative => String.ofList (signText negative ++ "Infinity".toList)
  | .nan negative signaling diagnostic =>
    String.ofList
      (signText negative ++ (if signaling then "sNaN" else "NaN").toList ++ diagnostic)
  | .finite negative coefficient exponent =>
    let ds := Nat.toDigits 10 coefficient
    let size := exponent + ds.length
    let point : Int := if exponent ≤ 0 && -6 < size then size else 1
    let mantissa :=
      if point ≤ 0 then '0' :: '.' :: List.replicate (-point).toNat '0' ++ ds
      else if ds.length ≤ point.toNat then ds ++ List.replicate (point.toNat - ds.length) '0'
      else ds.take point.toNat ++ '.' :: ds.drop point.toNat
    let scale := size - point
    let tail :=
      if scale = 0 then []
      else 'E' :: (if scale < 0 then '-' else '+') :: Nat.toDigits 10 scale.natAbs
    String.ofList (signText negative ++ mantissa ++ tail)

/-- The digits behind the word for what is no number, without leading zeros. -/
private def diagnostic? (cs : List Char) : Option (List Char) := do
  let digits ← cs.mapM digitValue?
  return (digits.map Nat.digitChar).dropWhile (· = '0')

/-- Reads a decimal. Underscores are ignored; the special values may be written in any case. -/
def read? (cs : List Char) : Option Decimal :=
  let (negative, rest) :=
    match (trimChars isBlank cs).filter (· ≠ '_') with
    | '-' :: rest => (true, rest)
    | '+' :: rest => (false, rest)
    | rest => (false, rest)
  let word := rest.map Char.toLower
  if word = "inf".toList || word = "infinity".toList then some (.infinite negative)
  else if "nan".toList.isPrefixOf word then
    (diagnostic? (word.drop 3)).map (.nan negative false)
  else if "snan".toList.isPrefixOf word then
    (diagnostic? (word.drop 4)).map (.nan negative true)
  else
    (readDecimal? rest).map fun (coefficient, exponent) => .finite negative coefficient exponent

/-- Whether a decimal is a zero. -/
def isZero : Decimal → Bool
  | .finite _ coefficient _ => coefficient == 0
  | _ => false

/-- The integer part of a finite decimal. -/
def truncated (negative : Bool) (coefficient : Nat) (exponent : Int) : Int :=
  let n : Int :=
    if 0 ≤ exponent then (coefficient * Nat.pow 10 exponent.toNat : Nat)
    else (coefficient / Nat.pow 10 (-exponent).toNat : Nat)
  if negative then -n else n

end Decimal

end ChestMenu.Number
