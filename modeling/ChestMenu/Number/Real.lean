import ChestMenu.Number.Integer
import ChestMenu.Number.Rounding

/-!
# Binary floating-point numbers as text

The text for display has the fewest digits that read back as the same number, and of those the
digits nearest to it; the compact text has six significant digits and no needless zeros. Both are
positional for exponents in the middle and scientific outside.

A number is taken apart into a natural number times a power of two, and all digits are found in
exact arithmetic on these.
-/
namespace ChestMenu.Number

open ChestMenu.Text

/-- What the bits of a floating-point number say: not a number, infinite, or sign, mantissa and the
power of two that the mantissa is multiplied by. -/
inductive RealParts where
  | nan
  | infinite (negative : Bool)
  | finite (negative : Bool) (mantissa : Nat) (exponent : Int)
deriving Repr, DecidableEq

/-- Takes a floating-point number apart. -/
def realParts (x : Float) : RealParts :=
  let bits := x.toBits.toNat
  let negative := bits / Nat.pow 2 63 == 1
  let biased : Nat := bits / Nat.pow 2 52 % Nat.pow 2 11
  let fraction := bits % Nat.pow 2 52
  if biased == 2047 then if fraction == 0 then .infinite negative else .nan
  else if biased == 0 then .finite negative fraction (-1074)
  else .finite negative (Nat.pow 2 52 + fraction) ((biased : Int) - 1075)

/-- The mantissa times the power of two, as a fraction. -/
def binaryFraction (mantissa : Nat) (exponent : Int) : Nat × Nat :=
  if 0 ≤ exponent then (mantissa * Nat.pow 2 exponent.toNat, 1)
  else (mantissa, Nat.pow 2 (-exponent).toNat)

/-- Tries to find a decimal of `digits` digits among the two neighbours of a positive number that
rounds to it. The numbers that round to it reach a quarter of `4 * mantissa ± 2` on either side, or
half as far below a power of two, and the ends belong to them if the mantissa is even. -/
def neighbour? (mantissa : Nat) (exponent : Int) (digits : Nat) : Option (Nat × Int) :=
  let below := if mantissa == Nat.pow 2 52 && exponent != -1074 then 1 else 2
  let (num, den) := binaryFraction (4 * mantissa) (exponent - 2)
  let unit := decimalExponent num den - digits + 1
  let (n, d) := inUnits num den unit
  let (quarter, _) := inUnits (binaryFraction 1 (exponent - 2)).1 den unit
  let low := n - below * quarter
  let high := n + 2 * quarter
  let inside (j : Nat) : Bool :=
    if mantissa % 2 == 0 then low ≤ j * d && j * d ≤ high else low < j * d && j * d < high
  let floor := n / d
  match inside floor, inside (floor + 1) with
  | true, true => some (roundDiv n d, unit)
  | true, false => some (floor, unit)
  | false, true => some (floor + 1, unit)
  | false, false => none

/-- The decimal with the fewest digits that rounds to a positive number, and of those the nearest
one: coefficient and power of ten. Seventeen digits always suffice. -/
def shortest (mantissa : Nat) (exponent : Int) : Nat × Int :=
  ((List.range 17).findSome? fun k => neighbour? mantissa exponent (k + 1)).getD
    (let (num, den) := binaryFraction mantissa exponent
     significant 17 num den)

/-- How a decimal is laid out: positionally if its exponent is at least `lowest` and below `limit`,
and then with a final `.0` on whole numbers if `wholePoint` asks for it. -/
structure RealStyle where
  lowest : Int
  limit : Int
  wholePoint : Bool

/-- The layout for display. -/
def displayStyle : RealStyle := ⟨-4, 16, true⟩

/-- The compact layout, for six significant digits. -/
def compactStyle : RealStyle := ⟨-4, 6, false⟩

/-- The digits of a coefficient without the zeros at its end. -/
def trimmedDigits (coefficient : Nat) : List Char :=
  match ((Nat.toDigits 10 coefficient).reverse.dropWhile (· = '0')).reverse with
  | [] => ['0']
  | ds => ds

/-- The exponent part of a scientific numeral: its sign is always written and it has at least two
digits. -/
def exponentText (exponent : Int) : List Char :=
  let ds := Nat.toDigits 10 exponent.natAbs
  'e' :: (if exponent < 0 then '-' else '+') :: (if ds.length < 2 then '0' :: ds else ds)

/-- Lays out a positive decimal. -/
def RealStyle.layOut (style : RealStyle) (coefficient : Nat) (unit : Int) : List Char :=
  let ds := trimmedDigits coefficient
  let exponent := unit + digitCount coefficient - 1
  if style.lowest ≤ exponent && exponent < style.limit then
    if exponent < 0 then
      '0' :: '.' :: List.replicate (-exponent - 1).toNat '0' ++ ds
    else
      let whole := exponent.toNat + 1
      if ds.length ≤ whole then
        ds ++ List.replicate (whole - ds.length) '0' ++ (if style.wholePoint then ['.', '0'] else [])
      else ds.take whole ++ '.' :: ds.drop whole
  else
    match ds with
    | [] => []
    | [d] => d :: exponentText exponent
    | d :: more => d :: '.' :: more ++ exponentText exponent

/-- Lays out any floating-point number, its digits chosen by `choose`. -/
def RealStyle.text (style : RealStyle) (choose : Nat → Int → Nat × Int) (x : Float) : String :=
  match realParts x with
  | .nan => "nan"
  | .infinite negative => if negative then "-inf" else "inf"
  | .finite negative mantissa exponent =>
    let sign := if negative then ['-'] else []
    if mantissa = 0 then String.ofList (sign ++ '0' :: if style.wholePoint then ['.', '0'] else [])
    else
      let (coefficient, unit) := choose mantissa exponent
      String.ofList (sign ++ style.layOut coefficient unit)

/-- The display text of a floating-point number. -/
def realText (x : Float) : String :=
  displayStyle.text shortest x

/-- The compact text of a floating-point number, of six significant digits. -/
def compactText (x : Float) : String :=
  compactStyle.text (fun mantissa exponent =>
    let (num, den) := binaryFraction mantissa exponent
    significant 6 num den) x

/-- The floating-point number nearest to a decimal. Decimals far outside the range are decided by
their size alone, so that no power of ten is large. -/
def ofDecimal (negative : Bool) (coefficient : Nat) (unit : Int) : Float :=
  let size := unit + digitCount coefficient
  let magnitude : Float :=
    if coefficient = 0 || size < -400 then 0.0
    else if 400 < size then 1.0 / 0.0
    else Float.ofScientific coefficient (unit < 0) unit.natAbs
  if negative then -magnitude else magnitude

/-- Reads the exponent part of a numeral; a text that is empty has exponent zero. -/
def readExponent? : List Char → Option Int
  | [] => some 0
  | c :: cs =>
    if c = 'e' || c = 'E' then
      let (negative, rest) :=
        match cs with
        | '-' :: rest => (true, rest)
        | '+' :: rest => (false, rest)
        | rest => (false, rest)
      match takeDigits false rest with
      | (d :: ds, []) => some (if negative then -(ofDigits (d :: ds) : Int) else ofDigits (d :: ds))
      | _ => none
    else none

/-- Reads a real numeral without sign as a coefficient and a power of ten. -/
def readDecimal? (cs : List Char) : Option (Nat × Int) :=
  let (whole, rest) := takeDigits false cs
  let (fraction, rest) :=
    match rest with
    | '.' :: rest => takeDigits false rest
    | rest => ([], rest)
  if whole.isEmpty && fraction.isEmpty then none
  else
    (readExponent? rest).map fun exponent =>
      (ofDigits (whole ++ fraction), exponent - fraction.length)

/-- Reads a floating-point number: a numeral with point and exponent, or the words for infinity and
for what is not a number, in any case. -/
def readReal? (cs : List Char) : Option Float :=
  let (negative, rest) :=
    match trimChars isNumeralBlank cs with
    | '-' :: rest => (true, rest)
    | '+' :: rest => (false, rest)
    | rest => (false, rest)
  let word := String.ofList (rest.map Char.toLower)
  if word = "inf" || word = "infinity" then some (if negative then -1.0 / 0.0 else 1.0 / 0.0)
  else if word = "nan" then some (0.0 / 0.0)
  else (readDecimal? rest).map fun (coefficient, unit) => ofDecimal negative coefficient unit

/-- The integer part of a floating-point number; nothing if it has none. -/
def truncate? (x : Float) : Option Int :=
  match realParts x with
  | .finite negative mantissa exponent =>
    let (num, den) := binaryFraction mantissa exponent
    let n : Int := (num / den : Nat)
    some (if negative then -n else n)
  | _ => none

/-- The floating-point number nearest to an integer; nothing if it is out of range. -/
def ofInteger? (n : Int) : Option Float :=
  let x := ofDecimal (n < 0) n.natAbs 0
  if x.isFinite then some x else none

end ChestMenu.Number
