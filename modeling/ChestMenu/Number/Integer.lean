import ChestMenu.Text.Blank
import ChestMenu.Text.Digit

/-!
# Integers as text

An integer is written in decimal with a leading minus sign if it is negative. It is read more
freely: blanks around it, a sign of either kind, decimal digits of any script, leading zeros, and
single underscores between digits. A numeral of more than `digitLimit` digits is refused, so that
reading a text takes bounded time, and an integer with more digits than that has no text.
-/
namespace ChestMenu.Number

open ChestMenu.Text

/-- The most digits that the numeral of an integer may have, read or written. -/
def digitLimit : Nat := 4300

/-- The blanks allowed around a numeral: all but the four information separators. -/
def isNumeralBlank (c : Char) : Bool :=
  isBlank c && !(0x1C ≤ c.toNat && c.toNat ≤ 0x1F)

/-- The values of the digits that a text starts with, and the rest of it; `value?` says which
characters are digits. An underscore is passed over between two digits; `afterDigit` says that a digit
stands in front of the text. -/
def takeDigitsBy (value? : Char → Option Nat) (afterDigit : Bool) :
    List Char → List Nat × List Char
  | [] => ([], [])
  | c :: cs =>
    match value? c with
    | some d =>
      let (ds, rest) := takeDigitsBy value? true cs
      (d :: ds, rest)
    | none =>
      if afterDigit && c = '_' && (cs.head?.bind value?).isSome then takeDigitsBy value? false cs
      else ([], c :: cs)

/-- The values of the decimal digits that a text starts with, and the rest of it. -/
def takeDigits (afterDigit : Bool) (cs : List Char) : List Nat × List Char :=
  takeDigitsBy digitValue? afterDigit cs

/-- The number that a list of decimal digits stands for. -/
def ofDigits (ds : List Nat) : Nat :=
  ds.foldl (fun n d => 10 * n + d) 0

/-- Reads a numeral without sign. -/
def readNatural? (cs : List Char) : Option Nat :=
  match takeDigits false cs with
  | ([], _) => none
  | (ds, []) => if ds.length ≤ digitLimit then some (ofDigits ds) else none
  | _ => none

/-- Reads an integer; nothing if the text is not a numeral or is too long. -/
def readInteger? (cs : List Char) : Option Int :=
  match trimChars isNumeralBlank cs with
  | '-' :: rest => (readNatural? rest).map fun n => -(n : Int)
  | '+' :: rest => (readNatural? rest).map Int.ofNat
  | rest => (readNatural? rest).map Int.ofNat

/-- The value of a digit of a base: a decimal digit of any script or a letter. -/
def baseDigit? (base : Nat) (c : Char) : Option Nat :=
  let letter : Option Nat :=
    if c.isLower then some (c.toNat - 0x57)
    else if c.isUpper then some (c.toNat - 0x37)
    else none
  ((digitValue? c).or letter).filter (· < base)

/-- The letter that may stand behind a zero in front of the digits of a base. -/
def baseLetter? : Nat → Option Char
  | 2 => some 'b'
  | 8 => some 'o'
  | 16 => some 'x'
  | _ => none

/-- The text behind the zero and the letter that announce a base, and behind an underscore there. -/
def dropBaseMark (base : Nat) : List Char → List Char
  | zero :: letter :: rest =>
    if digitValue? zero = some 0 && baseLetter? base = some letter.toLower then
      match rest with
      | '_' :: digits => digits
      | digits => digits
    else zero :: letter :: rest
  | cs => cs

/-- Reads a numeral of a base without sign. It may have any number of digits. -/
def readBasedNatural? (base : Nat) (cs : List Char) : Option Nat :=
  match takeDigitsBy (baseDigit? base) false (dropBaseMark base cs) with
  | ([], _) => none
  | (ds, []) => some (ds.foldl (fun n d => base * n + d) 0)
  | _ => none

/-- Reads an integer that is written in a base. -/
def readBased? (base : Nat) (cs : List Char) : Option Int :=
  match trimChars isNumeralBlank cs with
  | '-' :: rest => (readBasedNatural? base rest).map fun n => -(n : Int)
  | '+' :: rest => (readBasedNatural? base rest).map Int.ofNat
  | rest => (readBasedNatural? base rest).map Int.ofNat

/-- The decimal digits of a natural number. -/
def naturalText (n : Nat) : String :=
  String.ofList (Nat.toDigits 10 n)

/-- The decimal text of an integer. -/
def integerText : Int → String
  | .ofNat n => naturalText n
  | .negSucc n => "-" ++ naturalText (n + 1)

/-- The decimal text of an integer that is short enough to have one. -/
def integerText? (n : Int) : Option String :=
  if n.natAbs < Nat.pow 10 digitLimit then some (integerText n) else none

end ChestMenu.Number
