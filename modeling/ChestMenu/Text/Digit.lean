import ChestMenu.Text.CharacterTable
import ChestMenu.Text.Case

/-!
# Digits

A decimal digit of any script has a value from zero to nine. A character may be a digit in a wider
sense, as a superscript or a circled number is, and then it has no place in a numeral. Numbers of a
fixed width, as they stand in dates, have digits of the plainest kind only.
-/
namespace ChestMenu.Text

/-- The value of a decimal digit of any script. -/
def digitValue? (c : Char) : Option Nat :=
  let code := c.toNat
  if 0x30 ≤ code && code ≤ 0x39 then some (code - 0x30)
  else if code < 0x80 then none
  else (decimalZeros.find? fun start => start ≤ code && code < start + 10).map (code - ·)

/-- Whether a character is a digit in the wide sense. -/
def isDigit (c : Char) : Bool :=
  inBounds digitBounds c.toNat

/-- Cuts a number of `least` to `most` plain digits off a text. -/
def digits? (least most : Nat) (cs : List Char) : Option (Nat × List Char) :=
  let ds := (cs.take most).takeWhile Char.isDigit
  if ds.length < least then none
  else some (ds.foldl (fun n d => 10 * n + (d.toNat - 0x30)) 0, cs.drop ds.length)

/-- How many millionths the plain digits of a fraction stand for; digits behind the sixth are left out. -/
def millionths (digits : List Char) : Nat :=
  (digits.take 6 ++ List.replicate (6 - digits.length) '0').foldl
    (fun n d => 10 * n + (d.toNat - 0x30)) 0

/-- The text behind a given character. -/
def after? (c : Char) : List Char → Option (List Char)
  | d :: rest => if d = c then some rest else none
  | [] => none

end ChestMenu.Text
