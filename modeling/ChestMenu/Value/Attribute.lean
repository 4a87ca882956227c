import ChestMenu.Text.Search
import ChestMenu.Value.Text

/-!
# Attributes of built-in values

There are the parts of a day and of a moment, the real and the imaginary part of a number, the name
and the value of an enumerated member, and the parts of an identifier of 128 bits, which are groups
of its bits and the forms in which it is written.
-/
namespace ChestMenu

open ChestMenu.Number ChestMenu.Text

namespace Uuid

/-- The group of `width` bits of a number above the lowest `low` ones. -/
def group (number low width : Nat) : Nat :=
  number / Nat.pow 2 low % Nat.pow 2 width

/-- The sixteen bytes of an identifier, the highest first. -/
def bytes (number : Nat) : List UInt8 :=
  (List.range 16).map fun place => UInt8.ofNat (group number (8 * (15 - place)) 8)

/-- The bytes of an identifier, those of its first three groups lowest first. -/
def bytesLowFirst (number : Nat) : List UInt8 :=
  let all := bytes number
  let part (start size : Nat) : List UInt8 := ((all.drop start).take size).reverse
  part 0 4 ++ part 4 2 ++ part 6 2 ++ all.drop 8

/-- The six groups of an identifier: the low, the middle and the high part of its time with the
version, the high and the low part of its clock sequence, and its node. -/
def fields (number : Nat) : List Nat :=
  [(96, 32), (80, 16), (64, 16), (56, 8), (48, 8), (0, 48)].map fun (low, width) =>
    group number low width

/-- The layout that the highest bits of the clock sequence announce. -/
def variant (number : Nat) : String :=
  if group number 63 1 = 0 then "reserved for NCS compatibility"
  else if group number 62 1 = 0 then "specified in RFC 4122"
  else if group number 61 1 = 0 then "reserved for Microsoft compatibility"
  else "reserved for future definition"

/-- The attributes of an identifier, by their names. -/
def attributes (number : Nat) : List (String × Value) :=
  let part (low width : Nat) : Value := .int (group number low width)
  let isStandard := group number 62 2 = 2
  [("bytes", .bytes (bytes number)),
    ("bytes_le", .bytes (bytesLowFirst number)),
    ("clock_seq", part 48 14),
    ("clock_seq_hi_variant", part 56 8),
    ("clock_seq_low", part 48 8),
    ("fields", .tuple ((fields number).map fun (n : Nat) => .int n)),
    ("hex", .text (String.ofList (hexDigits 32 number))),
    ("int", .int number),
    ("is_safe", .member "unknown" .null),
    ("node", part 0 48),
    ("time", .int (group number 64 12 * Nat.pow 2 48 + group number 80 16 * Nat.pow 2 32 +
      group number 96 32 : Nat)),
    ("time_hi_version", part 64 16),
    ("time_low", part 96 32),
    ("time_mid", part 80 16),
    ("urn", .text ("urn:uuid:" ++ uuidText number)),
    ("variant", .text (variant number)),
    ("version", if isStandard then part 76 4 else .null)]

/-- Reads an identifier: thirty-two hexadecimal digits, with hyphens anywhere among them, perhaps in
braces or behind the words that announce one. A numeral of that size in any other form is read too. -/
def read? (cs : List Char) : Option Nat :=
  let bare := replaceChars "uuid:".toList [] (replaceChars "urn:".toList [] cs)
  let unbraced := trimChars (fun c => c = '\x7b' || c = '\x7d') bare
  let digits := unbraced.filter (· ≠ '-')
  if digits.length = 32 then (readBased? 16 digits).bind (·.toNat?) else none

end Uuid

namespace Value

/-- The attributes of a day. -/
private def ofDate (d : Date) : List (String × Value) :=
  [("year", .int d.year), ("month", .int d.month), ("day", .int d.day)]

/-- The attributes of an integer. -/
private def ofWhole (n : Int) : List (String × Value) :=
  [("real", .int n), ("imag", .int 0), ("numerator", .int n), ("denominator", .int 1)]

/-- The attributes of a value that is no object of a declared class, by their names. -/
def builtinAttributes : Value → List (String × Value)
  | bool b => ofWhole (if b then 1 else 0)
  | int n => ofWhole n
  | real x => [("real", .real x), ("imag", .real 0.0)]
  | decimal d => [("real", .decimal d), ("imag", .decimal (.finite false 0 0))]
  | uuid n => Uuid.attributes n
  | date d => ofDate d
  | moment m =>
    ofDate m.date ++ [("hour", .int m.hour), ("minute", .int m.minute), ("second", .int m.second),
      ("microsecond", .int m.microsecond), ("fold", .int 0),
      ("tzinfo", (m.offset.map fun seconds =>
        .foreign (if seconds = 0 then "UTC" else "UTC" ++ offsetText seconds)).getD .null)]
  | member name value => [("name", .text name), ("value", value)]
  | _ => []

end Value

end ChestMenu
