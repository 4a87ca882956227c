import ChestMenu.Markup.Utf8

/-!
# Encodings

The encoding of a text that does not name it. A document begins with two characters of ASCII, so the
zeros among its first bytes tell how many bytes each character takes and in which order they stand. The
half of a surrogate pair is let pass in each encoding.
-/
namespace ChestMenu.Markup

open ChestMenu.Text

/-- How the characters of a text are written as bytes. -/
inductive Encoding where
  /-- One to four bytes for each character. -/
  | bytes
  /-- Units of two bytes, two units for a character that is out of their range. -/
  | pairs (lowFirst : Bool)
  /-- Units of four bytes. -/
  | quads (lowFirst : Bool)
deriving Repr, DecidableEq

namespace Encoding

/-- The encoding of a document, from its first bytes. -/
def detect : List UInt8 → Encoding
  | [0, _] => pairs false
  | [_, 0] => pairs true
  | 0 :: b :: _ :: _ :: _ => if b = 0 then quads false else pairs false
  | _ :: 0 :: c :: d :: _ => if c = 0 && d = 0 then quads true else pairs true
  | _ => bytes

/-- The numbers that units of so many bytes hold; nothing if the last unit is not whole. The first
argument bounds the number of units. -/
def unitsOf? (size : Nat) (lowFirst : Bool) : Nat → List UInt8 → Option (List Nat)
  | _, [] => some []
  | 0, _ => none
  | fuel + 1, bs =>
    let unit := if lowFirst then (bs.take size).reverse else bs.take size
    if unit.length < size then none
    else
      let number := unit.foldl (fun n b => 256 * n + b.toNat) 0
      (unitsOf? size lowFirst fuel (bs.drop size)).map (number :: ·)

/-- The characters of units of two bytes, two halves of a pair making one. -/
def joinPairs : List Nat → List Char
  | high :: low :: rest =>
    if 0xD800 ≤ high && high < 0xDC00 && 0xDC00 ≤ low && low < 0xE000 then
      Char.ofNat (pairCode high low) :: joinPairs rest
    else ofCode high ++ joinPairs (low :: rest)
  | [unit] => ofCode unit
  | [] => []

/-- Decodes a text; nothing if the bytes are none of the encoding. -/
def decode? (encoding : Encoding) (bs : List UInt8) : Option (List Char) :=
  match encoding with
  | bytes => decodeWith? true bs
  | pairs lowFirst => (unitsOf? 2 lowFirst bs.length bs).map joinPairs
  | quads lowFirst => do
    let units ← unitsOf? 4 lowFirst bs.length bs
    if units.all (· < 0x110000) then some (units.flatMap ofCode) else none

end Encoding

end ChestMenu.Markup
