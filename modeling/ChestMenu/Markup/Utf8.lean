import ChestMenu.Text.Half

/-!
# Text from bytes

The bytes of a file are UTF-8: each character takes one to four bytes, the shortest form is the only
one, and the halves of surrogate pairs are no characters, though they can be let pass. Line ends of all
three kinds become one line feed.
-/
namespace ChestMenu.Markup

open ChestMenu.Text

/-- The six bits that a continuation byte carries. -/
private def continuation? (b : UInt8) : Option Nat :=
  if 0x80 ≤ b && b < 0xC0 then some (b.toNat - 0x80) else none

/-- The character with a code point of at least `least`, the first that needs this many bytes. -/
private def character? (halves : Bool) (least code : Nat) : Option (List Char) :=
  if least ≤ code && (code.isValidChar || (halves && isHalf code)) then some (ofCode code) else none

/-- Decodes bytes; nothing if they are not well formed. It is up to the caller whether halves are. -/
def decodeWith? (halves : Bool) : List UInt8 → Option (List Char)
  | [] => some []
  | a :: rest =>
    if a < 0x80 then (decodeWith? halves rest).map (Char.ofNat a.toNat :: ·)
    else if a < 0xC0 then none
    else if a < 0xE0 then
      match rest with
      | b :: rest => do
        let c ← character? halves 0x80 ((a.toNat - 0xC0) * 0x40 + (← continuation? b))
        (decodeWith? halves rest).map (c ++ ·)
      | _ => none
    else if a < 0xF0 then
      match rest with
      | b :: b' :: rest => do
        let c ← character? halves 0x800
          (((a.toNat - 0xE0) * 0x40 + (← continuation? b)) * 0x40 + (← continuation? b'))
        (decodeWith? halves rest).map (c ++ ·)
      | _ => none
    else if a < 0xF8 then
      match rest with
      | b :: b' :: b'' :: rest => do
        let high := ((a.toNat - 0xF0) * 0x40 + (← continuation? b)) * 0x40 + (← continuation? b')
        let c ← character? halves 0x10000 (high * 0x40 + (← continuation? b''))
        (decodeWith? halves rest).map (c ++ ·)
      | _ => none
    else none

/-- Decodes bytes among which no half may be. -/
def decode? (bytes : List UInt8) : Option (List Char) :=
  decodeWith? false bytes

/-- How many continuation bytes a first byte announces, and the bounds of the first of them. -/
private def announced? (a : UInt8) : Option (Nat × UInt8 × UInt8) :=
  if a < 0xC2 then none
  else if a < 0xE0 then some (1, 0x80, 0xBF)
  else if a < 0xF0 then some (2, if a = 0xE0 then 0xA0 else 0x80, if a = 0xED then 0x9F else 0xBF)
  else if a < 0xF5 then some (3, if a = 0xF0 then 0x90 else 0x80, if a = 0xF4 then 0x8F else 0xBF)
  else none

/-- How many of the announced continuation bytes are there. -/
private def presentCount (low high : UInt8) : Nat → List UInt8 → Nat
  | count + 1, b :: rest =>
    if low ≤ b && b ≤ high then presentCount 0x80 0xBF count rest + 1 else 0
  | _, _ => 0

/-- Decodes any bytes. What may start a character and does not go on as one, and each other byte that
is none, becomes one replacement character. -/
def decodeLossy : List UInt8 → List Char
  | [] => []
  | a :: rest =>
    if a < 0x80 then Char.ofNat a.toNat :: decodeLossy rest
    else
      match announced? a with
      | none => '\uFFFD' :: decodeLossy rest
      | some (count, low, high) =>
        let present := presentCount low high count rest
        let character :=
          if present = count then (decode? (a :: rest.take count)).bind (·.head?) else none
        character.getD '\uFFFD' :: decodeLossy (rest.drop present)
termination_by bytes => bytes.length

/-- The same text with a line feed for each line end. -/
def joinLineEnds : List Char → List Char
  | [] => []
  | '\r' :: '\n' :: rest => '\n' :: joinLineEnds rest
  | c :: rest => (if c = '\r' then '\n' else c) :: joinLineEnds rest

end ChestMenu.Markup
