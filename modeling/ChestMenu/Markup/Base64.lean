/-!
# Bytes in base sixty-four

Four digits stand for three bytes, and a last group that is short is filled up with padding. Reading
passes over whatever is neither a digit nor padding in its place, and ends with the padding that
fills a group up.
-/
namespace ChestMenu.Markup.Base64

/-- The value of a digit of base sixty-four. -/
def sextet? (c : Char) : Option Nat :=
  if c.isUpper then some (c.toNat - 0x41)
  else if c.isLower then some (c.toNat - 0x61 + 26)
  else if c.isDigit then some (c.toNat - 0x30 + 52)
  else if c = '+' then some 62
  else if c = '/' then some 63
  else none

/-- The bytes that are full among the digits of a group. -/
def groupBytes : List Nat → List UInt8
  | a :: b :: rest =>
    (4 * a + b / 16).toUInt8 ::
      match rest with
      | c :: rest =>
        (16 * (b % 16) + c / 4).toUInt8 ::
          match rest with
          | d :: _ => [(64 * (c % 4) + d).toUInt8]
          | [] => []
      | [] => []
  | _ => []

/-- Reads on inside a group of which some digits are known, with `pads` characters of padding behind
the last of them. -/
def decodeFrom (group : List Nat) (pads : Nat) : List Char → Option (List UInt8)
  | [] => if group.isEmpty then some [] else none
  | c :: rest =>
    match sextet? c with
    | some d =>
      let group := group ++ [d]
      if group.length < 4 then decodeFrom group 0 rest
      else (decodeFrom [] 0 rest).map (groupBytes group ++ ·)
    | none =>
      if c = '=' && 2 ≤ group.length then
        if 4 ≤ group.length + pads + 1 then some (groupBytes group)
        else decodeFrom group (pads + 1) rest
      else decodeFrom group pads rest

/-- The bytes that a text stands for; nothing if its last group is not filled up. -/
def decode? (cs : List Char) : Option (List UInt8) :=
  decodeFrom [] 0 cs

end ChestMenu.Markup.Base64
