import ChestMenu.Machine
import ChestMenu.Markup.Fault
import ChestMenu.Number.Integer
import ChestMenu.Text.Half

/-!
# JSON documents

Objects keep the order of their members, and a member that is named twice keeps its
first place and its last value. A number with a fraction or an exponent is real, any other is an
integer. Beyond the standard, the words `NaN`, `Infinity` and `-Infinity` are real numbers.

Arrays and objects may be nested as deep as the machine has room for and no deeper.
-/
namespace ChestMenu.Markup.Json

open ChestMenu.Number ChestMenu.Text

/-- The text without the white space at its start. -/
def skipSpace (cs : List Char) : List Char :=
  cs.dropWhile fun c => c = ' ' || c = '\t' || c = '\n' || c = '\r'

/-- The text behind a word, if it starts with the word. -/
private def afterWord? (word : String) (cs : List Char) : Option (List Char) :=
  if word.toList.isPrefixOf cs then some (cs.drop word.length) else none

/-- The value of a hexadecimal digit. -/
def hexValue? (c : Char) : Option Nat :=
  if c.isDigit then some (c.toNat - 0x30)
  else if 'a' ≤ c && c ≤ 'f' then some (c.toNat - 0x57)
  else if 'A' ≤ c && c ≤ 'F' then some (c.toNat - 0x37)
  else none

/-- The number that four hexadecimal digits stand for, and the text behind them. -/
private def unit? : List Char → Option (Nat × List Char)
  | a :: b :: c :: d :: rest => do
    let high := (← hexValue? a) * 16 + (← hexValue? b)
    some ((high * 16 + (← hexValue? c)) * 16 + (← hexValue? d), rest)
  | _ => none

/-- What an escape by number stands for, and the text behind it. Two escapes for the halves of a surrogate
pair make one character, and any other half is left a half. -/
private def numbered? (cs : List Char) : Option (List Char × List Char) := do
  let (code, rest) ← unit? cs
  if 0xD800 ≤ code && code < 0xDC00 then
    match rest with
    | '\\' :: 'u' :: more =>
      let (low, rest') ← unit? more
      if 0xDC00 ≤ low && low < 0xE000 then
        some ([Char.ofNat (pairCode code low)], rest')
      else some (ofCode code, rest)
    | _ => some (ofCode code, rest)
  else some (ofCode code, rest)

/-- The character that an escape by letter stands for. -/
def escaped? : Char → Option Char
  | '"' => some '"'
  | '\\' => some '\\'
  | '/' => some '/'
  | 'b' => some '\x08'
  | 'f' => some '\x0c'
  | 'n' => some '\n'
  | 'r' => some '\r'
  | 't' => some '\t'
  | _ => none

/-- Reads the characters of a text up to its closing quote. Controls may not stand in it. The first
argument bounds the number of characters. -/
def readText? : Nat → List Char → Option (List Char × List Char)
  | 0, _ => none
  | _, [] => none
  | fuel + 1, c :: cs =>
    if c = '"' then some ([], cs)
    else if c = '\\' then
      match cs with
      | 'u' :: rest => do
        let (first, rest) ← numbered? rest
        let (ds, rest) ← readText? fuel rest
        some (first ++ ds, rest)
      | e :: rest => do
        let d ← escaped? e
        let (ds, rest) ← readText? fuel rest
        some (d :: ds, rest)
      | [] => none
    else if c.toNat < 0x20 then none
    else do
      let (ds, rest) ← readText? fuel cs
      some (c :: ds, rest)

/-- Splits off the digits that a text starts with. -/
private def digitRun (cs : List Char) : List Char × List Char :=
  (cs.takeWhile Char.isDigit, cs.dropWhile Char.isDigit)

/-- The fraction that a text starts with: a point and at least one digit. -/
private def fractionRun (cs : List Char) : List Char × List Char :=
  match cs with
  | '.' :: rest =>
    match digitRun rest with
    | ([], _) => ([], cs)
    | (ds, rest) => ('.' :: ds, rest)
  | _ => ([], cs)

/-- The exponent that a text starts with: a letter, perhaps a sign, and at least one digit. -/
private def exponentRun (cs : List Char) : List Char × List Char :=
  match cs with
  | e :: rest =>
    if e = 'e' || e = 'E' then
      let (sign, rest) :=
        match rest with
        | '+' :: rest => (['+'], rest)
        | '-' :: rest => (['-'], rest)
        | rest => ([], rest)
      match digitRun rest with
      | ([], _) => ([], cs)
      | (ds, rest) => (e :: sign ++ ds, rest)
    else ([], cs)
  | [] => ([], cs)

/-- Reads a number: no leading zeros, and no more digits than an integer may have. -/
def readNumber? (cs : List Char) : Option (Value × List Char) := do
  let (sign, rest) :=
    match cs with
    | '-' :: rest => (['-'], rest)
    | rest => ([], rest)
  let (whole, rest) ←
    match rest with
    | '0' :: rest => some (['0'], rest)
    | rest =>
      match digitRun rest with
      | ([], _) => none
      | run => some run
  let (fraction, rest) := fractionRun rest
  let (exponent, rest) := exponentRun rest
  if fraction.isEmpty && exponent.isEmpty then
    some (.int (← readInteger? (sign ++ whole)), rest)
  else some (.real (← readReal? (sign ++ whole ++ fraction ++ exponent)), rest)

/-- What may be there, or else a text that is no document. -/
private def orMalformed {α : Type} (found : Option α) : Except Fault α :=
  match found with
  | some a => .ok a
  | none => .error .malformed

theorem orMalformed_eq_ok_iff {α : Type} {found : Option α} {a : α} : orMalformed found = .ok a ↔ found = some a := by
  cases found <;> simp [orMalformed]

/-- Reads a value that is no array and no object. -/
def readScalar? (cs : List Char) : Option (Value × List Char) :=
  match cs with
  | '"' :: rest => do
    let (text, rest) ← readText? (rest.length + 1) rest
    some (.text (String.ofList text), rest)
  | _ =>
    ((afterWord? "null" cs).map ((.null, ·))).or <|
    ((afterWord? "true" cs).map ((.bool true, ·))).or <|
    ((afterWord? "false" cs).map ((.bool false, ·))).or <|
    ((afterWord? "NaN" cs).map ((.real (0.0 / 0.0), ·))).or <|
    ((afterWord? "Infinity" cs).map ((.real (1.0 / 0.0), ·))).or <|
    ((afterWord? "-Infinity" cs).map ((.real (-1.0 / 0.0), ·))).or <|
    readNumber? cs

/-- The levels that are left inside an array or an object. -/
private def deeper : Nat → Except Fault Nat
  | 0 => .error (.failed .tooDeep)
  | room + 1 => .ok room

mutual

/-- Reads a value at the start of a text. The first argument bounds the steps of the reading, the
second the levels that are left. -/
def readValue : Nat → Nat → List Char → Except Fault (Value × List Char)
  | 0, _, _ => .error .malformed
  | fuel + 1, room, cs =>
    match cs with
    | '[' :: rest => do
      let room ← deeper room
      match skipSpace rest with
      | ']' :: rest => return (.list [], rest)
      | rest =>
        let (xs, rest) ← readMembers fuel room rest
        return (.list xs, rest)
    | '\x7b' :: rest => do
      let room ← deeper room
      match skipSpace rest with
      | '\x7d' :: rest => return (.map [], rest)
      | rest =>
        let (pairs, rest) ← readPairs fuel room rest
        return (.map (Value.ofPairs pairs), rest)
    | _ => orMalformed (readScalar? cs)

/-- Reads the members of an array up to its closing bracket. -/
def readMembers : Nat → Nat → List Char → Except Fault (List Value × List Char)
  | 0, _, _ => .error .malformed
  | fuel + 1, room, cs => do
    let (x, rest) ← readValue fuel room cs
    match skipSpace rest with
    | ',' :: rest =>
      let (xs, rest) ← readMembers fuel room (skipSpace rest)
      return (x :: xs, rest)
    | ']' :: rest => return ([x], rest)
    | _ => throw .malformed

/-- Reads the members of an object up to its closing brace. -/
def readPairs : Nat → Nat → List Char →
    Except Fault (List (Value × Value) × List Char)
  | 0, _, _ => .error .malformed
  | fuel + 1, room, cs =>
    match cs with
    | '"' :: rest => do
      let (name, rest) ← orMalformed (readText? (rest.length + 1) rest)
      let key := Value.text (String.ofList name)
      match skipSpace rest with
      | ':' :: rest =>
        let (value, rest) ← readValue fuel room (skipSpace rest)
        match skipSpace rest with
        | ',' :: rest =>
          let (pairs, rest) ← readPairs fuel room (skipSpace rest)
          return ((key, value) :: pairs, rest)
        | '\x7d' :: rest => return ([(key, value)], rest)
        | _ => throw .malformed
      | _ => throw .malformed
    | _ => .error .malformed

end

/-- Reads a whole document, which is one value and nothing else. -/
def read [Machine] (cs : List Char) : Except Fault Value := do
  let (value, rest) ← readValue (cs.length + 1) Machine.jsonNesting (skipSpace cs)
  if (skipSpace rest).isEmpty then return value else throw .malformed

end ChestMenu.Markup.Json
