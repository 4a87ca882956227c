import ChestMenu.Markup.Base64
import ChestMenu.Markup.Fault
import ChestMenu.Markup.Yaml.Tag
import ChestMenu.Text.Quoted
import ChestMenu.Text.Search
import ChestMenu.Value.Basic

/-!
# The values of scalars

A scalar may claim a type that its text does not have the form of; then it is read as far as the
rules of the type allow, and some texts break the reading off.
-/
namespace ChestMenu.Markup.Yaml

open ChestMenu.Number ChestMenu.Text

/-- What was read, which has to be there. -/
private def found {α : Type} (x : Option α) : Except Fault α :=
  match x with
  | some x => .ok x
  | none => .error .malformed

theorem found_eq_ok_iff {α : Type} {x : Option α} {a : α} : found x = .ok a ↔ x = some a := by
  cases x <;> simp [found]

/-- What a scalar says about truth. -/
def readBool (text : String) : Except Fault Value :=
  let word := lower text
  if ["yes", "true", "on"].contains word then .ok (.bool true)
  else if ["no", "false", "off"].contains word then .ok (.bool false)
  else .error (.failed (.notATruthWord (quoted word)))

/-- Splits off a sign; a text that is empty breaks the reading off. -/
private def signed (cs : List Char) : Except Fault (Bool × List Char) :=
  match cs with
  | [] => .error (.failed .emptyNumeral)
  | '-' :: rest => .ok (true, rest)
  | '+' :: rest => .ok (false, rest)
  | _ => .ok (false, cs)

/-- Reads an integer: binary, octal, decimal or hexadecimal, or in groups of base sixty. -/
def readInt (text : String) : Except Fault Value := do
  let (negative, cs) ← signed (text.toList.filter (· ≠ '_'))
  let n : Int ←
    match cs with
    | [] => throw (.failed .emptyNumeral)
    | '0' :: 'b' :: digits => found (readBased? 2 digits)
    | '0' :: 'x' :: digits => found (readBased? 16 digits)
    | '0' :: _ => found (readBased? 8 cs)
    | _ =>
      let groups ← (splitOnChar ':' cs).mapM fun group => found (readInteger? group)
      pure (groups.foldl (fun n group => 60 * n + group) 0)
  return .int (if negative then -n else n)

/-- Adds up groups of base sixty, of which the last one comes first here. The greatest weight of a
group has to be a floating-point number. -/
private def sumSixties (groups : List Float) : Except Fault Float := do
  let (x, _) ← groups.foldlM (fun (x, weight) group =>
    match ofInteger? weight with
    | some w => .ok (x + group * w, 60 * weight)
    | none => .error (.failed .numberTooLarge)) ((0.0 : Float), (1 : Int))
  return x

/-- Reads a real number; in groups of base sixty, the last ones count first. -/
def readFloat (text : String) : Except Fault Value := do
  let (negative, cs) ← signed (lowerChars (text.toList.filter (· ≠ '_')))
  let sign : Float := if negative then -1.0 else 1.0
  if cs = ".inf".toList then return .real (sign * (1.0 / 0.0))
  else if cs = ".nan".toList then return .real (0.0 / 0.0)
  else if cs.contains ':' then
    let groups ← (splitOnChar ':' cs).mapM fun group => found (readReal? group)
    return .real (sign * (← sumSixties groups.reverse))
  else return .real (sign * (← found (readReal? cs)))

/-- Reads a day or a time; it has to exist. -/
def readTimestamp (text : String) : Except Fault Value :=
  match Tag.timeForm? (Tag.withoutLineFeed text.toList) with
  | none => .error (.failed .notATime)
  | some form =>
    match Date.ofParts? form.year form.month form.day, form.clock with
    | none, _ => .error .malformed
    | some date, none => .ok (.date date)
    | some date, some (hour, minute, second) =>
      let offset : Option Int := form.offset.map fun (negative, hours, minutes) =>
        let seconds : Int := 60 * (60 * hours + minutes)
        if negative then -seconds else seconds
      found ((Moment.ofParts? date hour minute second (millionths form.fraction) offset).map .moment)

/-- Reads bytes that are written in base sixty-four. -/
def readBinary (text : String) : Except Fault Value :=
  if text.toList.any (0x80 ≤ ·.toNat) then .error .malformed
  else found ((Base64.decode? text.toList).map .bytes)

/-- The value of a scalar with a tag. -/
def readScalar (tag : Tag) (text : String) : Except Fault Value :=
  match tag with
  | .null => .ok .null
  | .bool => readBool text
  | .int => readInt text
  | .float => readFloat text
  | .timestamp => readTimestamp text
  | .binary => readBinary text
  | .str => .ok (.text text)
  | _ => .error .malformed

end ChestMenu.Markup.Yaml
