import ChestMenu.Text.Digit
import ChestMenu.Value.Basic

/-!
# Days and times in the forms of ISO 8601

A day is named by its month or by its week, with hyphens between the parts or without. The time of
the day follows behind any one character: hours, minutes and seconds, as far as they are written,
with colons between them or without, a fraction of a second, and the offset from universal time.

Only days and times that exist are read.
-/
namespace ChestMenu

open ChestMenu.Text

namespace Date

/-- The number of the Monday of the first week of a year, which is the week of its first Thursday. -/
def firstMonday (year : Nat) : Nat :=
  let first := (Date.mk year 1 1).number
  let behindMonday := (first + 6) % 7
  if behindMonday ≤ 3 then first - behindMonday else first + 7 - behindMonday

/-- The day with a number, if it is in the given year or in one of the years beside it. -/
def near? (year number : Nat) : Option Date :=
  [year - 1, year, year + 1].findSome? fun year =>
    (List.range 12).findSome? fun month =>
      let first := (Date.mk year (month + 1) 1).number
      if first ≤ number then ofParts? year (month + 1) (number - first + 1) else none

/-- The day of a week of a year. A year has as many weeks as there are from its first Monday to that of
the next year. -/
def ofWeek? (year week day : Nat) : Option Date :=
  let start := firstMonday year
  let weeks := (firstMonday (year + 1) - start) / 7
  if year = 0 || week = 0 || weeks < week || day = 0 || 7 < day then none
  else near? year (start + 7 * (week - 1) + (day - 1))

/-- Reads a day. If there is a hyphen behind the year, there is one between any two parts. -/
def ofIso? (cs : List Char) : Option Date := do
  let (year, rest) ← digits? 4 4 cs
  let spaced := rest.head? = some '-'
  let next (cs : List Char) : Option (List Char) := if spaced then after? '-' cs else some cs
  match ← next rest with
  | 'W' :: rest =>
    let (week, rest) ← digits? 2 2 rest
    if rest.isEmpty then ofWeek? year week 1
    else
      let (day, rest) ← digits? 1 1 (← next rest)
      if rest.isEmpty then ofWeek? year week day else none
  | rest =>
    let (month, rest) ← digits? 2 2 rest
    let (day, rest) ← digits? 2 2 (← next rest)
    if rest.isEmpty then ofParts? year month day else none

end Date

namespace Moment

/-- How many characters the day takes at the start of a text. Behind a week without a day of the week
the next digit belongs to the time, and times have an even number of digits. -/
def dayLength (cs : List Char) : Nat :=
  match cs[4]?, cs[5]? with
  | some '-', some 'W' => if cs[8]? = some '-' && !cs[10]?.any Char.isDigit then 10 else 8
  | some '-', _ => 10
  | some 'W', _ =>
    let digits := ((cs.drop 7).takeWhile Char.isDigit).length
    if digits = 0 || (digits % 2 = 1 && digits ≠ 1) then 7 else 8
  | _, _ => 8

/-- The digits of a fraction, which end a time. Six of them are kept; what follows those counts for
nothing if an offset stands behind the time. -/
private def fraction? (zoned : Bool) (cs : List Char) : Option (List Nat × List Char) :=
  if (if zoned then cs.take 6 else cs).all Char.isDigit then some ([], cs.take 6) else none

/-- Reads numbers of two digits, `most` of them at the most, and the digits of a fraction behind them.
One character may stand between them and an offset behind the time. -/
private def numbers? (spaced zoned : Bool) : Nat → List Char → Option (List Nat × List Char)
  | 0, cs => fraction? zoned cs
  | most + 1, cs => do
    let (number, rest) ← digits? 2 2 cs
    let (numbers, fraction) ←
      match rest with
      | [] => some ([], [])
      | [_] => if zoned then some ([], []) else none
      | mark :: behind =>
        if mark = '.' || mark = ',' then fraction? zoned behind
        else if !spaced then numbers? spaced zoned most rest
        else if mark = ':' then numbers? spaced zoned most behind
        else none
    return (number :: numbers, fraction)

/-- Reads hours, minutes and seconds, zero where they are not written, and millionths of a second. If
there is a colon behind the hours, there is one between any two parts. -/
private def clock? (zoned : Bool) (cs : List Char) : Option (Nat × Nat × Nat × Nat) := do
  let (numbers, fraction) ← numbers? ((cs.drop 2).head? = some ':') zoned 3 cs
  return (numbers.getD 0 0, numbers.getD 1 0, numbers.getD 2 0, millionths fraction)

/-- Reads the offset at the end of a time, in seconds: none, the letter for zero, or a sign with hours,
minutes and seconds. -/
private def offset? : List Char → Option (Option Int)
  | [] => some none
  | ['Z'] => some (some 0)
  | sign :: cs => do
    let (hours, minutes, seconds, millionths) ← clock? false cs
    let offset : Int := 3600 * hours + 60 * minutes + seconds
    if millionths = 0 then some (some (if sign = '-' then -offset else offset)) else none

/-- Reads a moment. A day alone stands for its start. -/
def ofIso? (cs : List Char) : Option Moment := do
  let place := dayLength cs
  let date ← Date.ofIso? (cs.take place)
  match cs.drop place with
  | [] => ofParts? date 0 0 0 0 none
  | _ :: time =>
    let (clock, zone) := time.span fun c => c ≠ '+' && c ≠ '-' && c ≠ 'Z'
    let (hour, minute, second, microsecond) ← clock? (!zone.isEmpty) clock
    ofParts? date hour minute second microsecond (← offset? zone)

end Moment

end ChestMenu
