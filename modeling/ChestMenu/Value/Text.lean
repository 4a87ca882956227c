import ChestMenu.Machine
import ChestMenu.Text.Quoted

/-!
# The text of a dynamic value

A value that stands alone is written plainly; inside a list or a mapping it is written so that its
kind shows, texts between quotes. A list or a mapping that is inside itself is written as dots
there. Beside these stands the text that a value gives a placeholder: collections and bytes give
none, and dates are written in one fixed form.

A value has no text if it holds an integer that is too long, an object that fails to give its own,
or lists and mappings nested deeper than the machine has room for.
-/
namespace ChestMenu

open ChestMenu.Number ChestMenu.Text

/-- A number with leading zeros up to `width` digits. -/
def padded (width n : Nat) : String :=
  let ds := Nat.toDigits 10 n
  String.ofList (List.replicate (width - ds.length) '0' ++ ds)

/-- Year, month and day between hyphens. -/
def Date.text (d : Date) : String :=
  padded 4 d.year ++ "-" ++ padded 2 d.month ++ "-" ++ padded 2 d.day

/-- An offset from universal time, in hours, minutes and, if need be, seconds. -/
def offsetText (seconds : Int) : String :=
  let n := seconds.natAbs
  (if seconds < 0 then "-" else "+") ++ padded 2 (n / 3600) ++ ":" ++ padded 2 (n / 60 % 60) ++
    (if n % 60 = 0 then "" else ":" ++ padded 2 (n % 60))

/-- Date and time, with as many parts of the second and of the offset as there are. -/
def Moment.text (m : Moment) : String :=
  m.date.text ++ " " ++ padded 2 m.hour ++ ":" ++ padded 2 m.minute ++ ":" ++ padded 2 m.second ++
    (if m.microsecond = 0 then "" else "." ++ padded 6 m.microsecond) ++
    (m.offset.map offsetText).getD ""

/-- The form in which dates stand in placeholders; the year has no leading zeros. -/
def calendarText (d : Date) (hour minute second : Nat) : String :=
  naturalText d.year ++ "-" ++ padded 2 d.month ++ "-" ++ padded 2 d.day ++ " " ++ padded 2 hour ++
    ":" ++ padded 2 minute ++ ":" ++ padded 2 second

/-- The groups of eight, four, four, four and twelve digits of an identifier. -/
def uuidText (number : Nat) : String :=
  let hex := hexDigits 32 number
  "-".intercalate ([(0, 8), (8, 4), (12, 4), (16, 4), (20, 12)].map fun (start, size) =>
    String.ofList ((hex.drop start).take size))

private def timeParts (m : Moment) : List Nat :=
  let parts := [m.date.year, m.date.month, m.date.day, m.hour, m.minute]
  if m.microsecond ≠ 0 then parts ++ [m.second, m.microsecond]
  else if m.second ≠ 0 then parts ++ [m.second]
  else parts

private def zoneText : Int → String
  | 0 => "datetime.timezone.utc"
  | seconds =>
    let days := seconds.fdiv 86400
    let rest := seconds.fmod 86400
    "datetime.timezone(datetime.timedelta(" ++
      (if days = 0 then "" else "days=" ++ integerText days ++ ", ") ++
      "seconds=" ++ integerText rest ++ "))"

/-- The text of an integer, if it is short enough to have one. -/
def integerShown (n : Int) : Except Failure String :=
  match integerText? n with
  | some text => .ok text
  | none => .error .numeralTooLong

namespace Value

/-- The members of a list or a mapping between its brackets, with commas. -/
private def enclosed (opening closing : String) (members : List String) : String :=
  opening ++ ", ".intercalate members ++ closing

mutual

/-- The text of a value inside a list or a mapping, of which so many more may stand inside one another.
A place in a table is written by `link`. -/
def innerWith (link : Nat → Nat → List Value → Except Failure String) :
    Nat → Value → Except Failure String
  | _, null => .ok "None"
  | _, bool b => .ok (if b then "True" else "False")
  | _, int n => integerShown n
  | _, real x => .ok (realText x)
  | _, decimal d => .ok ("Decimal('" ++ d.text ++ "')")
  | _, text s => .ok (quoted s)
  | _, uuid n => .ok ("UUID('" ++ uuidText n ++ "')")
  | _, date d => .ok (enclosed "datetime.date(" ")" ([d.year, d.month, d.day].map naturalText))
  | _, moment m =>
    let zone := (m.offset.map fun seconds => ["tzinfo=" ++ zoneText seconds]).getD []
    .ok (enclosed "datetime.datetime(" ")" ((timeParts m).map naturalText ++ zone))
  | levels, member name value => do
    return "<Enum." ++ name ++ ": " ++ (← innerWith link levels value) ++ ">"
  | _, bytes b => .ok (quotedBytes b)
  | levels, list xs => do return enclosed "[" "]" (← innerAll link levels xs)
  | levels, tuple xs => do
    match ← innerAll link levels xs with
    | [only] => return "(" ++ only ++ ",)"
    | texts => return enclosed "(" ")" texts
  | _, set [] => .ok "set()"
  | levels, set xs => do return enclosed "\x7b" "\x7d" (← innerAll link levels xs)
  | levels, map pairs => do return enclosed "\x7b" "\x7d" (← innerPairs link levels pairs)
  | _, foreign shown => .ok shown
  | _, record _ _ _ manner => manner.inner
  | levels, loop place nodes => link levels place nodes

/-- The texts of the members of a list. -/
def innerAll (link : Nat → Nat → List Value → Except Failure String) :
    Nat → List Value → Except Failure (List String)
  | _, [] => .ok []
  | 0, _ :: _ => .error .tooDeep
  | levels + 1, x :: xs => do
    let first ← innerWith link levels x
    return first :: (← innerAll link (levels + 1) xs)

/-- The texts of the pairs of a mapping. -/
def innerPairs (link : Nat → Nat → List Value → Except Failure String) :
    Nat → List (Value × Value) → Except Failure (List String)
  | _, [] => .ok []
  | 0, _ :: _ => .error .tooDeep
  | levels + 1, (k, v) :: rest => do
    let key ← innerWith link levels k
    let value ← innerWith link levels v
    return (key ++ ": " ++ value) :: (← innerPairs link (levels + 1) rest)

end

/-- The text of a place in a table, given the places that it is written inside of: dots stand for a
place that is among them. The first argument bounds the number of places, the last but one the lists
and mappings that may still stand inside one another. -/
def placeText (table : List Value) : Nat → List Nat → Nat → Nat → Except Failure String
  | 0, _, _, _ => .error .tooDeep
  | fuel + 1, within, levels, place =>
    let content := table.getD place null
    if within.contains place then
      match content with
      | list _ => .ok "[...]"
      | _ => .ok "\x7b...\x7d"
    else
      innerWith (fun levels next _ => placeText table fuel (place :: within) levels next) levels content

variable [Machine]

/-- The text of a value inside a list or a mapping. -/
def inner (v : Value) : Except Failure String :=
  innerWith (fun levels place table => placeText table (table.length + 1) [] levels place)
    Machine.textNesting v

/-- The text of a value that stands alone. -/
def shown : Value → Except Failure String
  | text s => .ok s
  | decimal d => .ok d.text
  | uuid n => .ok (uuidText n)
  | date d => .ok d.text
  | moment m => .ok m.text
  | member name _ => .ok ("Enum." ++ name)
  | record _ _ _ manner => manner.shown
  | v => v.inner

/-- The text of a value that stands alone, empty where there is none. -/
def label (v : Value) : String :=
  v.shown.toOption.getD ""

/-- The text that a value gives a placeholder; nothing for null, bytes and collections. -/
def placeholderText? : Value → Except Failure (Option String)
  | null => .ok none
  | bool b => .ok (some (if b then "true" else "false"))
  | member name _ => .ok (some name)
  | date d => .ok (some (calendarText d 0 0 0))
  | moment m => .ok (some (calendarText m.date m.hour m.minute m.second))
  | bytes _ | list _ | tuple _ | set _ | map _ | loop .. => .ok none
  | record _ (text s) _ _ => .ok (some s)
  | record _ null _ manner => if manner.isCollection then .ok none else manner.shown.map some
  | record _ (list _) _ _ | record _ (tuple _) _ _ | record _ (map _) _ _ => .ok none
  | v => v.shown.map some

end Value

end ChestMenu
