import ChestMenu.Number.Integer

/-!
# Tags

A tag is the kind of value that a node says it has. A plain scalar says so by its form alone, by the
rules of the core types: words for truth and for nothing, integers in four bases and in base sixty,
real numbers with a point, and times.
-/
namespace ChestMenu.Markup.Yaml

open ChestMenu.Text

/-- The tags that have a meaning; every other one is unknown. -/
inductive Tag where
  | null
  | bool
  | int
  | float
  | timestamp
  | binary
  | str
  | seq
  | map
  | set
  | omap
  | pairs
  | merge
  | defaultValue
  | unknown
deriving Repr, DecidableEq

namespace Tag

/-- The start of the names of the core tags. -/
def coreStart : String := "tag:yaml.org,2002:"

/-- The tag of a full name. -/
def ofName (name : String) : Tag :=
  let known : List (String × Tag) :=
    [("null", null), ("bool", bool), ("int", int), ("float", float), ("timestamp", timestamp),
      ("binary", binary), ("str", str), ("seq", seq), ("map", map), ("set", set), ("omap", omap),
      ("pairs", pairs), ("merge", merge), ("value", defaultValue)]
  ((known.find? fun (short, _) => coreStart ++ short = name).map (·.2)).getD unknown

-- A form is recognised by cutting the text down part by part; what remains at the end must be empty.

/-- The text behind a sign, if it has one. -/
private def unsigned : List Char → List Char
  | '+' :: rest => rest
  | '-' :: rest => rest
  | cs => cs

/-- A digit or an underscore. -/
private def isSpacedDigit (c : Char) : Bool := c.isDigit || c = '_'

/-- The text behind a digit and the digits and underscores that follow it. -/
private def dropDigits? : List Char → Option (List Char)
  | c :: rest => if c.isDigit then some (rest.dropWhile isSpacedDigit) else none
  | [] => none

/-- The text behind one or more groups of a colon and a number below sixty. -/
private def dropSixties? : Nat → List Char → Option (List Char)
  | 0, _ => none
  | fuel + 1, ':' :: a :: rest =>
    if !a.isDigit then none
    else
      let behind : List Char :=
        match rest with
        | b :: more => if a ≤ '5' && b.isDigit then more else rest
        | [] => []
      some ((dropSixties? fuel behind).getD behind)
  | _, _ => none

/-- Whether a text is an exponent with a sign, or empty. -/
private def isExponent : List Char → Bool
  | [] => true
  | e :: sign :: d :: rest =>
    (e = 'e' || e = 'E') && (sign = '+' || sign = '-') && (d :: rest).all Char.isDigit
  | _ => false

/-- Whether a text is a real number: it needs a point, and an exponent needs a sign. -/
def isRealForm (cs : List Char) : Bool :=
  let decimal :=
    match dropDigits? (unsigned cs) with
    | some ('.' :: rest) => isExponent (rest.dropWhile isSpacedDigit)
    | _ => false
  let fraction :=
    match cs with
    | '.' :: rest => (dropDigits? rest).any isExponent
    | _ => false
  let sixties :=
    match (dropDigits? (unsigned cs)).bind fun rest => dropSixties? (rest.length + 1) rest with
    | some ('.' :: rest) => rest.all isSpacedDigit
    | _ => false
  decimal || fraction || sixties ||
    [".inf", ".Inf", ".INF"].contains (String.ofList (unsigned cs)) ||
    [".nan", ".NaN", ".NAN"].contains (String.ofList cs)

/-- Whether a text is an integer. -/
def isIntegerForm (cs : List Char) : Bool :=
  match unsigned cs with
  | ['0'] => true
  | '0' :: 'b' :: c :: rest => (c :: rest).all fun c => c = '0' || c = '1' || c = '_'
  | '0' :: 'x' :: c :: rest =>
    (c :: rest).all fun c => isSpacedDigit c || ('a' ≤ c && c ≤ 'f') || ('A' ≤ c && c ≤ 'F')
  | '0' :: c :: rest => (c :: rest).all fun c => ('0' ≤ c && c ≤ '7') || c = '_'
  | c :: rest =>
    c.isDigit &&
      (rest.all isSpacedDigit ||
        (dropSixties? (rest.length + 1) (rest.dropWhile isSpacedDigit)).any List.isEmpty)
  | [] => false

/-- The parts of a time as they are written: the fraction of the second in digits, the offset with
its sign, hours and minutes. -/
structure TimeForm where
  year : Nat
  month : Nat
  day : Nat
  clock : Option (Nat × Nat × Nat)
  fraction : List Char
  offset : Option (Bool × Nat × Nat)
deriving Repr, DecidableEq

/-- Reads the offset at the end of a time: nothing, the letter for zero, or hours and minutes. -/
private def offset? (cs : List Char) : Option (Option (Bool × Nat × Nat)) :=
  match cs.dropWhile fun c => c = ' ' || c = '\t' with
  | [] => if cs.isEmpty then some none else none
  | ['Z'] => some (some (false, 0, 0))
  | sign :: rest =>
    if sign = '+' || sign = '-' then do
      let (hours, rest) ← digits? 1 2 rest
      match rest with
      | [] => some (some (sign = '-', hours, 0))
      | _ =>
        let (minutes, rest) ← digits? 2 2 (← after? ':' rest)
        if rest.isEmpty then some (some (sign = '-', hours, minutes)) else none
    else none

/-- Takes a time apart; nothing if the text has not the form of one. -/
def timeForm? (cs : List Char) : Option TimeForm := do
  let (year, rest) ← digits? 4 4 cs
  let (month, rest) ← digits? 1 2 (← after? '-' rest)
  let (day, rest) ← digits? 1 2 (← after? '-' rest)
  if rest.isEmpty then some ⟨year, month, day, none, [], none⟩
  else
    let rest ←
      match rest with
      | 'T' :: rest | 't' :: rest => some rest
      | c :: rest =>
        if c = ' ' || c = '\t' then some (rest.dropWhile fun c => c = ' ' || c = '\t') else none
      | [] => none
    let (hour, rest) ← digits? 1 2 rest
    let (minute, rest) ← digits? 2 2 (← after? ':' rest)
    let (second, rest) ← digits? 2 2 (← after? ':' rest)
    let (fraction, rest) :=
      match rest with
      | '.' :: rest => (rest.takeWhile Char.isDigit, rest.dropWhile Char.isDigit)
      | rest => ([], rest)
    some ⟨year, month, day, some (hour, minute, second), fraction, ← offset? rest⟩

/-- Whether a text has the form in which a plain scalar is a time: a day alone has two digits for
month and day. -/
def isTimeForm (cs : List Char) : Bool :=
  match timeForm? cs with
  | some form => form.clock.isSome || cs.length == 10
  | none => false

/-- A text without the line feed at its end, where something stands in front of it. -/
def withoutLineFeed (cs : List Char) : List Char :=
  if 1 < cs.length && cs.getLast? = some '\n' then cs.dropLast else cs

/-- The tag of a plain scalar, by its form. A line feed at the end does not count. -/
def ofPlain (text : String) : Tag :=
  let cs := withoutLineFeed text.toList
  let text := String.ofList cs
  if text = "" || ["~", "null", "Null", "NULL"].contains text then null
  else if ["yes", "Yes", "YES", "no", "No", "NO", "true", "True", "TRUE", "false", "False", "FALSE",
      "on", "On", "ON", "off", "Off", "OFF"].contains text then bool
  else if isRealForm cs then float
  else if isIntegerForm cs then int
  else if isTimeForm cs then timestamp
  else if text = "<<" then merge
  else if text = "=" then defaultValue
  else if ["!", "&", "*"].contains text then unknown
  else str

end Tag

end ChestMenu.Markup.Yaml
