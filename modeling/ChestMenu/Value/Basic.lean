import ChestMenu.Failure
import ChestMenu.Number.Decimal
import ChestMenu.Text.Half

/-!
# Dynamic values

A dynamic value is what a menu document, a session's context or a resolver of placeholders can hold.
Mappings keep the order in which their keys were first entered. Two keys are the same if they are
equal as numbers, texts, times or tuples; the kind of number makes no difference.

A document may hold a list or a mapping that is a member of itself. Such a value is a place in a
table of lists and mappings whose members may again be places in the table.
-/
namespace ChestMenu

open ChestMenu.Number

/-- A day of the calendar. -/
structure Date where
  year : Nat
  month : Nat
  day : Nat
deriving Repr, DecidableEq

/-- How many days a month has. -/
def daysIn (year month : Nat) : Nat :=
  if month = 2 then
    if year % 4 = 0 && (year % 100 ≠ 0 || year % 400 = 0) then 29 else 28
  else if [4, 6, 9, 11].contains month then 30
  else 31

/-- The day of a month of a year, if there is one. -/
def Date.ofParts? (year month day : Nat) : Option Date :=
  if year = 0 || 9999 < year || month = 0 || 12 < month || day = 0 || daysIn year month < day then none
  else some ⟨year, month, day⟩

/-- How many days there are from the start of the calendar up to a day, that day included. -/
def Date.number (d : Date) : Nat :=
  let years := d.year - 1
  let months := (List.range (d.month - 1)).foldl
    (fun days month => days + daysIn d.year (month + 1)) 0
  365 * years + years / 4 - years / 100 + years / 400 + months + d.day

/-- A time of a day, with the offset from universal time in seconds where one is known. -/
structure Moment where
  date : Date
  hour : Nat
  minute : Nat
  second : Nat
  microsecond : Nat
  offset : Option Int
deriving Repr, DecidableEq

/-- The time of a day, if there is one. An offset is less than a day. -/
def Moment.ofParts? (date : Date) (hour minute second microsecond : Nat) (offset : Option Int) :
    Option Moment :=
  if 23 < hour || 59 < minute || 59 < second || offset.any (86400 ≤ ·.natAbs) then none
  else some ⟨date, hour, minute, second, microsecond, offset⟩

/-- The microsecond of universal time at which a moment is, if its offset is known. -/
def Moment.instant? (m : Moment) : Option Int :=
  m.offset.map fun offset =>
    let seconds : Int := 86400 * m.date.number + 3600 * m.hour + 60 * m.minute + m.second
    1000000 * (seconds - offset) + m.microsecond

/-- Whether two moments are the same. One whose offset is known is never the same as one whose offset
is not. -/
def Moment.same (m n : Moment) : Bool :=
  match m.instant?, n.instant? with
  | some i, some j => i == j
  | none, none => m == n
  | _, _ => false

/-- How an object of a declared class shows itself: as a text that stands alone, as one inside a list,
as a truth value, as an integer and as a floating-point number, as a collection and as something that can
be called; the number under which it is kept as a key, which is left open if it equals no key but itself; and
whether it is equal to a text. -/
structure Manner where
  shown : Except Failure String
  inner : Except Failure String
  truth : Except Failure Bool
  integer : Except Failure Int
  real : Except Failure Float
  isCollection : Bool
  isCallable : Bool
  number : Except Failure (Option Int)
  equalsText : String → Except Failure Bool

/-- A dynamic value. A `foreign` value is an object of which only its text is known. A `record` is an
instance of a declared class: the value of a built-in type that its class extends, null where there is
none, and its own attributes in the order in which they were set. A `loop` is a place in a table of
lists and mappings, whose members may be places in the same table, then written without it. -/
inductive Value where
  | null
  | bool (b : Bool)
  | int (n : Int)
  | real (x : Float)
  | decimal (d : Decimal)
  | text (s : String)
  | uuid (number : Nat)
  | date (d : Date)
  | moment (m : Moment)
  | member (name : String) (value : Value)
  | bytes (b : List UInt8)
  | list (xs : List Value)
  | tuple (xs : List Value)
  | set (xs : List Value)
  | map (pairs : List (Value × Value))
  | foreign (shown : String)
  | record (className : String) (core : Value) (attributes : List (String × Value)) (manner : Manner)
  | loop (place : Nat) (nodes : List Value)
deriving Inhabited

namespace Value

/-- The name of a value's type. -/
def typeName : Value → String
  | null => "NoneType"
  | bool _ => "bool"
  | int _ => "int"
  | real _ => "float"
  | decimal _ => "decimal.Decimal"
  | text _ => "str"
  | uuid _ => "UUID"
  | date _ => "datetime.date"
  | moment _ => "datetime.datetime"
  | member .. => "Enum"
  | bytes _ => "bytes"
  | list _ => "list"
  | tuple _ => "tuple"
  | set _ => "set"
  | map _ => "dict"
  | foreign _ => "object"
  | record className .. => className
  | loop place nodes =>
    match nodes[place]? with
    | some (list _) => "list"
    | _ => "dict"

/-- The name of a value's type, null going by a name of its own. -/
def kindName : Value → String
  | null => "None"
  | v => v.typeName

mutual

/-- The value with what `put` gives for each place in it that is written without a table. -/
def replacePlaces {m : Type → Type} [Monad m] (put : Nat → m Value) : Value → m Value
  | loop place [] => put place
  | list xs => do return list (← replaceInAll put xs)
  | tuple xs => do return tuple (← replaceInAll put xs)
  | map pairs => do return map (← replaceInPairs put pairs)
  | v => return v

/-- The values with what `put` gives for the places in them. -/
def replaceInAll {m : Type → Type} [Monad m] (put : Nat → m Value) : List Value → m (List Value)
  | [] => return []
  | x :: xs => do
    let first ← replacePlaces put x
    return first :: (← replaceInAll put xs)

/-- The pairs with what `put` gives for the places in their values; a key holds none. -/
def replaceInPairs {m : Type → Type} [Monad m] (put : Nat → m Value) :
    List (Value × Value) → m (List (Value × Value))
  | [] => return []
  | (key, x) :: rest => do
    let first ← replacePlaces put x
    return (key, first) :: (← replaceInPairs put rest)

end

/-- The value with a table for the places in it that are written without one. -/
def relink (table : List Value) (v : Value) : Value :=
  Id.run (v.replacePlaces fun place => loop place table)

/-- The value of a built-in type that a value is or extends. A place in a table is what stands there. -/
def plain : Value → Value
  | record className null attributes manner => record className null attributes manner
  | record _ core _ _ => core
  | loop place nodes => relink nodes (nodes.getD place null)
  | v => v

/-- Whether a value counts as true: all do but null, false, zeros and what is empty. An object may
decide for itself, and fail to. -/
def truth : Value → Except Failure Bool
  | null => .ok false
  | bool b => .ok b
  | int n => .ok (n != 0)
  | real x => .ok (x != 0.0)
  | decimal d => .ok (!d.isZero)
  | text s => .ok (!s.isEmpty)
  | bytes b => .ok (!b.isEmpty)
  | list xs | tuple xs | set xs => .ok (!xs.isEmpty)
  | map pairs => .ok (!pairs.isEmpty)
  | record _ _ _ manner => manner.truth
  | _ => .ok true

/-- Whether a value counts as true; one that fails to decide does. -/
def truthy (v : Value) : Bool :=
  v.truth.toOption.getD true

/-- An exact number for comparison: a fraction with a positive denominator, or an infinity. -/
inductive Exact where
  | fraction (num : Int) (den : Nat)
  | infinite (negative : Bool)

/-- The exact value of a number that is one. -/
def numeric? (v : Value) : Option Exact :=
  match v.plain with
  | bool b => some (.fraction (if b then 1 else 0) 1)
  | int n => some (.fraction n 1)
  | real x =>
    match realParts x with
    | .nan => none
    | .infinite negative => some (.infinite negative)
    | .finite negative mantissa exponent =>
      let (num, den) := binaryFraction mantissa exponent
      some (.fraction (if negative then -(num : Int) else num) den)
  | decimal (.finite negative coefficient exponent) =>
    let (num, den) := if 0 ≤ exponent then (coefficient * Nat.pow 10 exponent.toNat, 1)
      else (coefficient, Nat.pow 10 (-exponent).toNat)
    some (.fraction (if negative then -(num : Int) else num) den)
  | decimal (.infinite negative) => some (.infinite negative)
  | _ => none

/-- Equality of exact numbers. -/
def Exact.same : Exact → Exact → Bool
  | .fraction n d, .fraction n' d' => n * d' == n' * d
  | .infinite negative, .infinite negative' => negative == negative'
  | _, _ => false

mutual

/-- Whether two values are the same key of a mapping. -/
def sameKey : Value → Value → Bool
  | null, null => true
  | text s, text s' => s == s'
  | uuid n, uuid n' => n == n'
  | date d, date d' => d == d'
  | moment m, moment m' => m.same m'
  | bytes b, bytes b' => b == b'
  | member name value, member name' value' => name == name' && sameKey value value'
  | tuple xs, tuple xs' => sameKeys xs xs'
  | record _ (text s) _ _, text s' => s == s'
  | text s, record _ (text s') _ _ => s == s'
  | record _ (text s) _ _, record _ (text s') _ _ => s == s'
  | record _ (tuple xs) _ _, tuple xs' => sameKeys xs xs'
  | v, v' =>
    match v.numeric?, v'.numeric? with
    | some e, some e' => e.same e'
    | _, _ => false

/-- Whether two lists of values agree member by member. -/
def sameKeys : List Value → List Value → Bool
  | [], [] => true
  | x :: xs, x' :: xs' => sameKey x x' && sameKeys xs xs'
  | _, _ => false

end

mutual

/-- What keeps a value from being the key of a mapping, if anything does: its type, or a member or the
object itself. -/
def keyFault? : Value → Option Failure
  | list _ => some (.unhashable "list")
  | set _ => some (.unhashable "set")
  | map _ => some (.unhashable "dict")
  | tuple xs => firstKeyFault? xs
  | decimal (.nan _ true _) => some (.unhashable "decimal.Decimal")
  | record _ _ _ manner =>
    match manner.number with
    | .ok _ => none
    | .error cause => some cause
  | loop .. => some (.unhashable "list")
  | _ => none

/-- What keeps the first of several values that cannot be a key from being one. -/
def firstKeyFault? : List Value → Option Failure
  | [] => none
  | x :: xs => (keyFault? x).or (firstKeyFault? xs)

end

/-- Whether no value of the type can be a key, since such values can change. -/
def canChange (v : Value) : Bool :=
  match v with
  | tuple _ | decimal _ => false
  | v => v.keyFault? matches some (.unhashable _)

/-- Refuses a value that cannot be a key. -/
def requireKey (v : Value) : Except Failure Value :=
  match v.keyFault? with
  | some cause => .error cause
  | none => .ok v

/-- Puts a value under a key: in the place of the same key, or at the end. The key that was there
stays as it was written. -/
def insertPair (key value : Value) : List (Value × Value) → List (Value × Value)
  | [] => [(key, value)]
  | (k, v) :: rest => if k.sameKey key then (k, value) :: rest else (k, v) :: insertPair key value rest

/-- The pairs of a mapping, entered one after another. -/
def ofPairs (pairs : List (Value × Value)) : List (Value × Value) :=
  pairs.foldl (fun entered (key, value) => insertPair key value entered) []

/-- The values without those that are the same key as an earlier one. -/
def distinct (xs : List Value) : List Value :=
  (ofPairs (xs.map fun x => (x, null))).map (·.1)

/-- The mapping with these members, whose names are different. -/
def ofMembers (members : List (String × Value)) : Value :=
  .map (members.map fun (name, value) => (.text name, value))

/-- What a mapping holds under a text. -/
def lookup? (key : String) : List (Value × Value) → Option Value
  | [] => none
  | (.text k, v) :: rest => if k = key then some v else lookup? key rest
  | _ :: rest => lookup? key rest

/-- The pairs of a mapping; nothing if the value is none. -/
def pairs? (v : Value) : Option (List (Value × Value)) :=
  match v.plain with
  | map pairs => some pairs
  | _ => none

/-- The value under a text key, if the value is a mapping that has the key. -/
def get? (v : Value) (key : String) : Option Value :=
  v.pairs?.bind (lookup? key)

/-- The value under a text key; null where there is none. -/
def get (v : Value) (key : String) : Value :=
  (v.get? key).getD null

/-- The integer part of a number, or the integer that a text names. -/
def toInteger (v : Value) : Except Failure Int :=
  match v with
  | record _ _ _ manner => manner.integer
  | bool b => .ok (if b then 1 else 0)
  | int n => .ok n
  | real x =>
    match realParts x with
    | .nan => .error (.notANumeral "nan")
    | .infinite _ => .error .infiniteNumber
    | .finite .. => .ok ((truncate? x).getD 0)
  | decimal (.finite negative coefficient exponent) =>
    .ok (Decimal.truncated negative coefficient exponent)
  | decimal (.infinite _) => .error .infiniteNumber
  | decimal (.nan ..) => .error (.notANumeral "NaN")
  | text s =>
    match readInteger? s.toList with
    | some n => .ok n
    | none => .error (.notANumeral s)
  | bytes b =>
    match if b.all (· < 0x80) then readInteger? (b.map fun c => Char.ofNat c.toNat) else none with
    | some n => .ok n
    | none => .error (.notANumeral "bytes")
  | uuid n => .ok n
  | v => .error (.notNumeric v.typeName)

/-- A number as a floating-point number, or the one that a text names. -/
def toReal (v : Value) : Except Failure Float :=
  match v with
  | record _ _ _ manner => manner.real
  | bool b => .ok (if b then 1.0 else 0.0)
  | int n =>
    match ofInteger? n with
    | some x => .ok x
    | none => .error .numberTooLarge
  | real x => .ok x
  | decimal (.finite negative coefficient exponent) => .ok (ofDecimal negative coefficient exponent)
  | decimal (.infinite negative) => .ok (if negative then -1.0 / 0.0 else 1.0 / 0.0)
  | decimal (.nan _ false _) => .ok (0.0 / 0.0)
  | decimal (.nan _ true _) => .error (.notANumeral "sNaN")
  | text s =>
    match readReal? s.toList with
    | some x => .ok x
    | none => .error (.notANumeral s)
  | bytes b =>
    match if b.all (· < 0x80) then readReal? (b.map fun c => Char.ofNat c.toNat) else none with
    | some x => .ok x
    | none => .error (.notANumeral "bytes")
  | v => .error (.notNumeric v.typeName)

/-- The members that a value is gone through by: the members of a sequence, the keys of a mapping,
the characters of a text. -/
def members (v : Value) : Except Failure (List Value) :=
  match v.plain with
  | list xs | tuple xs | set xs => .ok xs
  | map pairs => .ok (pairs.map (·.1))
  | text s => .ok ((Text.units s.toList).map fun unit => text (String.ofList unit))
  | bytes b => .ok (b.map fun c => int c.toNat)
  | v => .error (.notIterable v.typeName)

/-- The members that a value is gone through by, each once. They have to be values that can be keys. -/
def distinctMembers (v : Value) : Except Failure (List Value) := do
  return distinct (← (← v.members).mapM requireKey)

end Value

end ChestMenu
