import ChestMenu.Context.Class
import ChestMenu.Markup.Json
import ChestMenu.Text.Quoted
import ChestMenu.Value.Attribute
import ChestMenu.Value.Iso8601
import ChestMenu.Value.Member

/-!
# Tagged documents

Values of all kinds are written in a document that has only null, truth values, integers, texts,
lists and mappings. A value of any other kind, and a mapping in writing, becomes a mapping with one
member, whose name is the tag of the kind.

Reading takes a mapping without a tag for what it is. Writing puts the members of a set in order and
shows of a record the name of its class only, so it is not undone by reading.
-/
namespace ChestMenu.Markup.Tagged

open ChestMenu.Number ChestMenu.Text

variable [Machine]

/-- The greatest integer that is written without a tag. -/
def plainLimit : Nat := Nat.pow 2 53

/-- A mapping with one member. -/
def tagged (tag : String) (value : Value) : Value :=
  .map [(.text tag, value)]

/-- A blank of the ASCII characters. -/
def isPlainBlank (c : Char) : Bool := isNumeralBlank c && c.toNat < 0x80

/-- The bytes that hexadecimal digits name, two for each byte. There may be blanks between bytes. -/
def bytesOfHex? : List Char → Option (List UInt8)
  | [] => some []
  | [c] => if isPlainBlank c then some [] else none
  | a :: b :: rest =>
    if isPlainBlank a then bytesOfHex? (b :: rest)
    else do
      let byte := UInt8.ofNat (16 * (← Json.hexValue? a) + (← Json.hexValue? b))
      return byte :: (← bytesOfHex? rest)

/-- The value that a text is read as, which has to be there. -/
def required (s : String) (found : Option Value) : Except Failure Value :=
  match found with
  | some v => .ok v
  | none => .error (.notANumeral s)

/-- The pair that a list of two members makes. -/
def pairOf (v : Value) : Except Failure (Value × Value) := do
  let key ← (v.items.getD 0 .null).requireKey
  return (key, v.items.getD 1 .null)

/-- What a mapping with a tag stands for; a mapping without one stands for itself. -/
def ofTag (classes : Classes) : List (Value × Value) → Except Failure Value
  | [(.text "$float", .text s)] => required s ((readReal? s.toList).map .real)
  | [(.text "$dec", .text s)] =>
    match Decimal.read? s.toList with
    | some d => .ok (.decimal d)
    | none => .error .notADecimal
  | [(.text "$uuid", .text s)] => required s ((Uuid.read? s.toList).map .uuid)
  | [(.text "$date", .text s)] => required s ((Date.ofIso? s.toList).map .date)
  | [(.text "$datetime", .text s)] => required s ((Moment.ofIso? s.toList).map .moment)
  | [(.text "$enum", .list [name, value])] => .ok (.member name.label value)
  | [(.text "$bytes", .text s)] => required s ((bytesOfHex? s.toList).map .bytes)
  | [(.text "$tuple", .list xs)] => .ok (.tuple xs)
  | [(.text "$set", .list xs)] => do return .set (Machine.arrange (Value.distinct (← xs.mapM (·.requireKey))))
  | [(.text "$map", .list xs)] => do return .map (Value.ofPairs (← xs.mapM pairOf))
  | [(.text "$text", .text s)] => .ok (.foreign s)
  | [(.text "$obj", description)] =>
    classes.instantiate (description.textAt "class") (description.get "attrs").entries
  | pairs => .ok (.map pairs)

mutual

/-- The value that a tagged document stands for. -/
def read (classes : Classes) : Value → Except Failure Value
  | .list xs => do return .list (← readAll classes xs)
  | .map pairs => do ofTag classes (← readPairs classes pairs)
  | v => .ok v

/-- The values that several documents stand for. -/
def readAll (classes : Classes) : List Value → Except Failure (List Value)
  | [] => .ok []
  | x :: xs => do
    let first ← read classes x
    return first :: (← readAll classes xs)

/-- The pairs of a mapping with the values that they stand for. -/
def readPairs (classes : Classes) :
    List (Value × Value) → Except Failure (List (Value × Value))
  | [] => .ok []
  | (key, x) :: rest => do
    let value ← read classes x
    return (key, value) :: (← readPairs classes rest)

end

/-- The order of the members of a set: numbers by size, anything else by its text. -/
def before (v w : Value) : Bool :=
  match v.toReal, w.toReal with
  | .ok x, .ok y => x ≤ y
  | _, _ => v.label ≤ w.label

mutual

/-- The tagged document of a value. A record that extends a built-in value shows as that value, any
other by the name of its class. -/
def write : Value → Value
  | .int n => if n.natAbs ≤ plainLimit then .int n else tagged "$int" (.text (integerText n))
  | .real x => tagged "$float" (.text (realText x))
  | .decimal d => tagged "$dec" (.text d.text)
  | .uuid n => tagged "$uuid" (.text (uuidText n))
  | .date d => tagged "$date" (.text d.text)
  | .moment m => tagged "$datetime" (.text (replaceAll " " "T" m.text))
  | .member name _ => tagged "$enum" (.text name)
  | .bytes b => tagged "$bytes" (.text (String.ofList (b.flatMap fun byte => hexDigits 2 byte.toNat)))
  | .list xs | .tuple xs => .list (writeAll xs)
  | .set xs =>
    let written := (xs.zip (writeAll xs)).mergeSort fun (v, _) (w, _) => before v w
    tagged "$set" (.list (written.map (·.2)))
  | .map pairs => tagged "$map" (.list (writePairs pairs))
  | .foreign shown => tagged "$text" (.text shown)
  | .record className .null _ _ => tagged "$obj" (.text className)
  | .record _ core _ _ => write core
  | .loop .. => .null
  | v => v

/-- The tagged documents of several values. -/
def writeAll : List Value → List Value
  | [] => []
  | x :: xs => write x :: writeAll xs

/-- The tagged documents of pairs, each a list of two members. -/
def writePairs : List (Value × Value) → List Value
  | [] => []
  | (key, x) :: rest => .list [write key, write x] :: writePairs rest

end

end ChestMenu.Markup.Tagged
