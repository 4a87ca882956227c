import ChestMenu.OrderedMap
import ChestMenu.Value.Attribute
import ChestMenu.Value.Key

/-!
# Classes of context objects

Classes of context objects. A menu may be opened with a context of any type; besides the built-in
types there are declared classes, each with its bases, its stored attributes and its members. A class
inherits along its lineage, an order of its ancestors in which every class stands before its bases
and the bases of each class keep their order.

A class can extend one built-in type at most; its objects hold the least value of that type. What a
class holds under certain names decides how its objects show themselves: as texts, as truth values,
as numbers, as keys, and whether they can be gone through or called.
-/
namespace ChestMenu

variable [Machine]

/-- What an object holds: the value of the built-in type that its class extends, null where there is
none, and its own attributes in the order in which they were set. -/
structure Holding where
  core : Value := .null
  attributes : List (String × Value) := []

/-- What an object holds that a value is, or is made of. -/
def Value.holding : Value → Holding
  | .record _ core attributes _ => { core, attributes }
  | v => { core := v }

/-- A member of a class: what becomes of its call, by what the object holds and by the arguments. -/
structure Member where
  call : Holding → List Value → Except Failure Value

/-- A member that always answers with the same value. -/
def Member.answers (value : Value) : Member where
  call _ _ := .ok value

/-- A member that always reports the same failure. -/
def Member.reports (message : String) : Member where
  call _ _ := .error (.reported .runtime message)

/-- A method, with its parameters besides the object itself, which a static method does not take. -/
structure Method where
  member : Member
  static : Bool := false
  required : Nat := 0
  optional : Nat := 0
  takesMore : Bool := false
  requiredKeywords : Nat := 0
  takesMoreKeywords : Bool := false

/-- The parameters of a method behind the object: for each, whether it is required. -/
def Method.parameters (m : Method) : List Bool :=
  List.replicate m.required true ++ List.replicate m.optional false ++
    (if m.takesMore then [false] else []) ++ List.replicate m.requiredKeywords true ++
    (if m.takesMoreKeywords then [false] else [])

/-- Whether a method can be called with so many arguments. -/
def Method.takes (m : Method) (arguments : Nat) : Bool :=
  m.required ≤ arguments && (m.takesMore || arguments ≤ m.required + m.optional) && m.requiredKeywords = 0

/-- Calls a method on an object. A static one is not told what the object holds. -/
def Method.call (m : Method) (held : Holding) (arguments : List Value) : Except Failure Value :=
  if m.takes arguments.length then m.member.call (if m.static then {} else held) arguments
  else .error (.notCallable "method")

/-- A class. `stores` are the attributes that its objects have room for; a class that names none
lets its objects store any attribute. -/
structure ContextClass where
  name : String
  bases : List String := []
  dataFields : Option (List String) := none
  stores : Option (List String) := none
  attributes : List (String × Value) := []
  properties : List (String × Member) := []
  methods : List (String × Method) := []
  describe : Option Member := none

/-- What a class holds under a name. -/
inductive ClassItem where
  | property (member : Member)
  | store
  | method (m : Method)
  | attribute (value : Value)

namespace ContextClass

/-- The attributes that the objects of a class have room for by name. -/
def ownStores (c : ContextClass) : List String :=
  (c.stores.getD []).filter fun name => name != "__dict__" && name != "__weakref__"

/-- Whether a class lets its objects store any attribute. -/
def storesAny (c : ContextClass) : Bool :=
  match c.stores with
  | none => true
  | some names => names.contains "__dict__"

/-- The item that a class declares under a name. An attribute comes before a method of the same name,
and a method before a property. -/
def declared? (c : ContextClass) (name : String) : Option ClassItem :=
  ((c.attributes.lookup name).map .attribute).or <|
  (if name = "describe_fields" then c.describe.map fun m => .method { member := m } else none).or <|
  ((c.methods.lookup name).map .method).or <|
  (c.properties.lookup name).map .property

/-- The item of a class under a name. -/
def item? (c : ContextClass) (name : String) : Option ClassItem :=
  (c.declared? name).or (if c.ownStores.contains name then some .store else none)

/-- The names under which a class holds items. -/
def itemNames (c : ContextClass) : List String :=
  c.properties.map (·.1) ++ c.ownStores ++ c.methods.map (·.1) ++ c.attributes.map (·.1)

end ContextClass

/-- A declared class: its lineage, itself first; the type that its objects are laid out as; whether
they have room for weak references to them; and the data fields that it has, each with whether it has a
value without being set. -/
structure DeclaredClass where
  itself : ContextClass
  lineage : List String
  layout : String
  isReferable : Bool
  dataFields : OrderedMap String Bool := []

/-- The declared classes. -/
structure Classes where
  declared : List DeclaredClass := []

namespace Classes

/-- The lineage of a built-in type. -/
def builtinLineage (name : String) : List String :=
  match name with
  | "object" => ["object"]
  | "bool" => ["bool", "int", "object"]
  | "datetime" => ["datetime", "date", "object"]
  | name => [name, "object"]

/-- The declared class with a name. -/
def find? (classes : Classes) (name : String) : Option DeclaredClass :=
  classes.declared.find? fun c => c.itself.name = name

/-- The lineage of a class. -/
def lineage (classes : Classes) (name : String) : List String :=
  match classes.find? name with
  | some c => c.lineage
  | none => builtinLineage name

/-- Merges lineages: again and again the first head that stands behind no other head is taken. The
first argument bounds the number of classes. -/
def mergeLineages : Nat → List (List String) → Option (List String)
  | 0, _ => none
  | fuel + 1, lineages =>
    let left := lineages.filter (!·.isEmpty)
    if left.isEmpty then some []
    else
      let isFree (name : String) : Bool := left.all fun names => !(names.drop 1).contains name
      match (left.filterMap List.head?).find? isFree with
      | none => none
      | some name =>
        (mergeLineages fuel (left.map fun names =>
          if names.head? = some name then names.drop 1 else names)).map (name :: ·)

/-- The declared classes that an object inherits from, its own first. -/
def ancestors (classes : Classes) (name : String) : List ContextClass :=
  (classes.lineage name).filterMap fun ancestor => (classes.find? ancestor).map (·.itself)

/-- What a class has under a name, by itself or by inheritance. -/
def item? (classes : Classes) (className name : String) : Option ClassItem :=
  (classes.ancestors className).findSome? (·.item? name)

/-- Whether the objects of a class can store attributes that no class names. -/
def storesAny (classes : Classes) (className : String) : Bool :=
  (classes.ancestors className).any (·.storesAny)

/-- The data fields of a class, its own or inherited ones, each with whether it has a value without
being set. -/
def fieldTable (classes : Classes) (name : String) : OrderedMap String Bool :=
  ((classes.lineage name).findSome? fun ancestor =>
    (classes.find? ancestor).bind fun c =>
      if c.itself.dataFields.isSome then some c.dataFields else none).getD []

/-- The names of the data fields of a class. -/
def dataFields (classes : Classes) (name : String) : List String :=
  (classes.fieldTable name).keys

/-- The type that the objects of a class are laid out as. -/
def layout (classes : Classes) (name : String) : String :=
  match classes.find? name with
  | some c => c.layout
  | none => name

/-- Whether the objects of a class have room for weak references to them. Of the built-in types that
can be extended none has. -/
def isReferable (classes : Classes) (name : String) : Bool :=
  (classes.find? name).any (·.isReferable)

/-- The base of two whose layout contains that of the other; the first of two with the same. -/
def widerBase (classes : Classes) (base other : String) : Option String :=
  let (layout, layout') := (classes.layout base, classes.layout other)
  if (classes.lineage layout).contains layout' then some base
  else if (classes.lineage layout').contains layout then some other
  else none

/-- The base among several whose layout contains those of all others. -/
def widestBase (classes : Classes) : List String → Option String
  | [] => none
  | base :: bases => bases.foldlM classes.widerBase base

/-- The layout of a class with these bases, and whether its objects have room for weak references. The
bases must go together, and what the class stores must not be there already in the base that the layout
comes from. An integer or a tuple has no room behind its parts, so whatever it stores beside them gives it
a layout of its own. -/
def layOut (classes : Classes) (c : ContextClass) (bases : List String) :
    Except Failure (String × Bool) :=
  let refused : Except Failure (String × Bool) := .error (.incompatibleBases c.name)
  match if bases.contains "bool" then none else classes.widestBase bases with
  | none => refused
  | some base =>
    let layout := classes.layout base
    let stores := c.stores.getD []
    let types := classes.lineage layout
    let hasItems := types.contains "int" || types.contains "tuple"
    let isTwice (name : String) (there : Bool) : Bool :=
      stores.contains name && (there || stores.count name ≠ 1)
    if (!stores.isEmpty && hasItems) || isTwice "__dict__" (classes.storesAny base) ||
        isTwice "__weakref__" (classes.isReferable base) then refused
    else
      match c.ownStores.find? fun name => (c.declared? name).isSome with
      | some name => .error (.storeConflict name)
      | none =>
        let isReferable := bases.any classes.isReferable ||
          (!hasItems && (c.stores.isNone || stores.contains "__weakref__"))
        let storesMore := !classes.storesAny base && (c.stores.isNone || bases.any classes.storesAny)
        let isOwnLayout := !c.ownStores.isEmpty || (hasItems && storesMore)
        .ok (if isOwnLayout then c.name else layout, isReferable)

/-- The data fields of a class that was just declared. A value that can change cannot be the value of
a field, and a field without a value cannot follow one that has one. -/
def fieldsOf (classes : Classes) (c : ContextClass) : Except Failure (OrderedMap String Bool) := do
  let inherited : OrderedMap String Bool :=
    ((classes.lineage c.name).drop 1).reverse.foldl (fun found ancestor =>
      found.putAll (classes.fieldTable ancestor)) []
  let own ← (c.dataFields.getD []).mapM fun name =>
    match classes.item? c.name name with
    | some (.attribute value) =>
      if value.canChange then .error (.sharedDefault name) else .ok (name, true)
    | some .store | none => .ok (name, false)
    | some _ => .ok (name, true)
  let all := inherited.putAll own
  match (all.dropWhile fun (_, hasValue) => !hasValue).find? fun (_, hasValue) => !hasValue with
  | some (name, _) => .error (.fieldWithoutDefault name)
  | none => .ok all

/-- Declares a class. Its bases have to go together and need a common order. -/
def declare (classes : Classes) (c : ContextClass) : Except Failure Classes := do
  let bases := if c.bases.isEmpty then ["object"] else c.bases
  let (layout, isReferable) ← classes.layOut c bases
  let lineages := bases.map classes.lineage ++ [bases]
  match mergeLineages (lineages.flatten.length + 1) lineages with
  | none => throw (.inconsistentBases c.name)
  | some names =>
    let added : DeclaredClass := { itself := c, lineage := c.name :: names, layout, isReferable }
    if c.dataFields.isNone then return ⟨classes.declared ++ [added]⟩
    let dataFields ← fieldsOf ⟨classes.declared ++ [added]⟩ c
    return ⟨classes.declared ++ [{ added with dataFields }]⟩

/-- Declares classes one after another. -/
def ofList (cs : List ContextClass) : Except Failure Classes :=
  cs.foldlM declare {}

/-- The name of a value's own type. -/
def typeOf : Value → String
  | .decimal _ => "Decimal"
  | .date _ => "date"
  | .moment _ => "datetime"
  | v => v.typeName

/-- The names of the types that a value is an instance of. -/
def typesOf (classes : Classes) (v : Value) : List String :=
  classes.lineage (typeOf v)

/-- Whether a value is an instance of a type. -/
def isInstance (classes : Classes) (v : Value) (type : String) : Bool :=
  (classes.typesOf v).contains type

/-- What reading an attribute of an object gives. -/
inductive Reading where
  | value (v : Value)
  | method (m : Method)

/-- Reads an attribute of an object of a class. A property and a stored attribute come before what the
object holds by itself, and that comes before the methods and attributes of its class. -/
def readFrom (classes : Classes) (className : String) (held : Holding) (name : String) :
    Except Failure Reading :=
  match classes.item? className name, held.attributes.lookup name with
  | some (.property member), _ => do return .value (← member.call held [])
  | some .store, some value => .ok (.value value)
  | some .store, none => .error (.missingAttribute name)
  | _, some value => .ok (.value value)
  | some (.method m), none => .ok (.method m)
  | some (.attribute value), none => .ok (.value value)
  | none, none =>
    match held.core.builtinAttributes.lookup name with
    | some value => .ok (.value value)
    | none => .error (.missingAttribute name)

/-- Reads an attribute of a value. -/
def read (classes : Classes) (v : Value) (name : String) : Except Failure Reading :=
  match v with
  | .record className core attributes _ => classes.readFrom className { core, attributes } name
  | v =>
    match v.builtinAttributes.lookup name with
    | some value => .ok (.value value)
    | none => .error (.missingAttribute name)

/-- The attributes that an object holds by itself, in the order in which they were set. -/
def ownAttributes (classes : Classes) : Value → List (String × Value)
  | .record className _ attributes _ =>
    attributes.filter fun (name, _) =>
      match classes.item? className name with
      | some .store => false
      | _ => true
  | _ => []

/-- What is had of an object under a name that its class has an item for. What the object holds by itself
is had only where the class stores it. -/
def itemOf (held : Holding) (name : String) : ClassItem → Except Failure Reading
  | .property member => do return .value (← member.call held [])
  | .store =>
    match held.attributes.lookup name with
    | some value => .ok (.value value)
    | none => .error (.missingAttribute name)
  | .method m => .ok (.method m)
  | .attribute value => .ok (.value value)

/-- What an object of a class answers when the item under a name is called. -/
def answerOf (held : Holding) (name : String) (arguments : List Value) (item : ClassItem) :
    Except Failure Value := do
  match ← itemOf held name item with
  | .method m => m.call held arguments
  | .value v => throw (.notCallable v.typeName)

/-- What a value answers when it is called. -/
def callValue (classes : Classes) (v : Value) : Except Failure Value :=
  match v with
  | .record className core attributes _ =>
    match classes.item? className "__call__" with
    | some item => answerOf { core, attributes } "__call__" [] item
    | none => .error (.notCallable v.typeName)
  | v => .error (.notCallable v.typeName)

/-- The text that the method under a name answers with. -/
def textAnswer (held : Holding) (name : String) (item : ClassItem) : Except Failure String := do
  match (← answerOf held name [] item).plain with
  | .text s => return s
  | v => throw (.badAnswer name v.typeName)

/-- The text of the data fields of an object, each with its name. -/
def fieldsText (classes : Classes) (className : String) (held : Holding) (fields : List String) :
    Except Failure String := do
  let texts ← fields.mapM fun name => do
    match ← classes.readFrom className held name with
    | .value v => return name ++ "=" ++ (← v.inner)
    | .method _ => return name ++ "=<bound method>"
  return className ++ "(" ++ ", ".intercalate texts ++ ")"

/-- The text of an object inside a list: by a method of its class, or by its data fields, whichever
class of its lineage has one of them first. A method that cannot be had is left aside. -/
def innerOf (classes : Classes) (className : String) (held : Holding) : Except Failure String :=
  let name := "__repr__"
  let decides (c : ContextClass) : Bool := c.dataFields.isSome || (c.item? name).isSome
  let unnamed := "<" ++ className ++ " object>"
  match (classes.ancestors className).find? decides with
  | some c =>
    match c.item? name with
    | some item =>
      match itemOf held name item with
      | .ok _ => textAnswer held name item
      | .error _ => .ok unnamed
    | none => classes.fieldsText className held (classes.dataFields c.name)
  | none =>
    match held.core with
    | .null => .ok unnamed
    | core => core.inner

/-- The text of an object that stands alone. -/
def shownOf (classes : Classes) (className : String) (held : Holding) : Except Failure String :=
  match classes.item? className "__str__", held.core with
  | some item, _ => textAnswer held "__str__" item
  | none, .text _ | none, .decimal _ => held.core.shown
  | none, _ => classes.innerOf className held

/-- Whether a size counts as true: it is an integer, and none below zero. -/
def sizeTruth (size : Value) : Except Failure Bool :=
  match size.plain with
  | .bool b => .ok b
  | .int n => if n < 0 then .error (.notANumeral "negative size") else .ok (n != 0)
  | v => .error (.badAnswer "__len__" v.typeName)

/-- Whether an object counts as true. -/
def truthOf (classes : Classes) (className : String) (held : Holding) : Except Failure Bool :=
  match classes.item? className "__bool__", classes.item? className "__len__", held.core with
  | some item, _, _ => do
    match ← answerOf held "__bool__" [] item with
    | .bool b => return b
    | v => throw (.badAnswer "__bool__" v.typeName)
  | none, _, .int _ | none, _, .real _ | none, _, .decimal _ => held.core.truth
  | none, some item, _ => answerOf held "__len__" [] item >>= sizeTruth
  | none, none, .null => .ok true
  | none, none, core => core.truth

/-- Whether a value is a number by itself. -/
def isNumber : Value → Bool
  | .int _ | .real _ | .decimal _ => true
  | _ => false

/-- The integer that the method under a name answers with. -/
def integerAnswer (held : Holding) (name : String) (item : ClassItem) : Except Failure Int := do
  match (← answerOf held name [] item).plain with
  | .int n => return n
  | .bool b => return if b then 1 else 0
  | v => throw (.badAnswer name v.typeName)

/-- A number of an object; a text that is no numeral has to be shown to say so. -/
def shownIfNoNumeral {α : Type} (shown : Except Failure String) (number : Except Failure α) :
    Except Failure α :=
  match number, shown with
  | .error (.notANumeral _), .error cause => .error cause
  | number, _ => number

/-- The integer that an object stands for: by a method of its class, or by the number or the text that
it extends. What an object that extends a number stands for can be changed under one name only. -/
def integerOf (classes : Classes) (className : String) (held : Holding)
    (shown : Except Failure String) : Except Failure Int :=
  let names := if isNumber held.core then ["__int__"] else ["__int__", "__index__", "__trunc__"]
  match names.findSome? fun name => (classes.item? className name).map (name, ·), held.core with
  | some (name, item), _ => integerAnswer held name item
  | none, .null => .error (.notNumeric className)
  | none, core => shownIfNoNumeral shown core.toInteger

/-- The floating-point number that an object stands for, in the same way. -/
def realOf (classes : Classes) (className : String) (held : Holding)
    (shown : Except Failure String) : Except Failure Float :=
  match classes.item? className "__float__", classes.item? className "__index__", held.core with
  | some item, _, _ => do
    match (← answerOf held "__float__" [] item).plain with
    | .real x => return x
    | v => throw (.badAnswer "__float__" v.typeName)
  | none, some item, core => do
    if isNumber core then core.toReal
    else (Value.int (← integerAnswer held "__index__" item)).toReal
  | none, none, .null => .error (.notNumeric className)
  | none, none, core => shownIfNoNumeral shown core.toReal

/-- How objects of a class come by the number under which they are kept as keys. -/
inductive KeyNumber where
  /-- As the value of the built-in type that the class extends does. -/
  | inherited
  /-- By an item of a class. -/
  | told (item : ClassItem)
  /-- They have none. -/
  | refused

/-- How objects of a class come by the number under which they are kept as keys: objects that are compared by
their fields or by a method have none, unless the class says how. -/
def keyNumber (classes : Classes) (className : String) : KeyNumber :=
  ((classes.ancestors className).findSome? fun c =>
    match c.item? "__hash__" with
    | some (.attribute .null) => some .refused
    | some item => some (.told item)
    | none => if c.dataFields.isSome || (c.item? "__eq__").isSome then some .refused else none).getD .inherited

/-- The number under which something is kept of which an integer was told. One that is too long is divided,
and -1 is left for failures. -/
def keptNumber (told : Int) : Int :=
  let n := if -countLimit ≤ told + 1 ∧ told ≤ countLimit then told else told.tmod keyDivisor
  if n = -1 then -2 else n

/-- The number under which an object is kept as a key. A method that cannot be had tells none. -/
def numberOf (classes : Classes) (className : String) (held : Holding) : Except Failure (Option Int) :=
  match classes.keyNumber className with
  | .inherited => held.core.number
  | .refused => .error (.unhashable className)
  | .told item =>
    match itemOf held "__hash__" item with
    | .ok _ => return some (keptNumber (← integerAnswer held "__hash__" item))
    | .error _ => .error (.unhashable className)

/-- Whether an object is equal to a text: by a method of its class, unless a class before that one compares
its objects by their fields or the method cannot be had, and otherwise if it is that text itself. -/
def equalsTextOf (classes : Classes) (className : String) (held : Holding) (word : String) :
    Except Failure Bool :=
  let name := "__eq__"
  let decides (c : ContextClass) : Bool := c.dataFields.isSome || (c.item? name).isSome
  match ((classes.ancestors className).find? decides).bind (·.item? name) with
  | some item =>
    match itemOf held name item with
    | .ok _ => answerOf held name [.text word] item >>= Value.truth
    | .error _ => held.core.equalsText word
  | none => held.core.equalsText word

/-- Whether objects of a class have something under a name. -/
def has (classes : Classes) (className name : String) : Bool :=
  match classes.item? className name with
  | none | some (.attribute .null) => false
  | some _ => true

/-- How an object of a class shows itself. -/
def mannerOf (classes : Classes) (className : String) (held : Holding) : Manner :=
  let inner := classes.innerOf className held
  { shown := classes.shownOf className held
    inner
    truth := classes.truthOf className held
    integer := classes.integerOf className held inner
    real := classes.realOf className held inner
    isCollection := ["__len__", "__iter__", "__contains__"].all (classes.has className)
    isCallable := (classes.item? className "__call__").isSome
    number := classes.numberOf className held
    equalsText := classes.equalsTextOf className held }

/-- The least value of the built-in type that a class extends, null if it extends none. -/
def coreOf (classes : Classes) (className : String) : Except Failure Value :=
  let least : String → Option (Except Failure Value)
    | "int" => some (.ok (.int 0))
    | "float" => some (.ok (.real 0.0))
    | "Decimal" => some (.ok (.decimal (.finite false 0 0)))
    | "str" => some (.ok (.text ""))
    | "list" => some (.ok (.list []))
    | "tuple" => some (.ok (.tuple []))
    | "dict" => some (.ok (.map []))
    | "date" => some (.error (.cannotInstantiate className))
    | _ => none
  ((classes.lineage className).findSome? least).getD (.ok .null)

/-- An object of a class with the attributes given. A property cannot be set, and neither can what
the class has no room for. -/
def instantiate (classes : Classes) (className : String) (attributes : List (String × Value)) :
    Except Failure Value := do
  let core ← classes.coreOf className
  for (name, _) in attributes do
    match classes.item? className name with
    | some (.property _) => throw (.missingAttribute name)
    | some .store => pure ()
    | item =>
      let isBuiltin := item.isNone && (core.builtinAttributes.lookup name).isSome
      if isBuiltin || !classes.storesAny className then throw (.missingAttribute name)
  return .record className core attributes (classes.mannerOf className { core, attributes })

end Classes

end ChestMenu
