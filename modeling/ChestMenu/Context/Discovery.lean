import ChestMenu.Context.Class
import ChestMenu.Text.Case
import ChestMenu.Value.Text

/-!
# The readable fields of a context

An object that describes its fields is asked for them, and a mapping's fields are its keys. Of any
other object the fields are its public attributes and then what its accessors read: data fields,
stored attributes, properties, and methods without arguments whose names begin with `get` or `is`.

Which accessors there are depends on the type alone; they are found once for each type and kept in a
cache. An accessor that cannot be read gives no field.
-/
namespace ChestMenu.Discovery

open ChestMenu.Text

variable [Machine]

/-- A field and the name of the class's item that reads it. Where the two differ, the item is a method
that has to be called. -/
structure Accessor where
  field : String
  source : String
deriving Repr, DecidableEq

/-- The accessors of the types that were looked at. -/
abbrev Cache := List (String × List Accessor)

/-- The field that a method reads, by its name: what stands behind `get_` or `is_`, or behind `get` or
`is` where a capital letter follows, which becomes small. -/
def fieldOfMethod? (name : String) : Option String :=
  let behind? (start : String) : Option (List Char) :=
    if start.toList.isPrefixOf name.toList then some (name.toList.drop start.length) else none
  let snake? (start : String) : Option String :=
    match behind? start with
    | some (c :: rest) => some (String.ofList (c :: rest))
    | _ => none
  let camel? (start : String) : Option String :=
    match behind? start with
    | some (c :: rest) => if isUpper c then some (String.ofList (lowerChars [c] ++ rest)) else none
    | _ => none
  (snake? "get_").or <| (snake? "is_").or <| (camel? "get").or <| camel? "is"

/-- Whether a name is public. -/
def isPublic (name : String) : Bool :=
  name.toList.head? != some '_'

/-- Whether a method looks as if it took no arguments: the first parameter is taken for the object,
so there has to be one, and none behind it may be required. -/
def looksBare (m : Method) : Bool :=
  match if m.static then m.parameters else true :: m.parameters with
  | [] => false
  | _ :: others => others.all (!·)

/-- Adds an accessor unless the field has one. -/
def addAccessor (found : List Accessor) (a : Accessor) : List Accessor :=
  if found.any (·.field = a.field) then found else found ++ [a]

/-- An accessor under its own name. -/
def plain (name : String) : Accessor := ⟨name, name⟩

/-- The public data fields of a class. -/
def publicData (classes : Classes) (className : String) : List String :=
  (classes.dataFields className).filter isPublic

/-- The public attributes that the objects of a class have room for by name. -/
def publicStores (classes : Classes) (className : String) : List String :=
  ((classes.ancestors className).flatMap (·.ownStores)).filter isPublic

/-- The public names of the items of a class, in order. -/
def publicNames (classes : Classes) (className : String) : List String :=
  (((classes.ancestors className).flatMap (·.itemNames)).filter isPublic).mergeSort

/-- The accessor that an item of a class makes, if it is a property or a method that reads a field. -/
def memberAccessor? (classes : Classes) (className name : String) : Option Accessor :=
  match classes.item? className name with
  | some (.property _) => some (plain name)
  | some (.method m) =>
    if looksBare m then (fieldOfMethod? name).map fun field => ⟨field, name⟩ else none
  | _ => none

/-- The accessors of a declared class, by the names of their fields. -/
def declaredAccessors (classes : Classes) (className : String) : List Accessor :=
  ((publicData classes className ++ publicStores classes className).map plain ++
      (publicNames classes className).filterMap (memberAccessor? classes className)).foldl addAccessor []
    |>.mergeSort fun a b => a.field ≤ b.field

/-- The accessors of a type. Of the built-in types only that of identifiers has any. -/
def accessorsOf (classes : Classes) (type : String) : List Accessor :=
  if type = Classes.typeOf (.uuid 0) then (Uuid.attributes 0).map fun (name, _) => plain name
  else declaredAccessors classes type

/-- The accessors of a value's type, and the cache that holds them. -/
def accessors (classes : Classes) (cache : Cache) (v : Value) : List Accessor × Cache :=
  let type := Classes.typeOf v
  match cache.lookup type with
  | some found => (found, cache)
  | none =>
    let found := accessorsOf classes type
    (found, cache ++ [(type, found)])

/-- Whether a value can be called. -/
def isCallable : Value → Bool
  | .record _ _ _ manner => manner.isCallable
  | _ => false

/-- A method that is read and not called: an object that can be called. It is shown by its name and, unless it is a
static one, by the object that it was read from. -/
def methodValue (v : Value) (name : String) (m : Method) : Value :=
  let typeName := if m.static then "function" else "method"
  let shown : Except Failure String :=
    if m.static then .ok ("<function " ++ name ++ ">")
    else v.inner.map fun whole => "<bound method " ++ name ++ " of " ++ whole ++ ">"
  .record typeName .null []
    { shown
      inner := shown
      truth := .ok true
      integer := .error (.notNumeric typeName)
      real := .error (.notNumeric typeName)
      isCollection := false
      isCallable := true
      number := .ok none
      equalsText := fun _ => .ok false }

/-- What an accessor reads from a value; nothing if it cannot be read. Only a getter is called. -/
def readAccessor? (classes : Classes) (v : Value) (a : Accessor) : Option Value :=
  let isGetter : Bool := a.field ≠ a.source
  match classes.read v a.source with
  | .ok (.value value) =>
    if isGetter && isCallable value then (classes.callValue value).toOption else some value
  | .ok (.method m) => if isGetter then (m.call v.holding []).toOption else some (methodValue v a.source m)
  | .error _ => none

/-- The pairs of the answer of an object that describes its fields. The members of an answer that is
no mapping are looked at one after another; each has to be a pair with a key that is fit for it. -/
def describedPairs (answer : Value) : Except Failure (List (Value × Value)) :=
  match answer.pairs? with
  | some pairs => .ok pairs
  | none => do
    (← answer.members).foldlM (fun pairs member => do
      match ← member.members with
      | [key, value] => return Value.insertPair (← key.requireKey) value pairs
      | _ => throw .notPairs) []

/-- Whether an object describes its fields: its class has an item for that, or the object itself holds
one; null is none. -/
def describesFields (classes : Classes) (context : Value) : Bool :=
  match context with
  | .record className _ attributes _ =>
    match classes.item? className "describe_fields" with
    | none | some (.attribute .null) =>
      match attributes.lookup "describe_fields" with
      | none | some .null => false
      | some _ => true
    | some _ => true
  | _ => false

/-- What an object says when it is asked to describe its fields. -/
def described (classes : Classes) (context : Value) : Except Failure (List (Value × Value)) := do
  match ← classes.read context "describe_fields" with
  | .method m => m.call context.holding [] >>= describedPairs
  | .value v => classes.callValue v >>= describedPairs

/-- The pairs of a mapping under the texts of their keys. -/
def underTexts (pairs : List (Value × Value)) : Except Failure (List (Value × Value)) := do
  let named ← pairs.mapM fun ((key, value) : Value × Value) => do
    return (Value.text (← key.shown), value)
  return Value.ofPairs named

/-- The fields of a context, in order. -/
def fields (classes : Classes) (cache : Cache) (context : Value) :
    Except Failure (List (Value × Value)) × Cache :=
  match context with
  | .null => (.ok [], cache)
  | _ =>
    if describesFields classes context then (described classes context, cache)
    else
      match context.pairs? with
      | some pairs => (underTexts pairs, cache)
      | none =>
        let own := ((classes.ownAttributes context).filter fun (name, value) =>
          isPublic name && !isCallable value).map fun (name, value) => (Value.text name, value)
        let (found, cache) := accessors classes cache context
        let read := found.filterMap fun a =>
          (readAccessor? classes context a).map fun value => (Value.text a.field, value)
        (.ok (Value.ofPairs (own ++ read)), cache)

/-- The tokens that fields give: those whose values have a text. A field with a text needs a name that
is one. -/
def tokensOfFields (pairs : List (Value × Value)) : Except Failure (List (String × String)) :=
  pairs.filterMapM fun (key, value) => do
    match ← value.placeholderText?, key.plain with
    | none, _ => return none
    | some shown, .text name => return some ("\x7bcontext." ++ name ++ "\x7d", shown)
    | some _, key => throw (.mismatchedTypes "str" key.typeName)

/-- The tokens of a context's fields. -/
def tokens (classes : Classes) (cache : Cache) (context : Value) :
    Except Failure (List (String × String)) × Cache :=
  let (pairs, cache) := fields classes cache context
  (pairs >>= tokensOfFields, cache)

/-- What a discovery is asked for: the tokens of a context, or to forget the types that it looked at. -/
inductive Request where
  | tokens (context : Value)
  | forget

/-- Does what is asked. The tokens, or why they cannot be had, come first, where any were asked for. -/
def Request.perform (classes : Classes) (cache : Cache) :
    Request → Option (Except Failure (List (String × String))) × Cache
  | .tokens context =>
    let (found, cache) := Discovery.tokens classes cache context
    (some found, cache)
  | .forget => (none, [])

/-- Does what is asked one after another. -/
def performAll (classes : Classes) (cache : Cache) :
    List Request → List (Option (Except Failure (List (String × String)))) × Cache
  | [] => ([], cache)
  | request :: later =>
    let (answer, cache) := request.perform classes cache
    let (answers, cache) := performAll classes cache later
    (answer :: answers, cache)

/-- How many types a cache holds. -/
def Cache.size (cache : Cache) : Nat :=
  cache.length

end ChestMenu.Discovery
