import ChestMenu.Value.Text

/-!
# Reading the members of a document

These readers never fail: a member that is missing or of another kind reads as nothing, an empty
list, zero or the text `None`, which is the text of null.
-/
namespace ChestMenu.Value

variable [Machine]

/-- A value that is there, null being none. -/
def given? : Value → Option Value
  | null => none
  | v => some v

/-- The text of a value that is there. -/
def text? (v : Value) : Option String :=
  v.given?.map label

/-- The integer that a value stands for; zero if it stands for none. -/
def integer (v : Value) : Int :=
  v.toInteger.toOption.getD 0

/-- The members of a list or a tuple; any other value has none. -/
def items (v : Value) : List Value :=
  match v.plain with
  | list xs | tuple xs => xs
  | _ => []

/-- The texts of the members of a list. -/
def texts (v : Value) : List String := v.items.map label

/-- The integers that the members of a list stand for. -/
def integers (v : Value) : List Int := v.items.map integer

/-- The pairs of a mapping, under the texts of their keys; any other value has none. -/
def entries (v : Value) : List (String × Value) :=
  match v.plain with
  | map pairs => pairs.map fun (key, value) => (key.label, value)
  | _ => []

/-- The text of a member. -/
def textAt (v : Value) (name : String) : String := (v.get name).label

/-- The integer that a member stands for. -/
def integerAt (v : Value) (name : String) : Int := (v.get name).integer

/-- The members of a member that is a list. -/
def itemsAt (v : Value) (name : String) : List Value := (v.get name).items

/-- Whether a member counts as true. -/
def flagAt (v : Value) (name : String) : Bool := (v.get name).truthy

end ChestMenu.Value
