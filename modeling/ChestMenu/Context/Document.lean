import ChestMenu.Context.Class
import ChestMenu.Value.Member

/-!
# Classes as documents

The document of a class of context objects is a mapping with its name, its bases, its data fields,
its stored attributes and its members.
-/
namespace ChestMenu

variable [Machine]

/-- The member that a document describes. -/
def Member.ofDocument (document : Value) : Member :=
  match document.get? "raise" with
  | some message => .reports message.label
  | none => .answers (document.get "value")

/-- The method that a document describes. -/
def Method.ofDocument (document : Value) : Method :=
  { member := .ofDocument document
    static := document.flagAt "static"
    required := (document.integerAt "required").toNat
    optional := (document.integerAt "optional").toNat
    takesMore := document.flagAt "varargs"
    requiredKeywords := (document.integerAt "kwonly").toNat
    takesMoreKeywords := document.flagAt "varkw" }

/-- The class that a document describes. A single stored attribute may stand for itself. -/
def ContextClass.ofDocument (document : Value) : ContextClass :=
  let under {α : Type} (name : String) (read : Value → α) : List (String × α) :=
    (document.get name).entries.map fun (key, value) => (key, read value)
  { name := document.textAt "name"
    bases := (document.get "bases").texts
    dataFields := (document.get? "dataclass").map (·.texts)
    stores := (document.get? "slots").map fun
      | .text s => [s]
      | v => v.texts
    attributes := (document.get "attrs").entries
    properties := under "props" Member.ofDocument
    methods := under "methods" Method.ofDocument
    describe := (document.get? "describe").map Member.ofDocument }

end ChestMenu
