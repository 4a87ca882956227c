import ChestMenu.Callback
import ChestMenu.Value.Member

/-!
# Callbacks as documents

The document of a callback is a mapping with a label and a list of verbs, each of which is a list of its word and its
arguments. Any other value stands for no callback and cannot be called.
-/
namespace ChestMenu

variable [Machine]

/-- The kind of failure that a name stands for; every other name stands for a plain one. -/
def ReportedKind.ofName : String → ReportedKind
  | "ValueError" => value
  | "TypeError" => type
  | "LookupError" => lookup
  | _ => runtime

/-- The verb with a word and arguments. Where a sound is played without a volume or a pitch, these
are one. -/
def Verb.ofWords? (word : Value) (arguments : List Value) : Option Verb :=
  let argument (place : Nat) : Value := arguments.getD place .null
  let name := (argument 0).label
  match word.label with
  | "flags" => some flags
  | "session" => some session
  | "message" => some (message name)
  | "sound" => some (sound name (arguments.getD 1 (.real 1.0)) (arguments.getD 2 (.real 1.0)))
  | "refresh" => some refresh
  | "close" => some close
  | "open" => some (openMenu name (argument 1))
  | "open_keep" => some (openKeeping name)
  | "update" => some (update (argument 0))
  | "add" => some (add name (argument 1))
  | "get" => some (get (argument 0).text?)
  | "has" => some (has name)
  | "require" => some (require name)
  | "page" => some (page (argument 0).integer)
  | "raise" => some (raise (.ofName (argument 1).label) name)
  | "return" => some (answer (argument 0))
  | _ => none

/-- The callback that a document describes. -/
def Callback.ofDocument (document : Value) : Callback :=
  match document with
  | .map _ =>
    .script (document.textAt "label") ((document.itemsAt "do").filterMap fun line =>
      match line.items with
      | word :: arguments => Verb.ofWords? word arguments
      | [] => none)
  | v => .uncallable v.typeName

end ChestMenu
