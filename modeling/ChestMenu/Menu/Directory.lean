import ChestMenu.Markup.Json
import ChestMenu.Markup.Utf8
import ChestMenu.Markup.Yaml.Document
import ChestMenu.Menu.Document
import ChestMenu.MenuName

/-!
# Menus from files

A file with the ending of JSON holds a JSON document, every other one a YAML document; an empty YAML
document is an empty mapping. A file that cannot be read, or whose document is no mapping, is noted
and left out. The menus of a directory are loaded in the order of the names of their files, and of
two files for one id the later wins.
-/
namespace ChestMenu

open ChestMenu.Markup ChestMenu.Text

variable [Machine]

/-- What there is under a name in a directory. -/
inductive FileContent where
  | text (cs : List Char)
  | bytes (bytes : List UInt8)
  | directory

/-- The content of a directory, by the names in it. -/
abbrev FileListing := OrderedMap String FileContent

/-- The characters of a file, with one kind of line end; nothing if it is not a text. -/
def FileContent.chars? : FileContent → Option (List Char)
  | text cs => some (joinLineEnds cs)
  | bytes bs => (decode? bs).map joinLineEnds
  | directory => none

/-- Reads the document of a file. -/
def readDocument (name : String) (content : FileContent) : Except Fault Value := do
  match content.chars? with
  | none => throw .malformed
  | some cs =>
    let value ←
      if lower (MenuName.ending name) = ".json" then Json.read cs
      else do
        let value ← Yaml.read cs
        pure (if value.truthy then value else .map [])
    match value.plain with
    | .map pairs => return .map pairs
    | _ => throw .malformed

/-- Loads the menu of a file, which may be missing. -/
def Menu.ofFile (name : String) (content : Option FileContent) (defaultSize : Value) :
    Loading (Option Menu) := do
  match (content.map (readDocument name)).getD (.error .malformed) with
  | .ok document => return some (← Menu.ofDocument document (MenuName.stem name) defaultSize)
  | .error .malformed =>
    Loading.note (.unreadableMenuFile name)
    return none
  | .error (.failed cause) => throw cause

/-- Loads the menus of a directory, which may be missing. -/
def Menu.ofDirectory (directory : String) (listing : Option FileListing) (defaultSize : Value) :
    Loading (OrderedMap String Menu) := do
  match listing with
  | none =>
    Loading.note (.noMenuDirectory directory)
    return []
  | some files =>
    let files := (files.filter fun (name, _) => MenuName.isMenuFile name).mergeSort
      fun (a, _) (b, _) => a ≤ b
    files.foldlM (fun menus (name, content) => do
      match ← Menu.ofFile name (some content) defaultSize with
      | some menu => return menus.put menu.id menu
      | none => return menus) []

end ChestMenu
