import ChestMenu.Menu.Directory

/-!
# The configuration of an engine

The members of a configuration are taken as they come and interpreted where they are used. A configuration that cannot
be read is noted, and the usual one stands in its place.
-/
namespace ChestMenu

open ChestMenu.Markup

variable [Machine]

/-- A configuration. -/
structure EngineConfig where
  tickSeconds : Value := .real 0.05
  menusDir : Value := .text "menus"
  defaultSize : Value := .int fullSize
  logLevel : Value := .text "INFO"
  legacyScopes : Value := .list [.text "actor", .text "menu", .text "global"]
  contextScopes : Value := .list [.text "menu", .text "global"]

namespace EngineConfig

/-- The members of a configuration by name, in order. -/
def members (c : EngineConfig) : List (String × Value) :=
  [("tick_seconds", c.tickSeconds), ("menus_dir", c.menusDir), ("default_size", c.defaultSize),
    ("log_level", c.logLevel), ("legacy_handler_scopes", c.legacyScopes),
    ("context_handler_scopes", c.contextScopes)]

/-- Sets a member; nothing if there is none of the name. -/
def set? (c : EngineConfig) (name : String) (v : Value) : Option EngineConfig :=
  match name with
  | "tick_seconds" => some { c with tickSeconds := v }
  | "menus_dir" => some { c with menusDir := v }
  | "default_size" => some { c with defaultSize := v }
  | "log_level" => some { c with logLevel := v }
  | "legacy_handler_scopes" => some { c with legacyScopes := v }
  | "context_handler_scopes" => some { c with contextScopes := v }
  | _ => none

/-- Whether the length of a tick is a number. -/
def hasTickLength (c : EngineConfig) : Bool :=
  match c.tickSeconds.plain with
  | .real _ => true
  | v => v.numeric?.isSome

/-- Whether two members are equal: texts, numbers, or lists of such. -/
private def sameMember : Value → Value → Bool
  | .list xs, .list ys => Value.sameKeys xs ys
  | v, w => v.sameKey w

/-- Whether a configuration is the usual one. -/
def isUsual (c : EngineConfig) : Bool :=
  (c.members.zip (members {})).all fun ((_, v), (_, w)) => sameMember v w

/-- Notes members of unknown names; the names have to be texts. -/
def noteUnknown (unknown : List Value) : Loading Unit := do
  let names ← unknown.mapM fun
    | .text name => pure name
    | key => throw (.mismatchedTypes "str" key.typeName)
  if !names.isEmpty then Loading.note (.unknownConfigKeys names.mergeSort)

/-- A configuration from the pairs of a mapping. Members of unknown names are noted. -/
def ofPairs (pairs : List (Value × Value)) : Loading EngineConfig := do
  let (config, unknown) := pairs.foldl (fun (config, unknown) (key, value) =>
    match key with
    | .text name =>
      match set? config name value with
      | some config => (config, unknown)
      | none => (config, unknown ++ [key])
    | key => (config, unknown ++ [key])) ((({} : EngineConfig)), ([] : List Value))
  noteUnknown unknown
  return config

/-- A configuration from a value, which has to be a mapping. The names of another collection are looked
at before it is refused. -/
def ofValue (v : Value) : Loading EngineConfig := do
  match v.plain with
  | .map pairs => ofPairs pairs
  | v =>
    let names ← Loading.ofExcept v.distinctMembers
    let isKnown : Value → Bool
      | .text name => (set? {} name .null).isSome
      | _ => false
    noteUnknown (names.filter (!isKnown ·))
    throw (.missingAttribute "items")

/-- The configuration that the document of a file holds. -/
def ofDocument (name : String) (document : Value) : Loading EngineConfig := do
  match document with
  | .map pairs => ofPairs pairs
  | _ =>
    Loading.note (.configNotAnObject name)
    return {}

/-- The configuration of a file, which may be missing. -/
def ofFile (name : String) (content : Option FileContent) : Loading EngineConfig := do
  match content with
  | none => return {}
  | some content =>
    match content.chars?.map Json.read with
    | some (.ok document) => ofDocument name document
    | _ =>
      Loading.note (.unreadableConfig name)
      return {}

end EngineConfig

end ChestMenu
