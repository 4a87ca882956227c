import ChestMenu.Markup.Fault
import ChestMenu.Number.Integer

/-!
# Notices

A notice is what an operation reports beside its answer. An operation that can go on after a failure
does so and leaves a notice of it. A notice holds its cause; the text is put together only when it
is shown, in words that the reader of the notices may choose.
-/
namespace ChestMenu

open ChestMenu.Number

/-- How grave a notice is. -/
inductive Severity where
  | warning
  | error
deriving Repr, DecidableEq

/-- The part of the library that a notice comes from. -/
inductive Component where
  | loader
  | config
  | engine
  | dispatcher
  | refresh
  | placeholders
  | visibility
deriving Repr, DecidableEq

/-- The short name of a component. -/
def Component.word : Component → String
  | loader => "loader"
  | config => "config"
  | engine => "engine"
  | dispatcher => "dispatcher"
  | refresh => "refresh"
  | placeholders => "placeholders"
  | visibility => "visibility"

/-- The name of a component as notices begin with it. -/
def Component.title : Component → String
  | loader => "MenuLoader"
  | config => "EngineConfig"
  | engine => "MenuEngine"
  | dispatcher => "ClickDispatcher"
  | refresh => "RefreshScheduler"
  | placeholders => "Placeholders"
  | visibility => "Visibility"

/-- What there is to report. -/
inductive Notice where
  /-- Two items of a menu claim a slot. -/
  | slotClaimedTwice (menu : String) (slot : Int) (owner claimant : String)
  /-- A menu file is no document that a menu can be read from. -/
  | unreadableMenuFile (file : String)
  /-- The directory of menus does not exist. -/
  | noMenuDirectory (directory : String)
  /-- The configuration has members of unknown names. -/
  | unknownConfigKeys (keys : List String)
  /-- The configuration cannot be read. -/
  | unreadableConfig (file : String)
  /-- The configuration is a document of another kind. -/
  | configNotAnObject (file : String)
  /-- Menus are to be read again before they were read at all. -/
  | reloadBeforeLoad
  /-- An actor asks for a menu that does not exist. -/
  | unknownMenuRequested (menu actor : String)
  /-- An actor clicks in a menu that does not exist any more. -/
  | unknownMenuOpen (actor menu : String)
  /-- The callback of an item failed. -/
  | itemCallbackFailed (item actor : String) (cause : Failure)
  /-- The callback of a slot failed. -/
  | slotCallbackFailed (menu : String) (slot : Int) (actor : String) (cause : Failure)
  /-- An action failed. -/
  | actionFailed (action actor : String) (cause : Failure)
  /-- A handler of clicks in the player's inventory gave no decision. -/
  | noInventoryDecision (menu : String)
  /-- A menu could not be drawn again. -/
  | refreshFailed (actor : String) (cause : Failure)
  /-- A resolver of placeholders failed. -/
  | resolverFailed (cause : Failure)
  /-- The predicate of an item failed. -/
  | predicateFailed (actor : String) (cause : Failure)
deriving Repr, DecidableEq

/-- The words for what a notice speaks of. -/
structure Wording where
  cause : Failure → String := Failure.message
  document : String := "the document is malformed"
  directory : String → String := id
  resolver : String := "a resolver"

namespace Notice

/-- How grave a notice is. -/
def severity : Notice → Severity
  | unreadableMenuFile _ | itemCallbackFailed .. | slotCallbackFailed .. | actionFailed ..
  | refreshFailed .. => .error
  | _ => .warning

/-- The component that a notice comes from. -/
def component : Notice → Component
  | slotClaimedTwice .. | unreadableMenuFile _ | noMenuDirectory _ => .loader
  | unknownConfigKeys _ | unreadableConfig _ | configNotAnObject _ => .config
  | reloadBeforeLoad | unknownMenuRequested .. => .engine
  | unknownMenuOpen .. | itemCallbackFailed .. | slotCallbackFailed .. | actionFailed ..
  | noInventoryDecision _ => .dispatcher
  | refreshFailed .. => .refresh
  | resolverFailed _ => .placeholders
  | predicateFailed .. => .visibility

/-- What a notice says, without its component. -/
def body (words : Wording) : Notice → String
  | slotClaimedTwice menu slot owner claimant =>
    "Menu '" ++ menu ++ "': slot " ++ integerText slot ++ " claimed by '" ++ owner ++ "' and '" ++
      claimant ++ "'; clicks resolve to '" ++ owner ++ "'"
  | unreadableMenuFile file =>
    "Could not read menu file '" ++ file ++ "': " ++ words.document
  | noMenuDirectory directory =>
    "Menu directory '" ++ words.directory directory ++ "' does not exist"
  | unknownConfigKeys keys => "Ignoring unknown keys: " ++ ", ".intercalate keys
  | unreadableConfig file =>
    "Failed to load config '" ++ file ++ "': " ++ words.document ++ ". Using safe defaults."
  | configNotAnObject file =>
    "Config '" ++ file ++ "' is not a JSON object. Using safe defaults."
  | reloadBeforeLoad => "reload_menus called before load_menus"
  | unknownMenuRequested menu actor =>
    "Unknown menu '" ++ menu ++ "' requested by " ++ actor
  | unknownMenuOpen actor menu =>
    "Session of " ++ actor ++ " points at unknown menu '" ++ menu ++ "'"
  | itemCallbackFailed item actor cause =>
    "on_click for '" ++ item ++ "' failed for " ++ actor ++ ": " ++ words.cause cause
  | slotCallbackFailed menu slot actor cause =>
    "Slot callback " ++ menu ++ ":" ++ integerText slot ++ " failed for " ++ actor ++ ": " ++
      words.cause cause
  | actionFailed action actor cause =>
    "Action " ++ action ++ " failed for " ++ actor ++ ": " ++ words.cause cause
  | noInventoryDecision menu =>
    "Inventory handler for '" ++ menu ++ "' returned an unknown result"
  | refreshFailed actor cause =>
    "Refresh failed for " ++ actor ++ ": " ++ words.cause cause
  | resolverFailed cause => "Resolver " ++ words.resolver ++ " failed: " ++ words.cause cause
  | predicateFailed actor cause =>
    "Predicate failed for " ++ actor ++ ": " ++ words.cause cause

/-- The text of a notice. -/
def text (words : Wording) (notice : Notice) : String :=
  "[" ++ notice.component.title ++ "] " ++ notice.body words

end Notice

end ChestMenu
