import ChestMenu.Click
import ChestMenu.Config
import ChestMenu.Effect
import ChestMenu.Handler.Menu
import ChestMenu.Handler.Scope
import ChestMenu.Session
import ChestMenu.Surface

/-!
# The state of an engine

An engine holds the menus, the open sessions with their surfaces, the registries, and the
bookkeeping of the refreshing. What an operation does to the outside is written into a journal.

An operation may break off; what it did before stays done.
-/
namespace ChestMenu

variable [Machine]

/-- What the outside gets to see, in the order in which it happened. -/
inductive Event where
  /-- The host is asked for an effect. -/
  | effect (effect : Effect)
  /-- A surface was drawn on. -/
  | drawn (surface : Surface)
  /-- A callback is called. -/
  | called (label : String) (info : CallInfo)
  /-- A verb of a callback gave a value. -/
  | gave (label verb : String) (value : Value)

/-- The state of an engine. Actors are kept by reference, so that a change of an actor shows in the
sessions of that actor; sessions and surfaces are kept by the ids of their actors. -/
structure EngineState where
  config : EngineConfig
  classes : Classes := {}
  actors : List Actor := []
  menus : OrderedMap String Menu := []
  directory : Option String := none
  sessions : Sessions := []
  screen : Screen := []
  openedSurfaces : Nat := 0
  legacyHandlers : HandlerRegistry
  contextHandlers : HandlerRegistry
  slotHandlers : SlotHandlers := []
  inventoryHandlers : InventoryHandlers := []
  placeholders : Placeholders := {}
  policies : OrderedMap String RefreshPolicy := []
  tick : Nat := 0
  lastRefresh : OrderedMap ActorKey Nat := []
  running : Bool := false
  ledger : Ledger := {}
  journal : List Event := []

/-- An operation of an engine. -/
abbrev Engine := ExceptT Failure (StateM EngineState)

namespace EngineState

/-- A new engine. The configuration names the scopes that its registries ask. -/
def ofConfig (config : EngineConfig) : Except Failure EngineState := do
  let legacyScopes ← HandlerScope.ofConfig config.legacyScopes
  let contextScopes ← HandlerScope.ofConfig config.contextScopes
  return {
    config
    legacyHandlers := { name := "legacy", scopes := legacyScopes }
    contextHandlers := { name := "context", scopes := contextScopes } }

/-- The actor that a reference names. -/
def actor (s : EngineState) (ref : Nat) : Actor :=
  s.actors.getD ref default

/-- The menu that a name stands for: the one with the very id, or else the first whose id differs
only in case. -/
def menu? (s : EngineState) (name : String) : Option Menu :=
  let id := MenuName.toId name
  (s.menus.get? id).or <|
    (s.menus.find? fun (candidate, _) => MenuName.key candidate == MenuName.key id).map (·.2)

/-- The session of an actor. -/
def session? (s : EngineState) (ref : Nat) : Option Session :=
  s.sessions.get? (s.actor ref).key

/-- The context of an actor's session, if there is one and it is of the type. -/
def context? (s : EngineState) (ref : Nat) (type : Option String) : Option Value :=
  (s.session? ref).bind fun session =>
    if session.hasContext && type.all (s.classes.isInstance session.context ·) then
      some session.context
    else none

/-- The policy for a menu: one that was registered for it comes before its own. -/
def policyFor (s : EngineState) (menu : Menu) : RefreshPolicy :=
  (s.policies.get? (MenuName.key menu.id)).getD menu.refresh

/-- The session that an actor gets who opens a menu now. Its surface is the next to be opened. -/
def newSession (s : EngineState) (ref : Nat) (menu : Menu) (context : Value) : Session where
  actor := ref
  menu := menu.id
  context
  openedTick := s.tick
  surface := some s.openedSurfaces

/-- The state in which an actor has entered a menu: there is a new session under the key of the actor,
with a surface that is still empty. -/
def entering (s : EngineState) (key : ActorKey) (ref : Nat) (menu : Menu) (context : Value) :
    EngineState :=
  { s with
    sessions := s.sessions.put key (s.newSession ref menu context)
    screen := s.screen.openSurface s.openedSurfaces (s.actor ref).id menu.title menu.size
    openedSurfaces := s.openedSurfaces + 1 }

/-- The state in which an actor has left a menu: the surface and the time of the last refresh are gone. -/
def leaving (s : EngineState) (key : ActorKey) : EngineState :=
  { s with screen := s.screen.erase key, lastRefresh := s.lastRefresh.erase key }

/-- What is drawn for a session: the title of the menu with its tokens replaced, and the items in all
slots or in some. -/
def drawing (s : EngineState) (session : Session) (menu : Menu) (slots : Option (List SlotName)) :
    ExceptT Failure Resolving (String × Grid) := do
  let actor := s.actor session.actor
  let view := some session.view
  let table ← s.placeholders.build s.classes actor menu view
  let title ← ExceptT.mk (pure (Placeholder.apply table menu.title))
  let wanted := slots.map (·.map (·.slot))
  let grid ← menu.layout s.classes actor view s.placeholders wanted
  return (title, grid)

/-- The state with a drawing on the surface of an actor. The journal tells of it if there is a surface. -/
def drawn (s : EngineState) (key : ActorKey) (title : String) (grid : Grid)
    (slots : Option (List SlotName)) : EngineState :=
  let screen := s.screen.draw key title grid slots
  { s with screen, journal := s.journal ++ (screen.get? key).toList.map .drawn }

/-- The open menus under the ids of their actors. -/
def openMenus (s : EngineState) : List (Value × Value) :=
  Value.ofPairs (s.sessions.map fun (_, session) =>
    ((s.actor session.actor).id, .text session.menu))

end EngineState

namespace Engine

/-- Writes into the journal. -/
def record (event : Event) : Engine Unit :=
  modify fun s => { s with journal := s.journal ++ [event] }

/-- Runs a step that resolves placeholders. -/
def resolving {α : Type} (step : Resolving α) : Engine α := do
  let s ← get
  let (result, ledger) := step.run { s.ledger with openMenus := s.openMenus.length }
  set { s with ledger }
  return result

/-- Leaves a notice. -/
def note (notice : Notice) : Engine Unit :=
  resolving (Resolving.note notice)

/-- Goes on with a result. -/
def ofExcept {α : Type} (result : Except Failure α) : Engine α :=
  ExceptT.mk (pure result)

/-- What an actor is kept under. The id has to be a value that can be a key. -/
def keyOf (ref : Nat) : Engine ActorKey := do
  ofExcept (ActorKey.ofValue? ((← get).actor ref).id)

/-- The session of an actor, if there is one. -/
def sessionOf (ref : Nat) : Engine (Option Session) := do
  return (← get).sessions.get? (← keyOf ref)

/-- Runs a step that loads menus. Its notices stay if it breaks off. -/
def loading {α : Type} (step : Loading α) : Engine α := do
  let (result, notices) := step.run.run []
  modify fun s => { s with ledger := { s.ledger with notices := s.ledger.notices ++ notices } }
  ofExcept result

/-- The notices and the journal since the last time, which are taken away. -/
def takeReports : StateM EngineState (List Notice × List Event) := do
  let s ← get
  set { s with journal := [], ledger := { s.ledger with notices := [] } }
  return (s.ledger.notices, s.journal)

end Engine

end ChestMenu
