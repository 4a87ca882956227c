import ChestMenu.Engine.Session

/-!
# The menus of an engine

Menus are registered, removed, loaded and read again. A menu that goes closes wherever it is open.
When the menus are read again, every open menu that is still there is drawn again, on its first page
if its page is gone.
-/
namespace ChestMenu.Engine

variable [Machine]

/-- Registers a menu under its id. -/
def registerMenu (menu : Menu) : Engine Unit :=
  modify fun s => { s with menus := s.menus.put menu.id menu }

/-- Changes the menu that a name stands for, if there is one; open menus are not drawn again. -/
def editMenu (name : String) (change : Menu → Menu) : Engine Unit := do
  match (← get).menu? name with
  | none => return ()
  | some menu => modify fun s => { s with menus := s.menus.put menu.id (change menu) }

/-- Drops the menu with an id and leaves the sessions as they are. -/
def dropMenu (id : String) : Engine Unit :=
  modify fun s => { s with menus := s.menus.erase id }

/-- Closes the sessions with a property, one after another. -/
def closeWhere (p : Session → Bool) : Engine Unit := do
  for (_, session) in (← get).sessions do
    if p session then
      let _ ← close session.actor

/-- Removes the menu that a name stands for, and gives it. -/
def unregisterMenu (name : String) : Engine (Option Menu) := do
  match (← get).menu? name with
  | none => return none
  | some menu =>
    modify fun s => { s with menus := s.menus.erase menu.id }
    closeWhere (·.menu == menu.id)
    return some menu

/-- Loads the menus of a directory and registers them. -/
def loadMenus (directory : String) (listing : Option FileListing) :
    Engine (OrderedMap String Menu) := do
  modify fun s => { s with directory := some directory }
  let loaded ← loading (Menu.ofDirectory directory listing (← get).config.defaultSize)
  for (_, menu) in loaded do
    registerMenu menu
  return loaded

/-- Brings a session in line with menus that were read again. -/
def reviveSession (session : Session) : Engine Unit := do
  let s ← get
  match s.menu? session.menu with
  | none =>
    let _ ← close session.actor
  | some menu =>
    if menu.totalPages ≤ session.page then
      set { s with sessions := s.sessions.setPage (s.actor session.actor).key 0 }
    let _ ← refresh session.actor

/-- Reads the menus of the directory that was loaded last again; they replace all menus. -/
def reloadMenus (listing : Option FileListing) : Engine (OrderedMap String Menu) := do
  match (← get).directory with
  | none =>
    note .reloadBeforeLoad
    return []
  | some directory =>
    let loaded ← loading (Menu.ofDirectory directory listing (← get).config.defaultSize)
    modify fun s => { s with menus := loaded }
    for (_, session) in (← get).sessions do
      reviveSession session
    return loaded

end ChestMenu.Engine
