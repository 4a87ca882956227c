import ChestMenu.Engine.State

/-!
# Opening, closing and drawing menus

A session and its surface come and go together. When a session ends, by closing or by opening
another menu, the time of its last refresh and the handlers of its actor go with it.
-/
namespace ChestMenu.Engine

variable [Machine]

/-- Draws the menu of a session: the title with its tokens replaced, and all slots or some. -/
def render (session : Session) (menu : Menu) (slots : Option (List SlotName)) :
    Engine Unit := do
  let s ← get
  let (title, grid) ← ofExcept (← resolving (s.drawing session menu slots).run)
  let key ← keyOf session.actor
  modify fun s => s.drawn key title grid slots

/-- Ends a session that is no longer registered: its surface, its bookkeeping and the handlers of its
actor. Handlers are for actors whose ids are texts; an id that counts as false cannot have any. -/
def tearDown (session : Session) : Engine Unit := do
  let key ← keyOf session.actor
  let s ← get
  let actor := s.actor session.actor
  set (s.leaving key)
  if s.legacyHandlers.scopes.contains .actor && !(actor.id.truthy && actor.textId?.isNone) then
    let cleared ← ofExcept (s.legacyHandlers.clearScope .actor actor.textId?)
    modify fun s => { s with legacyHandlers := cleared }

/-- The context of a new session: the one given or, if none is given and the present one is to be kept,
that of the session before. -/
def nextContext (context : Value) (keep : Bool) (previous : Option Session) : Value :=
  match context, previous with
  | .null, some session => if keep then session.context else .null
  | context, _ => context

/-- Gives an actor a new session with a surface of its own, and draws the menu on it. -/
def enter (ref : Nat) (menu : Menu) (context : Value) : Engine Unit := do
  let key ← keyOf ref
  let s ← get
  set (s.entering key ref menu context)
  render (s.newSession ref menu context) menu none

/-- Opens a menu for an actor, and says whether the menu exists. The new session has the context
given; if none is given, `keep` carries over that of the session before. -/
def openMenu (ref : Nat) (name : String) (context : Value) (keep : Bool) : Engine Bool := do
  let s ← get
  match s.menu? name with
  | none =>
    note (.unknownMenuRequested name (s.actor ref).label)
    return false
  | some menu =>
    let previous ← sessionOf ref
    match previous with
    | some session => tearDown session
    | none => pure ()
    enter ref menu (nextContext context keep previous)
    return true

/-- Closes the menu of an actor, and says whether there was one. -/
def close (ref : Nat) : Engine Bool := do
  let key ← keyOf ref
  let s ← get
  match s.sessions.get? key with
  | none => return false
  | some session =>
    set { s with sessions := s.sessions.erase key }
    tearDown session
    return true

/-- Draws slots of an actor's menu again, and says whether there is one. -/
def redraw (ref : Nat) (slots : Option (List SlotName)) : Engine Bool := do
  match ← sessionOf ref with
  | none => return false
  | some session =>
    match (← get).menu? session.menu with
    | none => return false
    | some menu =>
      render session menu slots
      return true

/-- Draws an actor's menu again. -/
def refresh (ref : Nat) : Engine Bool :=
  redraw ref none

/-- Draws some slots of an actor's menu again. -/
def refreshSlots (ref : Nat) (slots : List SlotName) : Engine Bool :=
  redraw ref (some slots)

/-- Goes to a page of an actor's menu, and says whether there is such a page. -/
def setPage (ref : Nat) (page : Int) : Engine Bool := do
  match ← sessionOf ref with
  | none => return false
  | some session =>
    let s ← get
    match s.menu? session.menu with
    | none => return false
    | some menu =>
      if !menu.isPaginated || page < 0 || menu.totalPages ≤ page then return false
      else
        set { s with sessions := s.sessions.setPage (s.actor ref).key page }
        render { session with page } menu none
        return true

/-- Changes the context of an actor's session, and says whether there is one. -/
def updateContext (ref : Nat) (context : Value) : Engine Bool := do
  let key ← keyOf ref
  let s ← get
  if s.sessions.has key then
    set { s with sessions := s.sessions.setContext key context }
    return true
  else return false

/-- The tokens of an actor's menu. -/
def placeholderTable (ref : Nat) : Engine Placeholder.Table := do
  match ← sessionOf ref with
  | none => return []
  | some session =>
    let s ← get
    match s.menu? session.menu with
    | none => return []
    | some menu =>
      ofExcept (← resolving
        (s.placeholders.build s.classes (s.actor ref) menu (some session.view)).run)

end ChestMenu.Engine
