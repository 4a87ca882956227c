import ChestMenu.Engine.Callback

/-!
# Clicks on an open menu

A click past the slots of the menu is for the player's inventory, and one on a slot that things may
be put into is left alone. Otherwise the actions of the item in the slot are run in order, then the
item's callback is called, and last the callback of the slot.

Nothing that fails on the way keeps what comes after it from being done; each failure is noted. What
a callback does is up to the host: a click is dealt with for any way of calling callbacks.
-/
namespace ChestMenu.Engine

open ChestMenu.Text

variable [Machine]

/-- The sound of a turned page. -/
def pageTurnSound : String := "UI_BUTTON_CLICK"

/-- A text of an action with the actor's name filled in. The name has to be a text. -/
def withPlayer (actor : Actor) (text : String) : Engine String :=
  match actor.name.plain with
  | .text name => return replaceAll "\x7bplayer\x7d" name text
  | name => throw (.notReplaceable name.kindName)

/-- Runs a step; a failure is noted in the words chosen and goes no further. -/
def guarded (click : ClickContext) (notice : String → Failure → Notice) (step : Engine Unit) :
    Engine Unit :=
  tryCatch step fun cause => do
    note (notice ((← get).actor click.actor).label cause)

section

variable (calling : Calling)

/-- Calls the handler that is registered for a named action, if there is one. -/
def fireTrigger (name : String) (style : TriggerStyle) (click : ClickContext) : Engine Unit := do
  let s ← get
  let actor := s.actor click.actor
  match style with
  | .legacy =>
    let keys : HandlerScope → Option String
      | .actor => actor.textId?
      | .menu => some click.menu
      | _ => none
    match s.legacyHandlers.lookup name keys with
    | some (handler, _) =>
      let _ ← calling click.actor (.trigger actor.id click) handler
    | none => return ()
  | .context =>
    let keys : HandlerScope → Option String
      | .menu => some click.menu
      | _ => none
    match s.contextHandlers.lookup name keys with
    | some (handler, _) =>
      let _ ← calling click.actor (.context click) handler
    | none => return ()

/-- Turns the page of a menu that has pages, with a sound if it is turned. -/
def changePage (change : String) (click : ClickContext) : Engine Unit := do
  let s ← get
  match ← sessionOf click.actor with
  | none => return ()
  | some session =>
    match s.menu? session.menu with
    | none => return ()
    | some menu =>
      if menu.isPaginated then
        let page ← ofExcept (SimpleAction.targetPage change session.page)
        if ← setPage click.actor page then
          effect (.sound (s.actor click.actor).id pageTurnSound 1.0 1.0)

/-- Runs an action without a condition. -/
def runSimple (click : ClickContext) (action : SimpleAction) : Engine Unit := do
  let actor := (← get).actor click.actor
  match action with
  | .console text _ => effect (.console (← withPlayer actor text))
  | .player text => effect (.player actor.id (← withPlayer actor text))
  | .message text => effect (.message actor.id (← withPlayer actor text))
  | .broadcast text => effect (.broadcast (← withPlayer actor text))
  | .sound name volume pitch => effect (.sound actor.id name volume pitch)
  | .close =>
    let _ ← close click.actor
  | .openMenu name =>
    let _ ← openMenu click.actor name .null false
  | .changePage change => changePage change click
  | .trigger name style => fireTrigger calling name style click
  | .refresh =>
    let _ ← refresh click.actor

mutual

/-- Runs an action. A conditional one runs one of its branches, chosen in the state that it finds. A
failure is noted. -/
def runAction (click : ClickContext) : Action → Engine Unit
  | .simple action => guarded click (.actionFailed action.serialize) (runSimple calling click action)
  | .conditional condition text thenActions elseActions =>
    guarded click (.actionFailed (Action.conditional condition text thenActions elseActions).serialize) do
      let s ← get
      let page := (s.session? click.actor).map (·.page)
      if ← ofExcept (condition.evaluate (s.actor click.actor) page) then runActions click thenActions
      else runActions click elseActions

/-- Runs actions one after another. -/
def runActions (click : ClickContext) : List Action → Engine Unit
  | [] => return ()
  | action :: actions => do
    runAction click action
    runActions click actions

end

/-- Runs the actions of an item and calls its callback, if the item can be clicked. Gives the written
forms of the actions that were run. -/
def runEntry (click : ClickContext) (key : String) (entry : Entry) : Engine (List String) := do
  if !entry.clickable then return []
  runActions calling click entry.actions
  match entry.onClick with
  | none => pure ()
  | some callback =>
    guarded click (.itemCallbackFailed key) do
      let id := ((← get).actor click.actor).id
      let _ ← calling click.actor (.item id entry.template.material) callback
  return entry.actions.map (·.serialize)

/-- Calls the callback of the slot that was clicked, if there is one. -/
def fireSlot (click : ClickContext) : Engine Unit := do
  match (← get).slotHandlers.find? click.menu click.slot with
  | none => return ()
  | some callback =>
    guarded click (.slotCallbackFailed click.menu click.slot) do
      let id := ((← get).actor click.actor).id
      let _ ← calling click.actor (.slot id click) callback

/-- Deals with a click on a slot of the menu in which an item was found, or none. -/
def clickSlot (click : ClickContext) (found : Option (String × Entry)) : Engine ClickOutcome := do
  let executed ←
    match found with
    | some (key, entry) => runEntry calling click key entry
    | none => pure []
  fireSlot calling click
  return { itemKey := found.map (·.1), executed }

/-- Asks the handler of clicks in the player's inventory. An answer that is no decision is noted and
cancels the click, and so is a bad value that the handler reports or that the answer itself does when it
is compared or shown. -/
def clickInventory (click : ClickContext) (menu : Menu) : Engine ClickOutcome := do
  if !menu.playerInventory then return {}
  match (← get).inventoryHandlers.find? menu.id with
  | none => return {}
  | some handler =>
    let decision ← tryCatch
      (do ofExcept (InventoryDecision.ofAnswer (← calling click.actor (.context click) handler)))
      fun cause => if cause.isBadValue then return none else throw cause
    match decision with
    | none =>
      note (.noInventoryDecision menu.id)
      return {}
    | some .allow => return { cancelled := false }
    | some .cancel => return {}
    | some .cancelSilently => return { silent := true }

/-- Deals with a click of an actor, for a way of calling callbacks. -/
def clickWith (ref : Nat) (slot : Int) (type : ClickType) : Engine ClickOutcome := do
  let key ← keyOf ref
  let s ← get
  let actor := s.actor ref
  match s.sessions.get? key with
  | none => return { cancelled := false }
  | some session =>
    match s.menu? session.menu with
    | none =>
      note (.unknownMenuOpen actor.label session.menu)
      return {}
    | some menu =>
      if slot < 0 then return {}
      else if menu.size ≤ slot then
        clickInventory calling { actor := ref, menu := menu.id, slot, type } menu
      else if menu.isPlaceable slot then return { cancelled := false }
      else
        let clicked := s.screen.itemAt key slot
        clickSlot calling { actor := ref, menu := menu.id, slot, clicked, type }
          (menu.itemAtSlot slot session.page)

end

/-- Deals with a click of an actor. -/
def click (ref : Nat) (slot : Int) (type : ClickType) : Engine ClickOutcome :=
  clickWith call ref slot type

end ChestMenu.Engine
