import ChestMenu.Action.Reader
import ChestMenu.Menu
import ChestMenu.Slots

/-!
# Menus from documents

A document is a mapping with the title, the size and the items of a menu, and with sections for its
pages, for its refreshing and for clicks in the player's inventory. Every member may be left out,
and a member of a wrong kind counts as left out wherever that makes sense.

Of an item that has no material or claims no slot nothing is loaded. Items that claim the same slot
are loaded and noted.
-/
namespace ChestMenu

open ChestMenu.Number ChestMenu.Text

/-- A step that loads menus: it leaves notices, and it may break off. -/
abbrev Loading := ExceptT Failure (StateM (List Notice))

/-- Leaves a notice. -/
def Loading.note (notice : Notice) : Loading Unit :=
  modify (· ++ [notice])

/-- Goes on with a result. -/
def Loading.ofExcept {α : Type} (result : Except Failure α) : Loading α :=
  ExceptT.mk (pure result)

namespace MenuDocument

variable [Machine]

/-- The interval of a refreshing menu that names none. -/
def usualInterval : Int := 20

/-- A truth value: a text has to be a word for truth, any other value counts as it does elsewhere. -/
def flagOf (v : Value) (default : Bool) : Except Failure Bool :=
  match v with
  | .null => .ok default
  | .text s | .record _ (.text s) _ _ => .ok (["true", "yes", "on", "1"].contains (lower (trim s)))
  | v => v.truth

/-- An integer; what is none stands for the default. An infinite number breaks the loading off, and so
does an object that reports a failure. -/
def integerOf (v : Value) (default : Int) : Except Failure Int :=
  match v.toInteger with
  | .ok n => .ok n
  | .error cause => if cause.isNoNumber then .ok default else .error cause

/-- The size of a menu: rows of nine slots, one to six; anything else stands for the default. -/
def sizeOf (v : Value) (default : Int) : Except Failure Int := do
  let size ← integerOf v default
  return if size % 9 != 0 || size < 9 || fullSize < size then default else size

/-- The members of a section of a document; a section of another kind is empty. -/
def sectionOf (document : Value) (name : String) : Value :=
  .map ((document.get name).pairs?.getD [])

/-- The pairs of a mapping; any other value has none. -/
def pairsOf (v : Value) : List (Value × Value) :=
  v.pairs?.getD []

/-- A list of lines: nothing for a value that counts as false, and a text for one line. -/
def linesOf (v : Value) : Except Failure Value := do
  if !(← v.truth) then return .list []
  match v.plain with
  | .text _ => return .list [v]
  | _ => return v

/-- The own placeholders of an item. -/
def metadataOf (v : Value) : Except Failure Placeholder.Table := do
  return .ofPairs (← (pairsOf v).mapM fun (key, value) => do
    let name ← key.shown
    match value with
    | .null => return ("\x7b" ++ name ++ "\x7d", .text "")
    | value => return ("\x7b" ++ name ++ "\x7d", .text (← value.shown)))

/-- A text that counts only if its value counts as true. -/
def textIfTrue (v : Value) : Except Failure (Option String) := do
  if ← v.truth then return some (← v.shown) else return none

/-- An item of a document, if it is one, read where there is room for so many more calls. A page item
needs no slots. -/
def entryOf (calls : Nat) (document : Value) (needsSlots : Bool) : Except Failure (Option Entry) := do
  let material := document.get "material"
  if !(← material.truth) then return none
  let slots ← Slots.ofValueWithin calls ((document.get? "slot").getD (document.get "slots"))
  if needsSlots && slots.isEmpty then return none
  let lore ← linesOf (document.get "lore")
  let actions ← linesOf (document.get "actions")
  let template : Template :=
    { material := upper (← material.shown)
      name := ← ((document.get? "name").getD (.text "")).shown
      lore := ← (← lore.members).mapM (·.shown)
      amount := max 1 (← integerOf (document.get "amount") 1) }
  return some
    { template
      slots
      actions := ← Action.ofLines actions
      priority := ← integerOf (document.get "priority") 0
      clickable := ← flagOf (document.get "clickable") true
      placeholders := ← metadataOf (sectionOf document "metadata")
      visibleIf := ← textIfTrue (document.get "visible-if") }

/-- The items among the members of a section, by their keys. -/
def entriesOf (calls : Nat) (needsSlots : Bool) (members : List (Value × Value)) :
    Except Failure (List (String × Entry)) :=
  members.filterMapM fun (key, document) =>
    if document.pairs?.isSome then do
      let name ← key.shown
      return (← entryOf calls document needsSlots).map fun entry => (name, entry)
    else return none

/-- The page items of a document: a mapping or a list. They are read by a call inside the one for the
items that stand on every page, which is itself inside the one for the menu. -/
def pageItemsOf (v : Value) : Except Failure (List Entry) := do
  let members :=
    match v.plain with
    | .map pairs => pairs
    | .list xs => xs.map fun x => (.null, x)
    | _ => []
  return (← entriesOf (Machine.calls + 1) false members).map (·.2)

/-- The pages of a document, if it has any. -/
def paginationOf (document : Value) : Except Failure (Option Pagination) := do
  let pages := sectionOf document "pagination"
  if !(← flagOf (pages.get "enabled") false) then return none
  let slots ← Slots.ofValueWithin (Machine.calls + 3) (pages.get "slots")
  let items ← pageItemsOf (pages.get "items")
  let fixed ←
    match pages.get "pages" with
    | .null => pure none
    | v => do pure (some (← integerOf v 1))
  return some { slots, items, pages := fixed }

/-- The refresh policy of a document. -/
def refreshOf (document : Value) : Except Failure RefreshPolicy := do
  let refresh := sectionOf document "auto-refresh"
  if !(← flagOf (refresh.get "enabled") false) then return .disabled
  let interval ← integerOf (refresh.get "interval") usualInterval
  return .forSlots interval (← Slots.ofValueWithin (Machine.calls + 3) (refresh.get "slots"))

end MenuDocument

open MenuDocument

variable [Machine]

/-- Loads the menu with an id from a document. -/
def Menu.ofDocument (document : Value) (id : String) (defaultSize : Value) : Loading Menu := do
  let document ← Loading.ofExcept do
    if !(← document.truth) then return .map []
    else if document.pairs?.isSome then return document
    else throw (.missingAttribute "get")
  let member (name : String) : Value := document.get name
  let inventory := sectionOf document "player-inventory"
  let drawn ← Loading.ofExcept do
    let title ← ((document.get? "title").getD (.text "Menu")).shown
    let usualSize ← sizeOf defaultSize fullSize
    let size ← sizeOf ((document.get? "size").getD defaultSize) usualSize
    let placeable ← Slots.ofValueWithin (Machine.calls + 3) (member "placeable-slots")
    let contextAware ← flagOf (member "context-aware") false
    let items ← entriesOf (Machine.calls + 2) true (pairsOf (sectionOf document "items"))
    let menu : Menu :=
      { id, title, size, placeable := placeable.eraseDups, contextAware, items := .ofPairs items }
    return menu
  for (slot, owner, claimant) in drawn.overlaps do
    Loading.note (.slotClaimedTwice id slot owner claimant)
  Loading.ofExcept do
    let pagination ← paginationOf document
    let refresh ← refreshOf document
    let playerInventory ← flagOf (inventory.get "enabled") false
    let inventoryHandler ← textIfTrue (inventory.get "handler")
    return { drawn with pagination, refresh, playerInventory, inventoryHandler }

end ChestMenu
