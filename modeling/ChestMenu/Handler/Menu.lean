import ChestMenu.Callback
import ChestMenu.MenuName
import ChestMenu.OrderedMap
import ChestMenu.Text.Quoted
import ChestMenu.Value.Key

/-!
# Handlers of menus

There are callbacks for the slots of menus, and handlers of clicks in the player's own inventory
while a menu is open. Both are filed under the id of the menu, whose case does not matter.
-/
namespace ChestMenu

open ChestMenu.Text

/-- The callbacks of slots, by menu and slot. -/
abbrev SlotHandlers := OrderedMap (String × Int) Callback

namespace SlotHandlers

/-- Registers the callback of a slot. -/
def register (r : SlotHandlers) (menu : String) (slot : Int) (callback : Callback) :
    Except Failure SlotHandlers :=
  if callback.isCallable then .ok (r.put (MenuName.key menu, slot) callback)
  else .error (.slotCallbackNotCallable menu slot)

/-- The callback of a slot. -/
def find? (r : SlotHandlers) (menu : String) (slot : Int) : Option Callback :=
  r.get? (MenuName.key menu, slot)

/-- Removes the callback of a slot. -/
def unregister (r : SlotHandlers) (menu : String) (slot : Int) : SlotHandlers :=
  r.erase (MenuName.key menu, slot)

/-- Removes the callbacks of all slots of a menu. -/
def clearMenu (r : SlotHandlers) (menu : String) : SlotHandlers :=
  r.filter fun ((key, _), _) => key != MenuName.key menu

end SlotHandlers

/-- The handlers of clicks in the player's inventory, by menu. -/
abbrev InventoryHandlers := OrderedMap String Callback

namespace InventoryHandlers

/-- Registers the handler of a menu. -/
def register (r : InventoryHandlers) (menu : String) (handler : Callback) :
    Except Failure InventoryHandlers :=
  if handler.isCallable then .ok (r.put (MenuName.key menu) handler)
  else .error (.inventoryHandlerNotCallable (quoted menu))

/-- The handler of a menu. -/
def find? (r : InventoryHandlers) (menu : String) : Option Callback :=
  r.get? (MenuName.key menu)

/-- Removes the handler of a menu. -/
def unregister (r : InventoryHandlers) (menu : String) : InventoryHandlers :=
  r.erase (MenuName.key menu)

end InventoryHandlers

/-- What a handler of clicks in the player's inventory decides. -/
inductive InventoryDecision where
  | allow
  | cancel
  | cancelSilently
deriving Repr, DecidableEq

/-- The word for a decision. -/
def InventoryDecision.word : InventoryDecision → String
  | allow => "ALLOW"
  | cancel => "CANCEL"
  | cancelSilently => "CANCEL_SILENT"

/-- The decisions, in the order in which an answer is compared with their words. -/
def InventoryDecision.all : List InventoryDecision :=
  [allow, cancel, cancelSilently]

/-- The decision that an answer of a handler stands for: the one under whose word it is found. An answer
that stands for none is shown to say so. -/
def InventoryDecision.ofAnswer [Machine] (answer : Value) : Except Failure (Option InventoryDecision) := do
  match ← answer.lookUp word all with
  | some decision => return some decision
  | none =>
    let _ ← answer.inner
    return none

end ChestMenu
