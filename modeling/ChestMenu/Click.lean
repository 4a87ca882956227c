import ChestMenu.Menu
import ChestMenu.Text.Case

/-!
# Clicks

Here is said which button was clicked, what a click comes to, and what a callback is told about it.
-/
namespace ChestMenu

open ChestMenu.Text

variable [Machine]

/-- How a slot was clicked. -/
inductive ClickType where
  | left
  | right
  | shiftLeft
  | shiftRight
  | middle
deriving Repr, DecidableEq

namespace ClickType

/-- The name of a way to click. -/
def word : ClickType → String
  | left => "LEFT"
  | right => "RIGHT"
  | shiftLeft => "SHIFT_LEFT"
  | shiftRight => "SHIFT_RIGHT"
  | middle => "MIDDLE"

/-- The way to click that a text names, in any case; every other text names the left button. -/
def ofText (text : String) : ClickType :=
  match upper text with
  | "RIGHT" => right
  | "SHIFT_LEFT" => shiftLeft
  | "SHIFT_RIGHT" => shiftRight
  | "MIDDLE" => middle
  | _ => left

/-- The way to click that the text of a value names. An integer too long for a text names the left
button, but an object may fail to give its own. -/
def ofValue (v : Value) : Except Failure ClickType :=
  match v.shown with
  | .ok text => .ok (ofText text)
  | .error cause => if cause.isBadValue then .ok left else .error cause

/-- Whether the left button was clicked. -/
def isLeft (type : ClickType) : Bool := type = left || type = shiftLeft

/-- Whether the right button was clicked. -/
def isRight (type : ClickType) : Bool := type = right || type = shiftRight

/-- Whether shift was held. -/
def isShift (type : ClickType) : Bool := type = shiftLeft || type = shiftRight

end ClickType

/-- What a click comes to: whether the host keeps things from moving, the item that was clicked, the
actions that were run, and whether the host need not show the actor's inventory again. -/
structure ClickOutcome where
  cancelled : Bool := true
  itemKey : Option String := none
  executed : List String := []
  silent : Bool := false
deriving Repr, DecidableEq

/-- What a handler is told about a click. -/
structure ClickContext where
  actor : Nat
  menu : String
  slot : Int
  clicked : Option RenderedItem := none
  type : ClickType := .left

/-- How a callback is called: with the context of a click, or with the plain parts of it. -/
inductive CallInfo where
  | context (click : ClickContext)
  | trigger (actor : Value) (click : ClickContext)
  | item (actor : Value) (material : String)
  | slot (actor : Value) (click : ClickContext)

end ChestMenu
