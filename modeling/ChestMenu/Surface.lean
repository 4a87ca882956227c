import ChestMenu.Layout
import ChestMenu.Text.Half

/-!
# Surfaces

Surfaces are what actors see. An actor has at most one surface; drawing replaces its title and either
all its items or those of some slots. A drawing for an actor without a surface is lost.

A slot is kept under the name that it was first drawn under.
-/
namespace ChestMenu

open ChestMenu.Number

/-- How many slots a row has. -/
def rowWidth : Nat := 9

/-- The surface of an actor. Every opened surface has a number of its own; `renders` counts the
drawings on it. -/
structure Surface where
  number : Nat
  actor : Value
  title : String
  size : Int
  items : Grid := []
  /-- The slots that are kept under truth values. -/
  truths : List Int := []
  renders : Nat := 0

/-- A drawn item as a document. -/
def RenderedItem.document (item : RenderedItem) : Value :=
  .ofMembers [("item_key", .text item.key), ("material", .text item.material),
    ("name", .text item.name), ("lore", .list (item.lore.map .text)), ("amount", .int item.amount)]

namespace Surface

/-- Draws a slot: its item takes the place of what was there. A slot that has no item is emptied. -/
def drawSlot (items : Grid) (surface : Surface) (name : SlotName) : Surface :=
  let slot := name.slot
  match items.get? slot with
  | some item =>
    let isNew := !surface.items.has slot
    let truths := if name.isTruth && isNew then slot :: surface.truths else surface.truths
    { surface with items := surface.items.put slot item, truths }
  | none =>
    { surface with
      items := surface.items.erase slot
      truths := surface.truths.filter (· ≠ slot) }

/-- Draws on a surface: a new title and all items, or the items of some slots. -/
def draw (surface : Surface) (title : String) (items : Grid) (slots : Option (List SlotName)) :
    Surface :=
  let drawn :=
    match slots with
    | none => { surface with items, truths := [] }
    | some slots => slots.foldl (drawSlot items) surface
  { drawn with title, renders := surface.renders + 1 }

/-- The name that a slot is kept under. -/
def nameOf (surface : Surface) (slot : Int) : SlotName :=
  if surface.truths.contains slot then .truth (slot != 0) else .number slot

/-- A surface as a document, its items under their slots. -/
def document (surface : Surface) : Value :=
  .ofMembers [("actor_id", surface.actor), ("title", .text surface.title),
    ("size", .int surface.size), ("renders", .int surface.renders),
    ("items", .map (surface.items.map fun (slot, item) =>
      (.text (surface.nameOf slot).shown, item.document)))]

/-- The items under the names of their slots, in the order of the slots. -/
def sortedItems (surface : Surface) : List (SlotName × RenderedItem) :=
  (surface.items.mergeSort fun (a, _) (b, _) => a ≤ b).map fun (slot, item) =>
    (surface.nameOf slot, item)

/-- A text cut or filled up with spaces to a width. A negative width cuts from the end. -/
def cell (width : Int) (label : String) : String :=
  let shown := slice 0 width (Text.units label.toList)
  String.ofList (shown.flatten ++ List.replicate (width.toNat - shown.length) ' ')

/-- What a slot shows in the plain form: the name of its item or else the material, and the number of
an empty slot. -/
def slotLabel (surface : Surface) (slot : Int) : String :=
  match surface.items.get? slot with
  | some item => if item.name.isEmpty then item.material else item.name
  | none => "[" ++ integerText slot ++ "]"

/-- The lines of the plain form of a surface: the title, and the rows of cells. -/
def lines (surface : Surface) (width : Int) : List String :=
  let size := surface.size.toNat
  let rows := (List.range ((size + rowWidth - 1) / rowWidth)).map fun row =>
    let slots := (List.range size).filter fun slot => slot / rowWidth = row
    "|".intercalate (slots.map fun (slot : Nat) => cell width (surface.slotLabel slot))
  ("== " ++ surface.title ++ " ==") :: rows

/-- The usual width of a cell. -/
def usualWidth : Int := 12

/-- The plain form of a surface. -/
def format (surface : Surface) (width : Int) : String :=
  "\n".intercalate (surface.lines width)

end Surface

/-- The surfaces by actor. -/
abbrev Screen := OrderedMap ActorKey Surface

namespace Screen

/-- Opens an empty surface for an actor, in the place of the one that was there. -/
def openSurface (screen : Screen) (number : Nat) (actor : Value) (title : String) (size : Int) :
    Screen :=
  screen.put (.ofValue actor) { number, actor, title, size }

/-- Draws on the surface of an actor. -/
def draw (screen : Screen) (actor : ActorKey) (title : String) (items : Grid)
    (slots : Option (List SlotName)) : Screen :=
  screen.adjust actor fun surface => surface.draw title items slots

/-- The item that an actor sees in a slot. -/
def itemAt (screen : Screen) (actor : ActorKey) (slot : Int) : Option RenderedItem :=
  (screen.get? actor).bind fun surface => surface.items.get? slot

end Screen

end ChestMenu
