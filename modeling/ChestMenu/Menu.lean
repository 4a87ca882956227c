import ChestMenu.Action
import ChestMenu.Callback
import ChestMenu.Placeholder.Token
import ChestMenu.Resolver

/-!
# Menus

A menu is a grid of slots with items in them. An item may claim several slots; a paginated menu also
spreads a list of page items over its page slots, one page at a time.

Pages are counted from zero. A page item is found under its number in the list, and on its own page
slot it comes before every other item.
-/
namespace ChestMenu

open ChestMenu.Number

/-- The greatest size of a menu, and the usual one. -/
def fullSize : Int := 54

/-- What an item looks like, with placeholders in its name and its lore. -/
structure Template where
  material : String
  name : String := ""
  lore : List String := []
  amount : Int := 1

/-- An item as it is drawn. -/
structure RenderedItem where
  key : String
  material : String
  name : String := ""
  lore : List String := []
  amount : Int := 1
deriving Repr, DecidableEq

/-- An item of a menu. -/
structure Entry where
  template : Template
  slots : List Int := []
  actions : List Action := []
  priority : Int := 0
  clickable : Bool := true
  placeholders : Placeholder.Table := []
  dynamicPlaceholders : OrderedMap String Resolver := []
  visibleIf : Option String := none
  predicate : Option Resolver := none
  onClick : Option Callback := none

/-- A slot as a host names it: by its number, or by a truth value, which stands for zero or one. -/
inductive SlotName where
  | number (n : Int)
  | truth (b : Bool)
deriving Repr, DecidableEq

namespace SlotName

/-- The slot that a name stands for. -/
def slot : SlotName → Int
  | number n => n
  | truth b => if b then 1 else 0

/-- Whether a slot is named by a truth value. -/
def isTruth : SlotName → Bool
  | number _ => false
  | truth _ => true

/-- The text of a slot's name. -/
def shown : SlotName → String
  | number n => integerText n
  | truth b => if b then "True" else "False"

/-- The name that a value is. A number that is whole, of whatever kind, is one. -/
def ofValue? (v : Value) : Option SlotName :=
  match v.plain, v.numeric? with
  | .bool b, _ => some (truth b)
  | _, some (.fraction n den) => if n % den = 0 then some (number (n / den)) else none
  | _, _ => none

/-- The slots that a value lists; members that name no slot are passed over. -/
def listOf (v : Value) : Except Failure (List SlotName) := do
  return (← v.distinctMembers).filterMap ofValue?

end SlotName

/-- When an open menu is drawn again by itself: on the ticks that the interval divides, and then all
its slots, or the slots given. -/
structure RefreshPolicy where
  enabled : Bool := false
  interval : Int := 0
  slots : List SlotName := []
deriving Repr, DecidableEq

namespace RefreshPolicy

/-- The policy never to draw again. -/
def disabled : RefreshPolicy := {}

/-- The policy to draw again every so many ticks; no slots stand for all slots. -/
def forSlots (interval : Int) (slots : List Int) : RefreshPolicy :=
  { enabled := true, interval, slots := slots.map .number }

/-- The policy with slots that are given as values. Each has to be an integer; a truth value counts as
one. -/
def ofValues [Machine] (enabled : Bool) (interval : Int) (slots : List Value) :
    Except Failure RefreshPolicy := do
  let slots ← slots.mapM fun (slot : Value) =>
    match slot.plain with
    | .int n => pure (SlotName.number n)
    | .bool b => pure (.truth b)
    | _ => do throw (.refreshSlotNotInteger (← slot.inner))
  return { enabled, interval, slots }

/-- Whether all slots are drawn again. -/
def refreshesAll (policy : RefreshPolicy) : Bool :=
  policy.slots.isEmpty

/-- Whether a menu is drawn again on a tick. -/
def firesOn (policy : RefreshPolicy) (tick : Int) : Bool :=
  policy.enabled && 0 < policy.interval && tick % policy.interval == 0

end RefreshPolicy

/-- The members of a list from one place up to another; a negative place counts from the end. -/
def slice {α : Type} (start stop : Int) (xs : List α) : List α :=
  let place (n : Int) : Nat := (if n < 0 then n + xs.length else n).toNat
  (xs.take (place stop)).drop (place start)

/-- A slice from a natural number on has as many members as there are places in between, as far as the list goes. -/
theorem slice_natCast {α : Type} (start count : Nat) (xs : List α) :
    slice start (start + count) xs = (xs.drop start).take count := by
  have fromFront (n : Nat) : ¬((n : Int) < 0) := Int.not_lt.mpr (Int.natCast_nonneg n)
  rw [← Int.natCast_add, slice]
  simp only [fromFront, if_false, Int.toNat_natCast]
  rw [List.drop_take, Nat.add_sub_cancel_left]

/-- The page items of a menu and the slots that they are spread over. A fixed number of pages comes
before the one that the items need. -/
structure Pagination where
  slots : List Int := []
  items : List Entry := []
  pages : Option Int := none

namespace Pagination

/-- How many items a page has room for. -/
def slotsPerPage (p : Pagination) : Nat := p.slots.length

/-- The number of pages, at least one. -/
def totalPages (p : Pagination) : Int :=
  match p.pages with
  | some pages => max 1 pages
  | none =>
    if p.slots.isEmpty then 1
    else max 1 ((p.items.length + p.slots.length - 1) / p.slots.length : Nat)

/-- The first page is always there, whether the number of pages is fixed or counted. -/
theorem one_le_totalPages (p : Pagination) : 1 ≤ p.totalPages := by
  unfold totalPages
  split
  · exact Int.le_max_left 1 _
  · split
    · exact Int.le_refl 1
    · exact Int.le_max_left 1 _

/-- The items of a page with their slots. -/
def itemsOnPage (p : Pagination) (page : Int) : List (Int × Entry) :=
  if p.slots.isEmpty then []
  else
    let start := page * p.slotsPerPage
    p.slots.zip (slice start (start + p.slotsPerPage) p.items)

/-- The items of a page with their keys and slots. -/
def keyedItemsOnPage (p : Pagination) (page : Int) : List (String × Int × Entry) :=
  let first := page * p.slotsPerPage
  (p.itemsOnPage page).mapIdx fun index (slot, entry) =>
    ("page:" ++ integerText (first + index), slot, entry)

end Pagination

/-- A menu. -/
structure Menu where
  id : String
  title : String := "Menu"
  size : Int := fullSize
  items : OrderedMap String Entry := []
  placeholders : Placeholder.Table := []
  pagination : Option Pagination := none
  refresh : RefreshPolicy := .disabled
  placeable : List Int := []
  playerInventory : Bool := false
  inventoryHandler : Option String := none
  contextAware : Bool := false

namespace Menu

/-- Whether the menu has pages. -/
def isPaginated (m : Menu) : Bool := m.pagination.isSome

/-- The number of pages; a menu without pages has one. -/
def totalPages (m : Menu) : Int :=
  match m.pagination with
  | some p => p.totalPages
  | none => 1

/-- Whether things may be put into a slot. -/
def isPlaceable (m : Menu) (slot : Int) : Bool :=
  m.placeable.contains slot

/-- The page items of a page with their keys and slots. -/
def pageItems (m : Menu) (page : Int) : List (String × Int × Entry) :=
  match m.pagination with
  | some p => p.keyedItemsOnPage page
  | none => []

/-- The item that a click on a slot is for, with its key: the first that claims the slot, page items
first. -/
def itemAtSlot (m : Menu) (slot page : Int) : Option (String × Entry) :=
  match (m.pageItems page).find? fun (_, pageSlot, _) => pageSlot == slot with
  | some (key, _, entry) => some (key, entry)
  | none => m.items.find? fun (_, entry) => entry.slots.contains slot

/-- Changes the item with a key, if the menu has it. -/
def editItem (m : Menu) (key : String) (change : Entry → Entry) : Menu :=
  { m with items := m.items.adjust key change }

/-- Changes the page item at a place of the list. -/
def editPageItem (m : Menu) (place : Nat) (change : Entry → Entry) : Menu :=
  { m with pagination := m.pagination.map fun p => { p with items := p.items.modify place change } }

/-- The slots that are claimed by more than one item: slot, owner and claimant. The first claimant of
a slot owns it. -/
def overlaps (m : Menu) : List (Int × String × String) :=
  let claims := m.items.flatMap fun (key, entry) => entry.slots.map fun slot => (slot, key)
  claims.filterMap fun (slot, key) =>
    match claims.find? (·.1 == slot) with
    | some (_, owner) => if owner = key then none else some (slot, owner, key)
    | none => none

end Menu

end ChestMenu
