import ChestMenu.Placeholder.Pipeline

/-!
# Layouts

A layout of a menu says which item is drawn in which slot. Items are placed in the order of their
priorities, equal ones in the order of the menu, and then the items of the page; what is placed
later covers what is there. Hidden items and slots outside the menu are passed over.
-/
namespace ChestMenu

variable [Machine]

/-- The drawn items by slot. -/
abbrev Grid := OrderedMap Int RenderedItem

/-- Whether an item is visible. A predicate comes before the item's expression, and one that fails
counts as visible and is noted. -/
def Entry.isVisible (classes : Classes) (entry : Entry) (actor : Actor) (view : Option View)
    (table : Placeholder.Table) : ExceptT Failure Resolving Bool := do
  match entry.predicate with
  | none => ExceptT.mk (pure (Placeholder.isVisibleIf table entry.visibleIf))
  | some predicate =>
    let topic := (view.map Topic.view).getD .nothing
    let answer ← ExceptT.lift (predicate.run classes actor topic).run
    match answer >>= Value.truth with
    | .ok visible => return visible
    | .error cause =>
      Resolving.note (.predicateFailed actor.label cause)
      return true

/-- An item with its tokens replaced. -/
def Entry.render (entry : Entry) (key : String) (table : Placeholder.Table) :
    Except Failure RenderedItem := do
  return {
    key
    material := entry.template.material
    name := ← Placeholder.apply table entry.template.name
    lore := ← entry.template.lore.mapM (Placeholder.apply table)
    amount := entry.template.amount }

/-- The items of a menu in the order in which they are placed, each with its key and its slots. -/
def Menu.placements (menu : Menu) (page : Int) : List (String × Entry × List Int) :=
  let items := menu.items.mergeSort fun (_, a) (_, b) => a.priority ≤ b.priority
  items.map (fun (key, entry) => (key, entry, entry.slots)) ++
    (menu.pageItems page).map fun (key, slot, entry) => (key, entry, [slot])

/-- Whether a slot is inside the menu and, if only some slots are wanted, among those. -/
def Menu.isTarget (menu : Menu) (wanted : Option (List Int)) (slot : Int) : Bool :=
  0 ≤ slot && slot < menu.size && wanted.all (·.contains slot)

/-- Places one item. An item without a slot to be drawn in is not asked anything. -/
def Menu.place (classes : Classes) (menu : Menu) (actor : Actor) (view : Option View)
    (base : Placeholder.Table) (wanted : Option (List Int)) (grid : Grid) :
    String × Entry × List Int → ExceptT Failure Resolving Grid
  | (key, entry, slots) => do
    let targets := slots.filter (menu.isTarget wanted)
    if targets.isEmpty then return grid
    let table ← Placeholders.forItem classes base entry actor
    if ← entry.isVisible classes actor view table then
      let item ← ExceptT.mk (pure (entry.render key table))
      return targets.foldl (fun grid slot => grid.put slot item) grid
    else return grid

/-- The layout of a menu for an actor, in all slots or only in those wanted. -/
def Menu.layout (classes : Classes) (menu : Menu) (actor : Actor) (view : Option View)
    (p : Placeholders) (wanted : Option (List Int)) : ExceptT Failure Resolving Grid := do
  let base ← p.build classes actor menu view
  (menu.placements ((view.map (·.page)).getD 0)).foldlM (fun grid placement =>
    menu.place classes actor view base wanted grid placement) []

end ChestMenu
