import ChestMenu.Action.Reader
import ChestMenu.Callback.Document
import ChestMenu.Menu
import ChestMenu.Resolver.Document

/-!
# Menus that a host puts together itself

An outline is a mapping with the attributes of a menu, an item or a policy, each of which is taken
as it is given; resolvers and callbacks may stand among them. An outline may also say what is to
change in a menu or an item that exists.

Counting resolvers are numbered in the order in which they are read.
-/
namespace ChestMenu

variable [Machine]

/-- A step that reads an outline. The state is the number of the next counting resolver. -/
abbrev Outlining := ExceptT Failure (StateM Nat)

/-- Goes on with a result. -/
def Outlining.ofExcept {α : Type} (result : Except Failure α) : Outlining α :=
  ExceptT.mk (pure result)

/-- The resolver that a value stands for. -/
def Outlining.resolver (outline : Value) : Outlining Resolver :=
  ExceptT.lift (Resolver.ofDocument outline)

/-- The policy that a value stands for: null for the policy never to draw again, else an interval and
perhaps slots. -/
def RefreshPolicy.ofOutline (outline : Value) : Except Failure RefreshPolicy := do
  match outline with
  | .null => return .disabled
  | outline =>
    let slots ← (outline.get? "slots").mapM (·.members)
    ofValues true (outline.integerAt "interval") (slots.getD [])

/-- The action that a value stands for: a line, or the name of a handler under its style. -/
def Action.ofOutline? (outline : Value) : Option Action :=
  let named (name : Value) (style : TriggerStyle) : Option Action :=
    some (.simple (SimpleAction.triggerOf name.label.toList style))
  match outline.entries with
  | [("legacy", name)] => named name .legacy
  | [("context", name)] => named name .context
  | _ => Action.ofText? outline.label

/-- A table with the values that a mapping gives. -/
def Placeholder.Table.ofOutline (outline : Value) : Placeholder.Table :=
  .ofPairs outline.entries

namespace Entry

/-- An item with the attributes that an outline gives; the others stay as they are. -/
def update (entry : Entry) (outline : Value) : Outlining Entry :=
  outline.entries.foldlM (fun entry (name, value) => do
    let template := entry.template
    match name with
    | "material" => return { entry with template := { template with material := value.label } }
    | "name" => return { entry with template := { template with name := value.label } }
    | "lore" => return { entry with template := { template with lore := value.texts } }
    | "amount" => return { entry with template := { template with amount := value.integer } }
    | "slots" => return { entry with slots := value.integers }
    | "actions" => return { entry with actions := value.items.filterMap Action.ofOutline? }
    | "priority" => return { entry with priority := value.integer }
    | "clickable" => return { entry with clickable := value.truthy }
    | "static" => return { entry with placeholders := .ofOutline value }
    | "dyn" =>
      let dynamicPlaceholders ← value.entries.mapM fun (token, resolver) =>
        return (token, ← Outlining.resolver resolver)
      return { entry with dynamicPlaceholders }
    | "visible_if" => return { entry with visibleIf := value.text? }
    | "predicate" => return { entry with predicate := ← value.given?.mapM Outlining.resolver }
    | "on_click" => return { entry with onClick := value.given?.map Callback.ofDocument }
    | _ => return entry) entry

/-- The item that an outline describes. -/
def ofOutline (outline : Value) : Outlining Entry :=
  update { template := { material := "STONE" } } outline

end Entry

/-- The pages that an outline describes. -/
def Pagination.ofOutline (outline : Value) : Outlining Pagination := do
  let items ← (outline.itemsAt "items").mapM Entry.ofOutline
  return { items
           slots := (outline.get "slots").integers
           pages := (outline.get "pages").given?.map (·.integer) }

namespace Menu

/-- A menu with the attributes that an outline gives; the others stay as they are. -/
def update (menu : Menu) (outline : Value) : Outlining Menu :=
  outline.entries.foldlM (fun menu (name, value) => do
    match name with
    | "id" => return { menu with id := value.label }
    | "title" => return { menu with title := value.label }
    | "size" => return { menu with size := value.integer }
    | "items" =>
      let items ← value.entries.mapM fun (key, item) => return (key, ← Entry.ofOutline item)
      return { menu with items }
    | "placeholders" => return { menu with placeholders := .ofOutline value }
    | "pagination" => return { menu with pagination := ← value.given?.mapM Pagination.ofOutline }
    | "refresh" =>
      return { menu with refresh := ← Outlining.ofExcept (RefreshPolicy.ofOutline value) }
    | "placeable" => return { menu with placeable := value.integers.eraseDups }
    | "inventory" => return { menu with playerInventory := value.truthy }
    | "inventory_handler" => return { menu with inventoryHandler := value.text? }
    | _ => return menu) menu

/-- The menu that an outline describes. -/
def ofOutline (outline : Value) : Outlining Menu :=
  update { id := "" } outline

end Menu

end ChestMenu
