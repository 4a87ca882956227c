import ChestMenu.Menu
import ChestMenu.Placeholder.Registry

/-!
# The table of tokens for one drawing of a menu

The table is put together in layers, each of which comes before the ones below it: the page, the resolvers
for the type of the context, the fields of the context, the actor, the registered resolvers and the
menu's own placeholders. For each item its own placeholders come before all of these.
-/
namespace ChestMenu

open ChestMenu.Number

variable [Machine]

/-- Where the tokens of a drawing come from. -/
structure Placeholders where
  registry : PlaceholderRegistry := {}
  contextRegistry : ContextRegistry := []

namespace Placeholders

/-- The tokens of an actor and a context. -/
def ofContext (classes : Classes) (p : Placeholders) (actor : Actor) (context : Value) :
    ExceptT Failure Resolving Placeholder.Table := do
  let base : Placeholder.Table :=
    [("\x7bplayer\x7d", actor.name), ("\x7bplayer_uuid\x7d", actor.id)]
  match context with
  | .null => return base
  | context =>
    let fields ← ExceptT.mk (Resolving.withAccessors fun cache =>
      Discovery.tokens classes cache context)
    let typed ← p.contextRegistry.resolveAll classes actor context
    return (base.putAll (Placeholder.textTable fields)).putAll typed

/-- The tokens of the page, on a menu that has pages. -/
def ofPage (menu : Menu) (page : Int) : Except Failure Placeholder.Table := do
  if menu.isPaginated then
    let present ← integerShown (page + 1)
    let total ← integerShown menu.totalPages
    return [("\x7bpage\x7d", .text present), ("\x7btotal_pages\x7d", .text total)]
  else return []

/-- The table for an actor in a menu; without a view the actor is on the first page and has no
context. A context that fails to describe its fields breaks the building off. -/
def build (classes : Classes) (p : Placeholders) (actor : Actor) (menu : Menu)
    (view : Option View) : ExceptT Failure Resolving Placeholder.Table := do
  let own := Placeholder.tokenTable menu.placeholders
  let registered ← p.registry.resolveAll classes actor menu.id
  let context := (view.map (·.context)).getD .null
  let contextual ← p.ofContext classes actor context
  let paged ← ExceptT.mk (pure (ofPage menu ((view.map (·.page)).getD 0)))
  return ((own.putAll registered).putAll contextual).putAll paged

/-- The table for an item, above the table of the drawing. -/
def forItem (classes : Classes) (base : Placeholder.Table) (entry : Entry) (actor : Actor) :
    ExceptT Failure Resolving Placeholder.Table :=
  let table := base.putAll (Placeholder.tokenTable entry.placeholders)
  Resolver.putTexts classes actor .nothing table
    (entry.dynamicPlaceholders.map fun (name, resolver) => (Placeholder.token name, resolver))

end Placeholders

end ChestMenu
