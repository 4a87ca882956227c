import ChestMenu.MenuName
import ChestMenu.Placeholder.Token
import ChestMenu.Resolver
import ChestMenu.Text.Quoted

/-!
# Registered placeholders

A resolver is registered for all menus, for one menu or for one actor; of several for one token the
one for the actor comes before the one for the menu, and that before the one for all. Resolvers for
the type of a context are kept by type; they apply to the instances of the type, those of its heirs
included.
-/
namespace ChestMenu

open ChestMenu.Text

variable [Machine]

/-- For whom a placeholder is registered. -/
inductive PlaceholderScope where
  | everywhere
  | menu (id : Option String)
  | actor (id : Option String)
  | unknown (name : String)
deriving Repr, DecidableEq

/-- The scope with a name, and the key that it is for. -/
def PlaceholderScope.ofName (name : String) (key : Option String) : PlaceholderScope :=
  match name with
  | "global" => everywhere
  | "menu" => menu key
  | "actor" => actor key
  | name => unknown name

/-- Resolvers by token. -/
abbrev ResolverLayer := OrderedMap String Resolver

/-- Puts the texts that resolvers provide into a table, one after another. -/
def Resolver.putTexts (classes : Classes) (actor : Actor) (topic : Topic) (table : Placeholder.Table)
    (resolvers : List (String × Resolver)) : ExceptT Failure Resolving Placeholder.Table :=
  resolvers.foldlM (fun table (token, resolver) => do
    match ← resolver.text? classes actor topic with
    | some text => return table.put token (.text text)
    | none => return table) table

/-- The registered placeholders. -/
structure PlaceholderRegistry where
  everywhere : ResolverLayer := []
  byMenu : OrderedMap String ResolverLayer := []
  byActor : OrderedMap ActorKey ResolverLayer := []

namespace PlaceholderRegistry

/-- The resolvers of a layer that is kept under a key. -/
def layer {α : Type} [DecidableEq α] (layers : OrderedMap α ResolverLayer) (key : α) :
    ResolverLayer :=
  (layers.get? key).getD []

/-- Registers a resolver. -/
def register (r : PlaceholderRegistry) (name : String) (resolver : Resolver)
    (scope : PlaceholderScope) : Except Failure PlaceholderRegistry :=
  if !resolver.isCallable then .error (.resolverNotCallable (quoted name))
  else
    let token := Placeholder.token name
    let putIn {α : Type} [DecidableEq α] (layers : OrderedMap α ResolverLayer) (key : α) :=
      layers.put key ((layer layers key).put token resolver)
    match scope with
    | .everywhere => .ok { r with everywhere := r.everywhere.put token resolver }
    | .menu none | .menu (some "") => .error .menuPlaceholderKeyMissing
    | .menu (some id) => .ok { r with byMenu := putIn r.byMenu (MenuName.key id) }
    | .actor none => .error .actorPlaceholderKeyMissing
    | .actor (some id) => .ok { r with byActor := putIn r.byActor (.text id) }
    | .unknown name => .error (.unknownPlaceholderScope (quoted name))

/-- The layers that an actor in a menu sees, the strongest last. -/
def layers (r : PlaceholderRegistry) (actor : Actor) (menu : String) : List ResolverLayer :=
  [r.everywhere, layer r.byMenu (MenuName.key menu), layer r.byActor actor.key]

/-- The texts of all tokens for an actor in a menu. Where a stronger resolver provides no text, the
weaker one's shows. -/
def resolveAll (classes : Classes) (r : PlaceholderRegistry) (actor : Actor) (menu : String) :
    ExceptT Failure Resolving Placeholder.Table :=
  Resolver.putTexts classes actor .nothing [] (r.layers actor menu).flatten

/-- The text of one token, from the strongest resolver that is registered for it. -/
def resolve (classes : Classes) (r : PlaceholderRegistry) (actor : Actor) (menu name : String) :
    ExceptT Failure Resolving (Option String) :=
  match (r.layers actor menu).reverse.findSome? (·.get? (Placeholder.token name)) with
  | some resolver => resolver.text? classes actor .nothing
  | none => return none

/-- Removes the resolvers for an actor. -/
def clearActor (r : PlaceholderRegistry) (id : String) : PlaceholderRegistry :=
  { r with byActor := r.byActor.erase (.text id) }

/-- Removes the resolvers for a menu. -/
def clearMenu (r : PlaceholderRegistry) (id : String) : PlaceholderRegistry :=
  { r with byMenu := r.byMenu.erase (MenuName.key id) }

end PlaceholderRegistry

/-- The resolvers for the types of contexts, in the order in which the types were first given one. -/
abbrev ContextRegistry := OrderedMap String ResolverLayer

namespace ContextRegistry

/-- Registers a resolver for a type. -/
def register (r : ContextRegistry) (type name : String) (resolver : Resolver) :
    Except Failure ContextRegistry :=
  if !resolver.isCallable then .error (.contextResolverNotCallable (quoted name))
  else
    .ok (r.put type (((r.get? type).getD []).put (Placeholder.token name) resolver))

/-- The tokens whose resolvers apply to a context, with the resolvers. A type that was given a
resolver later comes later, and so wins. -/
def matching (classes : Classes) (r : ContextRegistry) (context : Value) : ResolverLayer :=
  r.flatMap fun (type, layer) => if classes.isInstance context type then layer else []

/-- The texts of all tokens for a context. -/
def resolveAll (classes : Classes) (r : ContextRegistry) (actor : Actor) (context : Value) :
    ExceptT Failure Resolving Placeholder.Table :=
  match context with
  | .null => return []
  | context => Resolver.putTexts classes actor (.context context) [] (matching classes r context)

/-- A context that is there has the resolvers asked that apply to it, in their order. -/
theorem resolveAll_of_ne_null {classes : Classes} {r : ContextRegistry} {actor : Actor} {context : Value}
    (isThere : context ≠ .null) :
    r.resolveAll classes actor context =
      Resolver.putTexts classes actor (.context context) [] (r.matching classes context) := by
  unfold resolveAll
  split
  · exact absurd rfl isThere
  · rfl

end ContextRegistry

end ChestMenu
