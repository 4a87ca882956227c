import ChestMenu.Actor
import ChestMenu.Ledger

/-!
# Resolvers

A resolver is what a host registers to be asked for the value of a placeholder or for whether an
item is visible. A resolver is asked about an actor, and about the actor's context or session where
there is one. Its value becomes a token's text; a resolver that fails or has no value provides none.
-/
namespace ChestMenu

variable [Machine]

/-- What can be seen of an open menu: its id, its page, its context, the tick on which it was opened,
and whether it has a surface. -/
structure View where
  menu : String
  page : Int
  context : Value
  openedTick : Nat := 0
  hasSurface : Bool := false

/-- Whether an open menu has a context. -/
def View.hasContext (view : View) : Bool :=
  match view.context with
  | .null => false
  | _ => true

/-- What a resolver is asked about besides the actor. -/
inductive Topic where
  | nothing
  | context (value : Value)
  | view (view : View)

/-- A resolver. Each counting resolver has a number of its own. -/
inductive Resolver where
  /-- Always the same value. -/
  | const (value : Value)
  /-- Reports a failure. -/
  | raise (message : String)
  /-- An attribute of the actor. -/
  | actorAttribute (name : String)
  /-- One of two values, by the actor's level. -/
  | levelAtLeast (level : Int) (atLeast below : Value)
  /-- How often the resolver was asked. -/
  | counter (id : Nat)
  /-- A member or an attribute of the context. -/
  | contextField (name : String)
  /-- The texts of several resolvers in a row. -/
  | joined (parts : List Resolver)
  /-- Whether the session is on the page. -/
  | pageIs (page : Int)
  /-- The number of open menus. -/
  | openMenus
  /-- A function of what is asked about. -/
  | function (ask : Actor → Topic → Except Failure Value)
  /-- A value that is no resolver. -/
  | uncallable (typeName : String)
deriving Inhabited

/-- Whether a resolver can be asked. -/
def Resolver.isCallable : Resolver → Bool
  | uncallable _ => false
  | _ => true

namespace Resolver

/-- An attribute of an actor. -/
def ofActor (actor : Actor) (name : String) : Except Failure Value :=
  match name with
  | "id" => .ok actor.id
  | "name" => .ok actor.name
  | "health" => .ok actor.health
  | "level" => .ok actor.level
  | "permissions" => .ok (.set (Machine.arrange actor.permissions))
  | name => .error (.missingAttribute name)

/-- What can be seen of an open menu under a name. -/
def ofView (actor : Actor) (view : View) (name : String) : Except Failure Value :=
  match name with
  | "actor" => .ok (.foreign ("Actor " ++ actor.label))
  | "actor_id" => .ok actor.id
  | "menu_id" => .ok (.text view.menu)
  | "page" => .ok (.int view.page)
  | "context" => .ok view.context
  | "has_context" => .ok (.bool view.hasContext)
  | "opened_tick" => .ok (.int view.openedTick)
  | "surface" => .ok (if view.hasSurface then .foreign "surface" else .null)
  | name => .error (.missingAttribute name)

/-- An attribute of a value that is no method. -/
def readAttribute (classes : Classes) (v : Value) (name : String) : Except Failure Value :=
  match classes.read v name with
  | .ok (.value value) => .ok value
  | .ok (.method _) => .ok (.foreign "method")
  | .error cause => .error cause

/-- A field of what a resolver is asked about. -/
def ofTopic (classes : Classes) (actor : Actor) (topic : Topic) (name : String) :
    Except Failure Value :=
  match topic with
  | .nothing => .error (.missingAttribute name)
  | .context v =>
    match v.pairs? with
    | some pairs =>
      match Value.lookup? name pairs with
      | some value => .ok value
      | none => .error (.missingKey name)
    | none => readAttribute classes v name
  | .view view => ofView actor view name

/-- Whether a level reaches a bound. It has to be a number. -/
def reaches (level : Value) (bound : Int) : Except Failure Bool :=
  match level.numeric? with
  | some (.fraction num den) => .ok (bound * den ≤ num)
  | some (.infinite negative) => .ok !negative
  | none =>
    match level.plain with
    | .real _ => .ok false
    | _ => .error (.mismatchedTypes level.typeName "int")

/-- The page that a resolver is asked about. -/
def pageOf (classes : Classes) (topic : Topic) : Except Failure Value :=
  match topic with
  | .nothing => .error (.missingAttribute "page")
  | .context v => readAttribute classes v "page"
  | .view view => .ok (.int view.page)

mutual

/-- The value of a resolver. -/
def run (classes : Classes) (actor : Actor) (topic : Topic) :
    Resolver → ExceptT Failure Resolving Value
  | const value => return value
  | raise message => throw (.reported .runtime message)
  | actorAttribute name => ExceptT.mk (pure (ofActor actor name))
  | levelAtLeast level atLeast below => do
    return if ← ExceptT.mk (pure (reaches actor.level level)) then atLeast else below
  | counter id => return .int (← Resolving.count id)
  | contextField name => ExceptT.mk (pure (ofTopic classes actor topic name))
  | joined parts => return .text (String.join (← runAll classes actor topic parts))
  | pageIs page => do
    let present ← ExceptT.mk (pure (pageOf classes topic))
    return .bool (present.sameKey (.int page))
  | openMenus => return .int (← get).openMenus
  | function ask => ExceptT.mk (pure (ask actor topic))
  | uncallable typeName => throw (.notCallable typeName)

/-- The texts of the values of several resolvers. -/
def runAll (classes : Classes) (actor : Actor) (topic : Topic) :
    List Resolver → ExceptT Failure Resolving (List String)
  | [] => return []
  | part :: parts => do
    let value ← run classes actor topic part
    let text ← ExceptT.mk (pure value.shown)
    return text :: (← runAll classes actor topic parts)

end

/-- The text that a resolver provides. A failure of the resolver is noted and provides none; that its
value has no text is a failure of whoever asked. -/
def text? (classes : Classes) (actor : Actor) (topic : Topic) (resolver : Resolver) :
    ExceptT Failure Resolving (Option String) := do
  match ← ExceptT.lift (resolver.run classes actor topic).run with
  | .ok .null => return none
  | .ok (.record _ (.text s) _ _) => return some s
  | .ok value => return some (← ExceptT.mk (pure value.shown))
  | .error cause =>
    Resolving.note (.resolverFailed cause)
    return none

end Resolver

end ChestMenu
