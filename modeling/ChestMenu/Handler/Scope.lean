import ChestMenu.Callback
import ChestMenu.MenuName
import ChestMenu.OrderedMap
import ChestMenu.Text.Quoted
import ChestMenu.Value.Text

/-!
# Named handlers in scopes

A handler is registered for everyone, for one menu or for one actor. A registry asks its scopes in a
fixed order, and the first that has a handler of the name wins. Names have no case and no blanks
around them, the ids of menus have no case, the ids of actors do.
-/
namespace ChestMenu

open ChestMenu.Text

variable [Machine]

/-- A scope of handlers. -/
inductive HandlerScope where
  | actor
  | menu
  | everywhere
  | other (name : String)
deriving Repr, DecidableEq

namespace HandlerScope

/-- The scope with a name. -/
def ofWord : String → HandlerScope
  | "actor" => actor
  | "menu" => menu
  | "global" => everywhere
  | name => other name

/-- The name of a scope. -/
def word : HandlerScope → String
  | actor => "actor"
  | menu => "menu"
  | everywhere => "global"
  | other name => name

/-- Whether a scope is one that handlers are looked for in. -/
def isKnown : HandlerScope → Bool
  | other _ => false
  | _ => true

/-- The scopes that a value of the configuration lists, in order. -/
def ofConfig (v : Value) : Except Failure (List HandlerScope) := do
  let members ← v.members
  let scope? : Value → Option HandlerScope
    | .text name => some (ofWord name)
    | _ => none
  let unknown := members.filter fun member => !(scope? member).any isKnown
  if unknown.isEmpty then return members.filterMap scope?
  else throw (.unknownHandlerScopes (← (Value.list unknown).shown))

/-- What a key of a scope is filed under. All scopes but the one for everyone need a key. -/
def fileKey (scope : HandlerScope) (key : Option String) : Except Failure (Option String) :=
  match scope, key with
  | everywhere, _ => .ok none
  | _, none | _, some "" => .error (.scopeKeyMissing scope.word)
  | menu, some id => .ok (some (MenuName.key id))
  | _, some key => .ok (some key)

end HandlerScope

/-- Where handlers are filed: a scope and a key in it. -/
abbrev Bucket := HandlerScope × Option String

/-- Handlers by name. -/
abbrev NamedHandlers := OrderedMap String Callback

/-- A registry of named handlers. -/
structure HandlerRegistry where
  name : String := "handlers"
  scopes : List HandlerScope
  buckets : OrderedMap Bucket NamedHandlers := []

namespace HandlerRegistry

/-- What a name of a handler is filed under. -/
def fileName (name : String) : String :=
  upper (trim name)

/-- Registers a handler. -/
def register (r : HandlerRegistry) (name : String) (handler : Callback) (scope : HandlerScope)
    (key : Option String) : Except Failure HandlerRegistry :=
  if !handler.isCallable then .error (.handlerNotCallable (quoted name))
  else if !r.scopes.contains scope then .error (.scopeNotConsulted r.name (quoted scope.word))
  else do
    let bucket := (scope, ← scope.fileKey key)
    let handlers := (r.buckets.get? bucket).getD []
    return { r with buckets := r.buckets.put bucket (handlers.put (fileName name) handler) }

/-- Removes a handler, if it is there. -/
def unregister (r : HandlerRegistry) (name : String) (scope : HandlerScope)
    (key : Option String) : Except Failure HandlerRegistry := do
  let bucket := (scope, ← scope.fileKey key)
  return { r with buckets := r.buckets.adjust bucket fun handlers => handlers.erase (fileName name) }

/-- The bucket that a scope is asked in; nothing if the scope needs a key and none is given. -/
def bucketFor? (scope : HandlerScope) (keys : HandlerScope → Option String) : Option Bucket :=
  match scope.fileKey (keys scope) with
  | .ok key => some (scope, key)
  | .error _ => none

/-- The handler of a name, and the scope that it was found in. -/
def lookup (r : HandlerRegistry) (name : String) (keys : HandlerScope → Option String) :
    Option (Callback × HandlerScope) :=
  r.scopes.findSome? fun scope => do
    let bucket ← bucketFor? scope keys
    let handlers ← r.buckets.get? bucket
    return (← handlers.get? (fileName name), scope)

/-- Removes all handlers of a scope that are filed under a key. -/
def clearScope (r : HandlerRegistry) (scope : HandlerScope) (key : Option String) :
    Except Failure HandlerRegistry := do
  return { r with buckets := r.buckets.erase (scope, ← scope.fileKey key) }

/-- Removes all handlers. -/
def clear (r : HandlerRegistry) : HandlerRegistry :=
  { r with buckets := [] }

/-- The registered names by bucket, sorted. -/
def snapshot (r : HandlerRegistry) : List (String × List String) :=
  r.buckets.map fun ((scope, key), handlers) =>
    (match key with
      | none => scope.word
      | some key => scope.word ++ ":" ++ key,
    handlers.keys.mergeSort)

end HandlerRegistry

end ChestMenu
