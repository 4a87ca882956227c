import ChestMenu.Engine.State

/-!
# Registering callbacks and placeholders with an engine

Menus may be named by their ids or by their files. The handlers of an actor go when the actor's menu
closes.
-/
namespace ChestMenu.Engine

/-- Changes one of the two registries of named handlers. -/
def withHandlers (legacy : Bool)
    (change : HandlerRegistry → Except Failure HandlerRegistry) : Engine Unit := do
  let s ← get
  if legacy then
    let legacyHandlers ← ofExcept (change s.legacyHandlers)
    set { s with legacyHandlers }
  else
    let contextHandlers ← ofExcept (change s.contextHandlers)
    set { s with contextHandlers }

/-- Registers a handler for everyone. -/
def registerHandler (name : String) (handler : Callback) (legacy : Bool) : Engine Unit :=
  withHandlers legacy (·.register name handler .everywhere none)

/-- Registers a handler for a menu. -/
def registerMenuHandler (menu name : String) (handler : Callback) (legacy : Bool) : Engine Unit :=
  withHandlers legacy (·.register name handler .menu (some (MenuName.toId menu)))

/-- Registers a handler for an actor. -/
def registerActorHandler (actor name : String) (handler : Callback) : Engine Unit :=
  withHandlers true (·.register name handler .actor (some actor))

/-- Registers the callback of a slot. -/
def registerSlotHandler (menu : String) (slot : Int) (callback : Callback) : Engine Unit := do
  let s ← get
  let slotHandlers ← ofExcept (s.slotHandlers.register (MenuName.toId menu) slot callback)
  set { s with slotHandlers }

/-- Registers the handler of clicks in the player's inventory. -/
def registerInventoryHandler (menu : String) (handler : Callback) : Engine Unit := do
  let s ← get
  let inventoryHandlers ← ofExcept (s.inventoryHandlers.register (MenuName.toId menu) handler)
  set { s with inventoryHandlers }

/-- Registers a placeholder. -/
def registerPlaceholder (name : String) (resolver : Resolver) (scope : PlaceholderScope) :
    Engine Unit := do
  let scope :=
    match scope with
    | .menu (some id) => .menu (some (MenuName.toId id))
    | scope => scope
  let s ← get
  let registry ← ofExcept (s.placeholders.registry.register name resolver scope)
  set { s with placeholders := { s.placeholders with registry } }

/-- Registers a resolver for the type of a context. -/
def registerTypeResolver (type name : String) (resolver : Resolver) : Engine Unit := do
  let s ← get
  let contextRegistry ← ofExcept (s.placeholders.contextRegistry.register type name resolver)
  set { s with placeholders := { s.placeholders with contextRegistry } }

end ChestMenu.Engine
