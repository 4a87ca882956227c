import ChestMenu.Value.Basic

/-!
# Effects

An effect is what the engine asks the host to do besides drawing. A log of effects keeps the latest
of them, as many as it has room for.
-/
namespace ChestMenu

/-- An effect on the host. Actors are named by their ids. -/
inductive Effect where
  | console (command : String)
  | player (actor : Value) (command : String)
  | message (actor : Value) (text : String)
  | broadcast (text : String)
  | sound (actor : Value) (name : String) (volume pitch : Float)

/-- The kind of an effect. -/
def Effect.kind : Effect → String
  | console _ => "console"
  | player .. => "player"
  | message .. => "message"
  | broadcast _ => "broadcast"
  | sound .. => "sound"

/-- The kind of an effect and its parts, as values. -/
def Effect.parts : Effect → String × List Value
  | console command => ("console", [.text command])
  | player actor command => ("player", [actor, .text command])
  | message actor text => ("message", [actor, .text text])
  | broadcast text => ("broadcast", [.text text])
  | sound actor name volume pitch => ("sound", [actor, .text name, .real volume, .real pitch])

/-- The latest effects, oldest first. -/
structure EffectLog where
  capacity : Nat := 500
  effects : List Effect := []

namespace EffectLog

/-- An empty log with room for so many effects. -/
def ofCapacity (capacity : Int) : Except Failure EffectLog :=
  if capacity < 0 then .error .negativeCapacity else .ok { capacity := capacity.toNat }

/-- Adds an effect; the oldest makes room for it. -/
def record (log : EffectLog) (effect : Effect) : EffectLog :=
  let effects := log.effects ++ [effect]
  { log with effects := effects.drop (effects.length - log.capacity) }

/-- The effects of a kind. -/
def ofKind (log : EffectLog) (kind : String) : List Effect :=
  log.effects.filter (·.kind == kind)

end EffectLog

end ChestMenu
