import ChestMenu.Value.Text

/-!
# Actors

An actor is whoever has a menu open. An actor's attributes are whatever the host says they are;
texts and numbers are expected of them, and what needs one fails where another value stands.

Actors are kept apart by their ids: texts by their characters, and numbers by what they are equal
to.
-/
namespace ChestMenu

variable [Machine]

/-- What the id of an actor is kept under: a text, a fraction in lowest terms, where infinities have
no denominator, or what all values are kept under that are neither texts nor numbers. -/
inductive ActorKey where
  | text (s : String)
  | number (num : Int) (den : Nat)
  | unknown
deriving Repr, DecidableEq

/-- The key of an id. -/
def ActorKey.ofValue (id : Value) : ActorKey :=
  match id.plain, id.numeric? with
  | .text s, _ => text s
  | _, some (.fraction num den) =>
    let common := num.natAbs.gcd den
    number (num / common) (den / common)
  | _, some (.infinite negative) => number (if negative then -1 else 1) 0
  | _, none => unknown

/-- The key of an id, which has to be a value that can be a key. -/
def ActorKey.ofValue? (id : Value) : Except Failure ActorKey := do
  return .ofValue (← id.requireKey)

/-- Someone who opens menus and clicks on them. -/
structure Actor where
  id : Value
  name : Value
  health : Value := .real 20.0
  level : Value := .int 0
  permissions : List Value := []
deriving Inhabited

namespace Actor

/-- What an actor is kept under. -/
def key (actor : Actor) : ActorKey := .ofValue actor.id

/-- The name of an actor in notices. -/
def label (actor : Actor) : String := actor.name.label

/-- The id of an actor, if it is a text. -/
def textId? (actor : Actor) : Option String :=
  match actor.id with
  | .text id => some id
  | _ => none

/-- Whether an actor has a permission. -/
def hasPermission (actor : Actor) (permission : String) : Bool :=
  actor.permissions.any (·.sameKey (.text permission))

end Actor

end ChestMenu
