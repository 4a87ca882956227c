import ChestMenu.OrderedMap
import ChestMenu.Resolver

/-!
# Sessions

A session says which menu an actor has open, on which page and with which context. There is one
session for an actor at most.
-/
namespace ChestMenu

/-- An open menu. The actor is named by a reference into the table of actors, the surface by its
number. -/
structure Session where
  actor : Nat
  menu : String
  page : Int := 0
  context : Value := .null
  openedTick : Nat := 0
  surface : Option Nat := none

/-- What resolvers see of a session. -/
def Session.view (session : Session) : View where
  menu := session.menu
  page := session.page
  context := session.context
  openedTick := session.openedTick
  hasSurface := session.surface.isSome

/-- Whether a session has a context. -/
def Session.hasContext (session : Session) : Bool :=
  session.view.hasContext

/-- The sessions by the ids of their actors. -/
abbrev Sessions := OrderedMap ActorKey Session

namespace Sessions

/-- Sets the page of an actor's session. -/
def setPage (sessions : Sessions) (actor : ActorKey) (page : Int) : Sessions :=
  sessions.adjust actor fun session => { session with page }

/-- Sets the context of an actor's session. -/
def setContext (sessions : Sessions) (actor : ActorKey) (context : Value) : Sessions :=
  sessions.adjust actor fun session => { session with context }

end Sessions

end ChestMenu
