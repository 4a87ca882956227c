import ChestMenu.Engine.Session

/-!
# Refreshing by itself

Time passes in ticks; on each, the open menus whose policy asks for it are drawn again, and the tick
is noted as the time of the last refresh. A menu that cannot be drawn is noted and keeps no other
from being drawn.
-/
namespace ChestMenu.Engine

variable [Machine]

/-- Notes when an actor's menu was last refreshed. -/
def markRefreshed (ref : Nat) (tick : Nat) : Engine Unit := do
  let key ← keyOf ref
  modify fun s => { s with lastRefresh := s.lastRefresh.put key tick }

/-- Draws the menu of a session again, if its policy asks for it on this tick. -/
def refreshDue (tick : Nat) (session : Session) : Engine Unit := do
  let s ← get
  match s.menu? session.menu with
  | none => return ()
  | some menu =>
    let policy := s.policyFor menu
    if policy.firesOn tick then
      let _ ← redraw session.actor (if policy.refreshesAll then none else some policy.slots)
      markRefreshed session.actor tick

/-- Lets a tick pass, and gives its number. -/
def tick : Engine Nat := do
  modify fun s => { s with tick := s.tick + 1 }
  let s ← get
  for (_, session) in s.sessions do
    tryCatch (refreshDue s.tick session) fun cause =>
      note (.refreshFailed (s.actor session.actor).label cause)
  return s.tick

/-- Lets several ticks pass; the number of the last, or of the present one if none passes. -/
def tickTimes : Nat → Engine Unit
  | 0 => return ()
  | n + 1 => do
    let _ ← tick
    tickTimes n

/-- Draws an actor's menu again, whatever its policy. -/
def forceRefresh (ref : Nat) : Engine Unit := do
  let _ ← refresh ref
  markRefreshed ref (← get).tick

/-- Draws all open menus again. -/
def forceRefreshAll : Engine Unit := do
  for (_, session) in (← get).sessions do
    forceRefresh session.actor

/-- Starts the passing of time. -/
def start : Engine Unit :=
  modify fun s => { s with running := true }

/-- Stops the passing of time; the ticks are counted from zero again. If time was passing, the length
of a tick has to be a number; otherwise the ticks go on being counted from where they are. -/
def stopTime : Engine Unit := do
  let s ← get
  set { s with running := false }
  if s.running && !s.config.hasTickLength then
    throw (.mismatchedTypes s.config.tickSeconds.typeName "float")
  modify fun s => { s with tick := 0, lastRefresh := [] }

/-- Stops the engine and closes every open menu. -/
def stop : Engine Unit := do
  stopTime
  for (_, session) in (← get).sessions do
    let _ ← close session.actor

/-- Registers a policy for the menu that a name stands for. -/
def registerPolicy (name : String) (policy : RefreshPolicy) : Engine Unit :=
  modify fun s =>
    { s with policies := s.policies.put (MenuName.key (MenuName.toId name)) policy }

end ChestMenu.Engine
