import ChestMenu.Proofs.Host
import ChestMenu.Proofs.Sessions

/-!
# What operations keep

Most operations of an engine are put together from opening, closing and drawing menus: ticks, refreshes that are
forced, menus that are registered, removed and read again, and clicks.

A property of the sessions and the screen has to be looked at in five places only. That it is upheld there is enough
for every operation that a host may ask for. A property that depends on menus or on time as well is watched: it is
looked at in what is done for one actor at a time, and in those of the other operations that it may depend on. A
property of the registries is tended if drawing a menu and leaving one keep it, and then all operations do but those
that register something.
-/
namespace ChestMenu

open Engine

/-- Two states that differ in nothing that sessions and surfaces depend on. Time may have stopped. -/
structure Alike (s t : EngineState) : Prop where
  actors : t.actors = s.actors
  config : t.config = s.config
  running : t.running = true → s.running = true
  sessions : t.sessions = s.sessions
  screen : t.screen = s.screen
  opened : t.openedSurfaces = s.openedSurfaces

variable [Machine]

/-- A property that is upheld by what the engine does to sessions and surfaces, if menus are opened for
the actors in question only. -/
structure Upheld (P : EngineState → Prop) (who : Nat → Prop) : Prop where
  alike : ∀ s t, Alike s t → P s → P t
  adjusted : ∀ s key change, (∀ session : Session, (change session).actor = session.actor) →
    (∀ session, (change session).surface = session.surface) → P s →
    P { s with sessions := s.sessions.adjust key change }
  opened : ∀ ref, who ref → ∀ name context keep, Keeps P (openMenu ref name context keep)
  closed : ∀ ref, Keeps P (close ref)
  drawn : ∀ session menu slots, Keeps P (render session menu slots)

/-- Two states that differ in nothing that menus, sessions, surfaces and the times of refreshes depend on either. -/
structure Unmoved (s t : EngineState) : Prop extends Alike s t where
  menus : t.menus = s.menus
  tick : t.tick = s.tick
  lastRefresh : t.lastRefresh = s.lastRefresh

/-- A property that is upheld by what the engine does for one actor at a time, if menus are opened for the actors in
question only. -/
structure Watched (P : EngineState → Prop) (who : Nat → Prop) : Prop where
  unmoved : ∀ s t, Unmoved s t → P s → P t
  opened : ∀ ref, who ref → ∀ name context keep, Keeps P (openMenu ref name context keep)
  closed : ∀ ref, Keeps P (close ref)
  turned : ∀ ref page, Keeps P (setPage ref page)
  redrawn : ∀ ref slots, Keeps P (redraw ref slots)
  updated : ∀ ref context, Keeps P (updateContext ref context)

namespace Engine

variable {P : EngineState → Prop}

/-- Refreshing a session that is due keeps what drawing again and noting the refresh keep. A drawing that fails is
caught, so both have to keep the property also by failing. -/
theorem keeps_refreshDue {number : Nat} {session : Session}
    (redrawn : ∀ slots, Keeps P (redraw session.actor slots))
    (marked : Keeps P (markRefreshed session.actor number)) :
    Keeps P (refreshDue number session) := by
  unfold refreshDue
  refine keeps_bind keeps_get fun s => ?_
  split
  · exact keeps_pure ()
  · dsimp only
    split
    · exact keeps_bind (redrawn _) fun _ => marked
    · exact keeps_pure ()

/-- A tick keeps what counting it, notices, drawing again and noting refreshes keep. The turns of the sessions are a
loop, and each of them is a step of these kinds. -/
theorem keeps_tick (counted : ∀ s, P s → P { s with tick := s.tick + 1 })
    (noted : ∀ notice, Keeps P (note notice)) (redrawn : ∀ ref slots, Keeps P (redraw ref slots))
    (marked : ∀ ref number, Keeps P (markRefreshed ref number)) : Keeps P tick := by
  unfold tick
  refine keeps_bind (keeps_modify counted) fun _ => keeps_bind keeps_get fun s => ?_
  refine keeps_bind ?_ fun _ => keeps_pure _
  apply keeps_forIn
  intro pair _ _
  refine keeps_bind (keeps_tryCatch (keeps_refreshDue (redrawn _) (marked _ _)) fun _ => noted _) fun _ => ?_
  exact keeps_pure _

/-- Forcing a refresh keeps what drawing again and noting the refresh keep. The refresh is noted whether there was a
session or not, and so the noting has to keep the property for every actor. -/
theorem keeps_forceRefresh {ref : Nat} (redrawn : Keeps P (redraw ref none))
    (marked : ∀ number, Keeps P (markRefreshed ref number)) : Keeps P (forceRefresh ref) :=
  keeps_bind redrawn fun _ => keeps_bind keeps_get fun _ => marked _

/-- Forcing all refreshes keeps what forcing each of them keeps. Whom they are forced for is read off the sessions at
the beginning. -/
theorem keeps_forceRefreshAll (forced : ∀ ref, Keeps P (forceRefresh ref)) :
    Keeps P forceRefreshAll := by
  unfold forceRefreshAll
  refine keeps_bind keeps_get fun s => keeps_bind ?_ fun _ => keeps_pure _
  apply keeps_forIn
  intro pair _ _
  exact keeps_bind (forced _) fun _ => keeps_pure _

/-- Bringing a session in line with the menus keeps what closing it, going to the first page and drawing again keep.
Which of the three is done depends on whether the menu is there and has the page. -/
theorem keeps_reviveSession {session : Session} (closed : Keeps P (close session.actor))
    (reset : ∀ s key, P s → P { s with sessions := s.sessions.setPage key 0 })
    (redrawn : Keeps P (redraw session.actor none)) : Keeps P (reviveSession session) := by
  have again : Keeps P (refresh session.actor >>= fun _ => pure ()) :=
    keeps_bind redrawn fun _ => keeps_pure ()
  unfold reviveSession
  apply keeps_get_bind
  intro s holds
  split
  · exact keeps_bind closed (fun _ => keeps_pure ()) s holds
  · dsimp only
    split
    · rw [outcome_bind_ok _ (outcome_set _ s)]
      exact again _ (reset s _ holds)
    · exact again s holds

omit [Machine] in
/-- Reading documents keeps what their notices keep. The menus that come of it are only handed on. -/
theorem keeps_loading {α : Type}
    (noticed : ∀ s notices, P s → P { s with ledger := { s.ledger with notices } }) (step : Loading α) :
    Keeps P (loading step) := by
  unfold loading
  dsimp only
  exact keeps_bind (keeps_modify fun s => noticed s _) fun _ => keeps_ofExcept _

omit [Machine] in
/-- Closing sessions one after another keeps what closing each of them keeps. The list is made before the first is
closed, so that a session may be gone when its turn comes. -/
theorem keeps_closeWhere (closed : ∀ ref, Keeps P (close ref)) (p : Session → Bool) :
    Keeps P (closeWhere p) := by
  unfold closeWhere
  refine keeps_bind keeps_get fun s => keeps_bind ?_ fun _ => keeps_pure _
  apply keeps_forIn
  intro pair _ _
  dsimp only
  split
  · exact keeps_bind (closed _) fun _ => keeps_pure _
  · exact keeps_pure _

omit [Machine] in
/-- Removing a menu keeps what taking it away and closing menus keep. The menu is taken away first, and then it is
closed wherever it is open. -/
theorem keeps_unregisterMenu (taken : ∀ s id, P s → P { s with menus := s.menus.erase id })
    (closed : ∀ ref, Keeps P (close ref)) (name : String) : Keeps P (unregisterMenu name) := by
  unfold unregisterMenu
  refine keeps_bind keeps_get fun s => ?_
  split
  · exact keeps_pure _
  · refine keeps_bind (keeps_modify fun s => taken s _) fun _ => ?_
    exact keeps_bind (keeps_closeWhere closed _) fun _ => keeps_pure _

/-- Loading menus keeps what remembering the directory, reading it and registering menus keep. No session is looked
at, also if a menu takes the place of one that is open. -/
theorem keeps_loadMenus (remembered : ∀ s directory, P s → P { s with directory := some directory })
    (noticed : ∀ s notices, P s → P { s with ledger := { s.ledger with notices } })
    (entered : ∀ menu, Keeps P (registerMenu menu)) (directory : String)
    (listing : Option FileListing) : Keeps P (loadMenus directory listing) := by
  unfold loadMenus
  refine keeps_bind (keeps_modify fun s => remembered s _) fun _ => ?_
  refine keeps_bind keeps_get fun s => keeps_bind (keeps_loading noticed _) fun loaded => ?_
  refine keeps_bind ?_ fun _ => keeps_pure _
  apply keeps_forIn
  intro pair _ _
  exact keeps_bind (entered _) fun _ => keeps_pure _

/-- Reading the menus again keeps what reading, replacing the menus and bringing sessions in line keep. Without a
directory there is a notice only. -/
theorem keeps_reloadMenus (noted : ∀ notice, Keeps P (note notice))
    (noticed : ∀ s notices, P s → P { s with ledger := { s.ledger with notices } })
    (replaced : ∀ s menus, P s → P { s with menus })
    (revived : ∀ session, Keeps P (reviveSession session)) (listing : Option FileListing) :
    Keeps P (reloadMenus listing) := by
  unfold reloadMenus
  refine keeps_bind keeps_get fun s => ?_
  split
  · exact keeps_bind (noted _) fun _ => keeps_pure _
  · refine keeps_bind keeps_get fun s => keeps_bind (keeps_loading noticed _) fun loaded => ?_
    refine keeps_bind (keeps_modify fun s => replaced s _) fun _ => ?_
    refine keeps_bind keeps_get fun s => keeps_bind ?_ fun _ => keeps_pure _
    apply keeps_forIn
    intro pair _ _
    exact keeps_bind (revived _) fun _ => keeps_pure _

omit [Machine] in
/-- Stopping the engine keeps what halting it, forgetting the time and closing menus keep. The time is forgotten
before the menus are closed, and what is closed is closed one after another. -/
theorem keeps_stop (halted : ∀ s, P s → P { s with running := false })
    (forgotten : ∀ s, P s → P { s with tick := 0, lastRefresh := [] })
    (closed : ∀ ref, Keeps P (close ref)) : Keeps P stop := by
  unfold stop stopTime
  refine keeps_bind ?_ fun _ => keeps_bind keeps_get fun s => keeps_bind ?_ fun _ => keeps_pure _
  · apply keeps_get_bind
    intro s holds
    rw [outcome_bind_ok _ (outcome_set _ s)]
    dsimp only
    split
    · exact halted s holds
    · exact forgotten _ (halted s holds)
  · apply keeps_forIn
    intro pair _ _
    exact keeps_bind (closed _) fun _ => keeps_pure _

omit [Machine] in
/-- Registering something that is looked at first keeps what the change by what was found keeps. If nothing is found
the registering is refused, and there is no change. -/
theorem keeps_registering_found {α : Type} (result : EngineState → Except Failure α)
    (change : EngineState → α → EngineState)
    (kept : ∀ s a, result s = .ok a → P s → P (change s a)) :
    Keeps P (do let s ← get; let a ← Engine.ofExcept (result s); set (change s a) : Engine Unit) := by
  apply keeps_get_bind
  intro s holds
  cases answer : result s with
  | error cause => exact holds
  | ok a => exact kept s a answer holds

omit [Machine] in
/-- Registering something keeps what the change keeps, whatever was found. All registries are changed in this way: a
new one is made of the old, and takes its place if that succeeds. -/
theorem keeps_registering {α : Type} (result : EngineState → Except Failure α)
    (change : EngineState → α → EngineState) (kept : ∀ s a, P s → P (change s a)) :
    Keeps P (do let s ← get; let a ← Engine.ofExcept (result s); set (change s a) : Engine Unit) :=
  keeps_registering_found result change fun s a _ => kept s a

end Engine

/-- The operations that are for no single actor and change menus, sessions or the times of refreshes, and those that
note such a time. -/
def HostCall.IsWide : HostCall → Prop
  | registerMenu _ | unregisterMenu _ | loadMenus .. | reloadMenus _ | tick | forceRefresh _ | forceRefreshAll
  | stop => True
  | _ => False

/-- An operation that changes no menus. -/
def HostCall.SparesMenus : HostCall → Prop
  | registerMenu _ | unregisterMenu _ | loadMenus .. | reloadMenus _ => False
  | _ => True

/-- The passing of time does not matter to a property, nor do the times of refreshes. -/
def Timeless (P : EngineState → Prop) : Prop :=
  ∀ s tick lastRefresh running, P s → P { s with tick, lastRefresh, running }

namespace Watched

variable {P : EngineState → Prop} {who : Nat → Prop} (watched : Watched P who)

include watched

/-- A step keeps the property that changes the state in nothing that matters to sessions, surfaces, menus and times. -/
theorem modified {change : EngineState → EngineState} (unmoved : ∀ s, Unmoved s (change s)) :
    Keeps P (modify change : Engine Unit) :=
  keeps_modify fun s => watched.unmoved s (change s) (unmoved s)

/-- A notice keeps the property, as it goes into the ledger alone. -/
theorem noted (notice : Notice) : Keeps P (note notice) :=
  fun s => watched.unmoved s _ ⟨⟨rfl, rfl, id, rfl, rfl, rfl⟩, rfl, rfl, rfl⟩

/-- What the engine does by itself for an actor in question keeps the property. These are the operations that actions
of items come to. -/
theorem served {ref : Nat} (asked : who ref) : Served P ref where
  told _ s := watched.unmoved s _ ⟨⟨rfl, rfl, id, rfl, rfl, rfl⟩, rfl, rfl, rfl⟩
  noted := watched.noted
  opened name := watched.opened ref asked name .null false
  closed := watched.closed ref
  turned := watched.turned ref
  refreshed := watched.redrawn ref none

/-- Registering something that is looked at first keeps the property, whatever the registry. -/
theorem registered {α : Type} (result : EngineState → Except Failure α)
    (change : EngineState → α → EngineState) (unmoved : ∀ s a, Unmoved s (change s a)) :
    Keeps P (do let s ← get; let a ← Engine.ofExcept (result s); set (change s a) : Engine Unit) :=
  keeps_registering result change fun s a => watched.unmoved s _ (unmoved s a)

/-- Every operation that a host may ask for keeps the property, if callbacks uphold it and the wide operations do,
which change menus or go through all sessions. -/
theorem run (c : HostCall) (calling : Calling) (asked : ∀ ref, c.actor? = some ref → who ref)
    (started : c = .start → ∀ s, P s → P { s with running := true })
    (wide : c.IsWide → Keeps P (c.run calling))
    (answers : ∀ ref, c.actor? = some ref → ∀ info callback, Keeps P (calling ref info callback)) :
    Keeps P (c.run calling) := by
  cases c with
  | registerMenu | unregisterMenu | loadMenus | reloadMenus | tick | forceRefresh | forceRefreshAll | stop =>
    exact wide trivial
  | openMenu ref name context keep => exact watched.opened ref (asked ref rfl) name context keep
  | close ref => exact watched.closed ref
  | setPage ref page => exact watched.turned ref page
  | refresh ref => exact watched.redrawn ref none
  | refreshSlots ref slots => exact watched.redrawn ref (some slots)
  | updateContext ref context => exact watched.updated ref context
  | updateAndRefresh ref context =>
    exact keeps_bind (watched.updated ref context) fun _ =>
      keeps_bind (watched.redrawn ref none) fun _ => keeps_pure ()
  | click ref slot type => exact keeps_clickWith (watched.served (asked ref rfl)) (answers ref rfl)
  | start => exact keeps_modify (started rfl)
  | changeHandlers legacy change =>
    cases legacy with
    | true =>
      exact watched.registered _ (fun s legacyHandlers => { s with legacyHandlers })
        fun s a => ⟨⟨rfl, rfl, id, rfl, rfl, rfl⟩, rfl, rfl, rfl⟩
    | false =>
      exact watched.registered _ (fun s contextHandlers => { s with contextHandlers })
        fun s a => ⟨⟨rfl, rfl, id, rfl, rfl, rfl⟩, rfl, rfl, rfl⟩
  | registerSlotHandler menu slot callback =>
    exact watched.registered _ (fun s slotHandlers => { s with slotHandlers })
      fun s a => ⟨⟨rfl, rfl, id, rfl, rfl, rfl⟩, rfl, rfl, rfl⟩
  | registerInventoryHandler menu handler =>
    exact watched.registered _ (fun s inventoryHandlers => { s with inventoryHandlers })
      fun s a => ⟨⟨rfl, rfl, id, rfl, rfl, rfl⟩, rfl, rfl, rfl⟩
  | registerPlaceholder name resolver scope =>
    exact watched.registered _
      (fun s registry => { s with placeholders := { s.placeholders with registry } })
      fun s a => ⟨⟨rfl, rfl, id, rfl, rfl, rfl⟩, rfl, rfl, rfl⟩
  | registerTypeResolver type name resolver =>
    exact watched.registered _
      (fun s contextRegistry => { s with placeholders := { s.placeholders with contextRegistry } })
      fun s a => ⟨⟨rfl, rfl, id, rfl, rfl, rfl⟩, rfl, rfl, rfl⟩
  | registerPolicy name policy =>
    exact watched.modified fun s => ⟨⟨rfl, rfl, id, rfl, rfl, rfl⟩, rfl, rfl, rfl⟩

section

variable (replaced : ∀ s menus, P s → P { s with menus })

include replaced

/-- Removing a menu keeps the property, if it does not matter which menus there are. What is left of it is the closing
of sessions. -/
theorem unregistered (name : String) : Keeps P (unregisterMenu name) :=
  keeps_unregisterMenu (fun s _ => replaced s _) watched.closed name

/-- Loading menus keeps the property, if it does not matter which menus there are. -/
theorem loaded (directory : String) (listing : Option FileListing) : Keeps P (loadMenus directory listing) :=
  keeps_loadMenus (fun s _ => watched.unmoved s _ ⟨⟨rfl, rfl, id, rfl, rfl, rfl⟩, rfl, rfl, rfl⟩)
    (fun s _ => watched.unmoved s _ ⟨⟨rfl, rfl, id, rfl, rfl, rfl⟩, rfl, rfl, rfl⟩)
    (fun _ => keeps_modify fun s => replaced s _) directory listing

variable (reset : ∀ s key, P s → P { s with sessions := s.sessions.setPage key 0 })

include reset

/-- Reading the menus again keeps the property, if the pages of sessions do not matter either. A session may be on a
page that is gone until its turn has come. -/
theorem reloaded (listing : Option FileListing) : Keeps P (reloadMenus listing) :=
  keeps_reloadMenus watched.noted
    (fun s _ => watched.unmoved s _ ⟨⟨rfl, rfl, id, rfl, rfl, rfl⟩, rfl, rfl, rfl⟩) replaced
    (fun _ => keeps_reviveSession (watched.closed _) reset (watched.redrawn _ none)) listing

/-- Every operation that changes the menus keeps the property then. -/
theorem run_menus {c : HostCall} {calling : Calling} (changes : ¬c.SparesMenus) : Keeps P (c.run calling) := by
  cases c with
  | registerMenu menu => exact keeps_modify fun s => replaced s _
  | unregisterMenu name => exact watched.unregistered replaced name
  | loadMenus directory listing => exact watched.loaded replaced directory listing
  | reloadMenus listing => exact watched.reloaded replaced reset listing
  | _ => exact absurd trivial changes

end

/-- Every operation that changes no menus keeps the property, if callbacks uphold it and time does not matter to it.
There is one case for each operation, and most go back to one that is for a single actor. -/
theorem run_sparing (timeless : Timeless P) {c : HostCall} {calling : Calling} (spares : c.SparesMenus)
    (asked : ∀ ref, c.actor? = some ref → who ref)
    (answers : ∀ ref, c.actor? = some ref → ∀ info callback, Keeps P (calling ref info callback)) :
    Keeps P (c.run calling) := by
  have marked (ref number : Nat) : Keeps P (markRefreshed ref number) :=
    keeps_markRefreshed fun s _ => timeless s s.tick _ s.running
  have forced (ref : Nat) : Keeps P (forceRefresh ref) := keeps_forceRefresh (watched.redrawn ref none) (marked ref)
  refine watched.run c calling asked (fun _ s => timeless s s.tick s.lastRefresh true) (fun isWide => ?_) answers
  cases c with
  | registerMenu | unregisterMenu | loadMenus | reloadMenus => exact spares.elim
  | tick =>
    exact keeps_tick (fun s => timeless s _ s.lastRefresh s.running) watched.noted watched.redrawn marked
  | forceRefresh ref => exact forced ref
  | forceRefreshAll => exact keeps_forceRefreshAll forced
  | stop =>
    exact keeps_stop (fun s => timeless s s.tick s.lastRefresh false) (fun s => timeless s 0 [] s.running)
      watched.closed
  | _ => exact isWide.elim

end Watched

namespace Upheld

variable {P : EngineState → Prop} {who : Nat → Prop}

section

variable (upheld : Upheld P who)

include upheld

/-- A notice keeps the property, since a state that differs in notices alone is alike. -/
theorem noted (notice : Notice) : Keeps P (note notice) :=
  fun s => upheld.alike s _ ⟨rfl, rfl, id, rfl, rfl, rfl⟩

/-- Drawing again keeps the property, as it is a drawing for a session that is looked up. -/
theorem redrawn (ref : Nat) (slots : Option (List SlotName)) : Keeps P (redraw ref slots) :=
  keeps_redraw fun s _ _ _ _ _ holds => upheld.drawn _ _ _ s holds

/-- Going to a page keeps the property, as it is an adjustment of the session and a drawing. -/
theorem turned (ref : Nat) (page : Int) : Keeps P (setPage ref page) :=
  keeps_setPage fun s _ _ _ _ _ _ holds =>
    upheld.drawn _ _ _ _ (upheld.adjusted s _ _ (fun _ => rfl) (fun _ => rfl) holds)

/-- Changing a context keeps the property, as it is an adjustment of the session. -/
theorem updated (ref : Nat) (context : Value) : Keeps P (updateContext ref context) :=
  keeps_updateContext fun s _ => upheld.adjusted s _ _ (fun _ => rfl) fun _ => rfl

/-- Noting a refresh keeps the property, since the times of refreshes make no state different. -/
theorem marked (ref number : Nat) : Keeps P (markRefreshed ref number) :=
  keeps_markRefreshed fun s _ => upheld.alike s _ ⟨rfl, rfl, id, rfl, rfl, rfl⟩

/-- Forcing a refresh keeps the property, as it is a drawing and a note. -/
theorem forced (ref : Nat) : Keeps P (forceRefresh ref) :=
  keeps_forceRefresh (upheld.redrawn ref none) (upheld.marked ref)

/-- A property that is upheld is watched, too: what is done for one actor at a time is put together from what upholds
it. -/
theorem watched : Watched P who where
  unmoved s t unmoved := upheld.alike s t unmoved.toAlike
  opened := upheld.opened
  closed := upheld.closed
  turned := upheld.turned
  redrawn := upheld.redrawn
  updated := upheld.updated

/-- Other menus in the place of those that are there keep the property. -/
theorem replaced (s : EngineState) (menus : OrderedMap String Menu) : P s → P { s with menus } :=
  upheld.alike s _ ⟨rfl, rfl, id, rfl, rfl, rfl⟩

/-- Going to the first page without a drawing keeps the property, as it is an adjustment of a session. -/
theorem reset (s : EngineState) (key : ActorKey) : P s → P { s with sessions := s.sessions.setPage key 0 } :=
  upheld.adjusted s _ _ (fun _ => rfl) fun _ => rfl

/-- Removing a menu keeps the property, with all the closing that it brings about. -/
theorem unregistered (name : String) : Keeps P (unregisterMenu name) :=
  upheld.watched.unregistered upheld.replaced name

/-- Bringing a session in line with menus that were read again keeps the property, in each of the three ways in which
it is done. -/
theorem revived (session : Session) : Keeps P (reviveSession session) :=
  keeps_reviveSession (upheld.closed _) upheld.reset (upheld.redrawn _ none)

/-- Reading the menus again keeps the property, however many sessions have their turns. -/
theorem reloaded (listing : Option FileListing) : Keeps P (reloadMenus listing) :=
  upheld.watched.reloaded upheld.replaced upheld.reset listing

/-- Stopping the engine keeps the property. The time ends, and every session is closed. -/
theorem stopped : Keeps P stop :=
  keeps_stop
    (fun s => upheld.alike s _ ⟨rfl, rfl, fun running => absurd running Bool.false_ne_true, rfl, rfl, rfl⟩)
    (fun s => upheld.alike s _ ⟨rfl, rfl, id, rfl, rfl, rfl⟩) upheld.closed

/-- Every operation that a host may ask for keeps the property, if callbacks uphold it. This is what the five places
that have to be looked at are enough for. -/
theorem run (c : HostCall) (calling : Calling) (asked : ∀ ref, c.actor? = some ref → who ref)
    (started : c = .start → ∀ s, P s → P { s with running := true })
    (answers : ∀ ref, c.actor? = some ref → ∀ info callback, Keeps P (calling ref info callback)) :
    Keeps P (c.run calling) := by
  refine upheld.watched.run c calling asked started (fun isWide => ?_) answers
  cases c with
  | registerMenu | unregisterMenu | loadMenus | reloadMenus =>
    exact upheld.watched.run_menus upheld.replaced upheld.reset fun spares => spares
  | tick =>
    exact keeps_tick (fun s => upheld.alike s _ ⟨rfl, rfl, id, rfl, rfl, rfl⟩) upheld.noted
      upheld.redrawn upheld.marked
  | forceRefresh ref => exact upheld.forced ref
  | forceRefreshAll => exact keeps_forceRefreshAll upheld.forced
  | stop => exact upheld.stopped
  | _ => exact isWide.elim

end

end Upheld

/-- Two states that differ in no registry, in no actor and in nothing that is known about types. Sessions,
surfaces and menus may have changed, time may have passed, and notices may have been left. -/
structure Alongside (s t : EngineState) : Prop where
  actors : t.actors = s.actors := by rfl
  classes : t.classes = s.classes := by rfl
  legacyHandlers : t.legacyHandlers = s.legacyHandlers := by rfl
  contextHandlers : t.contextHandlers = s.contextHandlers := by rfl
  slotHandlers : t.slotHandlers = s.slotHandlers := by rfl
  inventoryHandlers : t.inventoryHandlers = s.inventoryHandlers := by rfl
  placeholders : t.placeholders = s.placeholders := by rfl
  policies : t.policies = s.policies := by rfl
  accessors : t.ledger.accessors = s.ledger.accessors := by rfl

/-- A property that does not depend on sessions, surfaces and menus, and that drawing a menu and leaving one
keep. -/
structure Tended (P : EngineState → Prop) : Prop where
  alongside : ∀ s t, Alongside s t → P s → P t
  drawn : ∀ session menu slots, Keeps P (render session menu slots)
  left : ∀ session, Keeps P (tearDown session)

/-- The operations that change a registry. -/
def HostCall.Registers : HostCall → Prop
  | changeHandlers .. | registerSlotHandler .. | registerInventoryHandler .. | registerPlaceholder ..
  | registerTypeResolver .. | registerPolicy .. => True
  | _ => False

namespace Tended

variable {P : EngineState → Prop} (tended : Tended P)

include tended

/-- A change of the state beside what matters keeps the property. -/
theorem modified {change : EngineState → EngineState} (alongside : ∀ s, Alongside s (change s)) :
    Keeps P (modify change : Engine Unit) :=
  keeps_modify fun s => tended.alongside s (change s) (alongside s)

/-- What the outside gets to see keeps the property, as events go into a log alone. -/
theorem told (event : Event) : Keeps P (record event) :=
  tended.modified fun _ => {}

/-- A notice keeps the property, since it is left beside what matters. -/
theorem noted (notice : Notice) : Keeps P (note notice) :=
  fun s => tended.alongside s _ {}

/-- Entering a menu keeps the property: the session and the surface lie beside what matters, and the rest is a
drawing. -/
theorem entered (ref : Nat) (menu : Menu) (context : Value) : Keeps P (enter ref menu context) := by
  unfold enter
  apply keeps_keyOf_bind
  intro s _ holds
  rw [outcome_bind_ok _ (outcome_get s), outcome_bind_ok _ (outcome_set _ s)]
  exact tended.drawn _ _ _ _ (tended.alongside s _ {} holds)

/-- Opening a menu keeps the property, whether another one is left for it or not. -/
theorem opened (ref : Nat) (name : String) (context : Value) (keep : Bool) :
    Keeps P (openMenu ref name context keep) :=
  keeps_openMenu tended.noted (fun s menu context _ _ _ holds => tended.entered ref menu context s holds)
    fun s _ session _ _ _ _ holds => keeps_bind (tended.left session) (fun _ => tended.entered ref _ _) s holds

/-- Closing a menu keeps the property, as leaving it does. -/
theorem closed (ref : Nat) : Keeps P (close ref) :=
  keeps_close fun s session _ _ holds =>
    tended.left session _ (tended.alongside s _ {} holds)

/-- Drawing a menu again keeps the property, as every drawing does. -/
theorem redrawn (ref : Nat) (slots : Option (List SlotName)) : Keeps P (redraw ref slots) :=
  keeps_redraw fun s _ _ _ _ _ holds => tended.drawn _ _ _ s holds

/-- Going to a page keeps the property, for the page is in the session. -/
theorem turned (ref : Nat) (page : Int) : Keeps P (setPage ref page) :=
  keeps_setPage fun s _ _ _ _ _ _ holds =>
    tended.drawn _ _ _ _ (tended.alongside s _ {} holds)

/-- Changing a context keeps the property, for the context is in the session. -/
theorem updated (ref : Nat) (context : Value) : Keeps P (updateContext ref context) :=
  keeps_updateContext fun s _ => tended.alongside s _ {}

/-- Noting a refresh keeps the property, for the note lies beside what matters. -/
theorem marked (ref number : Nat) : Keeps P (markRefreshed ref number) :=
  keeps_markRefreshed fun s _ => tended.alongside s _ {}

/-- Forcing a refresh keeps the property, as drawing and noting do. -/
theorem forced (ref : Nat) : Keeps P (forceRefresh ref) :=
  keeps_forceRefresh (tended.redrawn ref none) (tended.marked ref)

/-- Bringing a session in line with menus that were read again keeps the property, as closing and drawing do. -/
theorem revived (session : Session) : Keeps P (reviveSession session) :=
  keeps_reviveSession (tended.closed _) (fun s _ => tended.alongside s _ {}) (tended.redrawn _ none)

/-- What the engine does by itself for an actor keeps the property. -/
theorem served (ref : Nat) : Served P ref where
  told := tended.told
  noted := tended.noted
  opened name := tended.opened ref name .null false
  closed := tended.closed ref
  turned := tended.turned ref
  refreshed := tended.redrawn ref none

/-- Every operation that a host may ask for keeps the property, if callbacks keep it and those operations do that
change a registry. These are left to be looked at one by one. -/
theorem run {c : HostCall} {calling : Calling} (registered : c.Registers → Keeps P (c.run calling))
    (answers : ∀ ref, c.actor? = some ref → ∀ info callback, Keeps P (calling ref info callback)) :
    Keeps P (c.run calling) := by
  cases c with
  | registerMenu menu => exact tended.modified fun _ => {}
  | unregisterMenu name =>
    exact keeps_unregisterMenu (fun s _ => tended.alongside s _ {}) tended.closed name
  | loadMenus directory listing =>
    exact keeps_loadMenus (fun s _ => tended.alongside s _ {}) (fun s _ => tended.alongside s _ {})
      (fun _ => tended.modified fun _ => {}) directory listing
  | reloadMenus listing =>
    exact keeps_reloadMenus tended.noted (fun s _ => tended.alongside s _ {})
      (fun s _ => tended.alongside s _ {}) tended.revived listing
  | openMenu ref name context keep => exact tended.opened ref name context keep
  | close ref => exact tended.closed ref
  | setPage ref page => exact tended.turned ref page
  | refresh ref => exact tended.redrawn ref none
  | refreshSlots ref slots => exact tended.redrawn ref (some slots)
  | updateContext ref context => exact tended.updated ref context
  | updateAndRefresh ref context =>
    exact keeps_bind (tended.updated ref context) fun _ =>
      keeps_bind (tended.redrawn ref none) fun _ => keeps_pure ()
  | click ref slot type => exact keeps_clickWith (tended.served ref) (answers ref rfl)
  | tick =>
    exact keeps_tick (fun s => tended.alongside s _ {}) tended.noted tended.redrawn tended.marked
  | forceRefresh ref => exact tended.forced ref
  | forceRefreshAll => exact keeps_forceRefreshAll tended.forced
  | start => exact tended.modified fun _ => {}
  | stop =>
    exact keeps_stop (fun s => tended.alongside s _ {}) (fun s => tended.alongside s _ {}) tended.closed
  | changeHandlers | registerSlotHandler | registerInventoryHandler | registerPlaceholder
  | registerTypeResolver | registerPolicy => exact registered trivial

end Tended

end ChestMenu
