import ChestMenu.Proofs.Caching
import ChestMenu.Proofs.Freshness
import ChestMenu.Proofs.Isolation
import ChestMenu.Proofs.Loaded
import ChestMenu.Proofs.Reloading

/-!
# What becomes of every open menu when the menus are read again

If the reading fails, nothing has happened but that notices were left. Otherwise each session is dealt with by itself:
it is closed, with everything that belongs to it, if its menu is gone, and else it is left as it is but for its page,
and drawn.

The sessions are brought in line one after another, in the order of a list that was made before. What makes this come
to the same as dealing with each by itself is that no two sessions have the same key, and that bringing one in line
leaves alone what belongs to the others.
-/
namespace ChestMenu

open Engine

section

/-- What holds in every state that an engine is brought to for actors who have names: sessions are filed under the
keys of their actors, who have names, no key has two, and each has a surface. -/
structure WellKept (first s : EngineState) : Prop where
  filed : Filed first s
  named : ∀ pair ∈ s.sessions, first.Named pair.2.actor
  once : s.sessions.keys.Nodup
  shown : ∀ key, s.sessions.has key = true → s.screen.has key = true

namespace WellKept

variable {first s t : EngineState}

/-- Whether an engine is well kept depends on the actors, the sessions and the screen only. -/
theorem congr (well : WellKept first s) (actors : t.actors = s.actors) (sessions : t.sessions = s.sessions)
    (screen : t.screen = s.screen) : WellKept first t where
  filed := well.filed.of_subset actors fun pair member => by rwa [sessions] at member
  named := by
    rw [sessions]
    exact well.named
  once := by
    rw [sessions]
    exact well.once
  shown := by
    rw [sessions, screen]
    exact well.shown

/-- An actor with a session can leave the menu, since sessions are for actors with names. -/
theorem canLeave (well : WellKept first s) {key : ActorKey} {session : Session}
    (member : (key, session) ∈ s.sessions) : s.CanLeave session.actor := by
  have named := well.named _ member
  rw [EngineState.Named, ← well.filed.actor] at named
  exact EngineState.Named.canLeave named

/-- Changing a session for the same actor, with the same surface, leaves an engine well kept. -/
theorem adjusting (well : WellKept first s) (key : ActorKey) (change : Session → Session)
    (actor : ∀ session, (change session).actor = session.actor) :
    WellKept first { s with sessions := s.sessions.adjust key change } where
  filed := well.filed.adjusting key change actor
  named pair member := by
    rcases OrderedMap.mem_adjust member with there | ⟨session, there, rfl⟩
    · exact well.named pair there
    · rw [actor]
      exact well.named _ there
  once := by
    rw [OrderedMap.keys_adjust]
    exact well.once
  shown k has := by
    rw [OrderedMap.has_adjust] at has
    exact well.shown k has

/-- Entering a menu leaves an engine well kept, even where leaving the one before has taken the surface away. -/
theorem entering {ref : Nat} {screen : Screen} {lastRefresh : OrderedMap ActorKey Nat}
    {legacyHandlers : HandlerRegistry} (well : WellKept first s) (named : first.Named ref)
    (elsewhere : ∀ key, key ≠ (s.actor ref).key → s.screen.has key = true → screen.has key = true) (menu : Menu)
    (context : Value) :
    WellKept first ({ s with screen, lastRefresh, legacyHandlers }.entering (s.actor ref).key ref menu context) where
  filed := by
    have filed : Filed first { s with screen, lastRefresh, legacyHandlers } :=
      well.filed.of_subset rfl fun _ member => member
    exact filed.entering ref menu context
  named pair member := by
    rcases OrderedMap.mem_put member with there | rfl
    · exact well.named pair there
    · exact named
  once := OrderedMap.nodup_put well.once
  shown key has := by
    change (s.sessions.put _ _).has key = true at has
    change (screen.put (s.actor ref).key _).has key = true
    rw [OrderedMap.has, OrderedMap.get?_put] at has ⊢
    split at has
    · rename_i own
      rw [if_pos own]
      rfl
    · rename_i other
      rw [if_neg other]
      exact elsewhere key (Ne.symm other) (well.shown key has)

/-- Drawing leaves an engine well kept, as it opens and closes no surface. -/
theorem keeps_render [Machine] {session : Session} {menu : Menu} {slots : Option (List SlotName)} :
    Keeps (WellKept first) (render session menu slots) := by
  refine Engine.keeps_render (fun _ _ well => well.congr rfl rfl rfl) fun s title grid _ well => ?_
  refine ⟨well.filed.of_subset rfl fun _ member => member, well.named, well.once, fun key has => ?_⟩
  exact (OrderedMap.has_adjust _ _ _ _).trans (well.shown key has)

/-- Opening a menu for an actor with a name leaves an engine well kept, whether the drawing fails or not. -/
theorem keeps_openMenu [Machine] {ref : Nat} (named : first.Named ref) {name : String} {context : Value} {keep : Bool} :
    Keeps (WellKept first) (openMenu ref name context keep) := by
  apply Engine.keeps_openMenu
  · exact fun _ _ well => well.congr rfl rfl rfl
  · intro s menu context keyed _ _ well
    rw [outcome_enter keyed]
    exact keeps_render _ (well.entering named (fun _ _ has => has) menu context)
  · intro s menu session context keyed _ opened well
    have left := outcome_tearDown (well.canLeave (OrderedMap.mem_of_get? opened))
    rw [outcome_bind_ok _ left, outcome_enter (s := s.left session.actor) keyed]
    refine keeps_render _ (well.entering named (fun key other has => ?_) menu context)
    rw [← well.filed.key_of_session opened] at other
    change (s.screen.erase _).has key = true
    rw [OrderedMap.has_erase, decide_eq_false (Ne.symm other), has]
    rfl

/-- Closing a menu leaves an engine well kept: the session and the surface go together. -/
theorem keeps_close {ref : Nat} : Keeps (WellKept first) (close ref) := by
  apply Engine.keeps_close
  intro s session keyed opened well
  have left : outcome (tearDown session) { s with sessions := s.sessions.erase (s.actor ref).key } = (.ok (), _) :=
    outcome_tearDown (well.canLeave (OrderedMap.mem_of_get? opened))
  rw [left]
  refine ⟨well.filed.of_subset rfl fun _ member => (OrderedMap.mem_erase member).1,
    fun pair member => well.named pair (OrderedMap.mem_erase member).1, OrderedMap.nodup_erase well.once,
    fun key has => ?_⟩
  change (s.sessions.erase (s.actor ref).key).has key = true at has
  change (s.screen.erase (s.actor session.actor).key).has key = true
  rw [OrderedMap.has_erase, Bool.and_eq_true] at has ⊢
  rw [well.filed.key_of_session opened]
  exact ⟨has.1, well.shown key has.2⟩

/-- An engine stays well kept as long as menus are opened for actors with names. -/
theorem upheld [Machine] : Upheld (WellKept first) first.Named where
  alike _ _ alike well := well.congr alike.actors alike.sessions alike.screen
  adjusted _ key change actor _ well := well.adjusting key change actor
  opened _ named _ _ _ := keeps_openMenu named
  closed _ := keeps_close
  drawn _ _ _ := keeps_render

end WellKept

/-- An operation that is for no actor but such as have names. -/
def HostCall.IsForNamed (first : EngineState) (c : HostCall) : Prop :=
  ∀ ref, c.actor? = some ref → first.Named ref

/-- An engine is well kept whatever it was asked for, with actors who have names. The induction is on the calls. -/
theorem WellKept.of_reaches [Machine] {first s : EngineState} (idle : first.sessions = [])
    (run : Reaches (HostCall.IsForNamed first) first s) : WellKept first s := by
  have start : WellKept first first := {
    filed := ⟨rfl, by simp [idle]⟩
    named := by simp [idle]
    once := by simp [idle, OrderedMap.keys]
    shown := by simp [idle, OrderedMap.has, OrderedMap.get?] }
  refine run.holds (fun code => code.keeps (fun _ _ well => well.congr rfl rfl rfl) ?_) start
  intro c calling named answers
  exact upheld.run c calling named (fun _ _ well => well.congr rfl rfl rfl) answers

/-- A session on a page that a menu has: the one that it was on, or else the first. -/
def Session.within (session : Session) (menu : Menu) : Session :=
  { session with page := if session.page < menu.totalPages then session.page else 0 }

/-- Nothing is left of a menu that an actor had open: neither the session and the surface, nor the time of the last
refresh, nor handlers of the actor, and none is found where handlers are not kept for actors. -/
structure EngineState.Gone (s : EngineState) (ref : Nat) : Prop where
  session : s.sessions.get? (s.actor ref).key = none
  surface : s.screen.get? (s.actor ref).key = none
  lastRefresh : s.lastRefresh.get? (s.actor ref).key = none
  bucket : s.legacyHandlers.scopes.contains .actor = true →
    s.legacyHandlers.buckets.get? (.actor, (s.actor ref).textId?) = none
  handlers : ∀ name keys callback, keys HandlerScope.actor = (s.actor ref).textId? →
    s.legacyHandlers.lookup name keys ≠ some (callback, .actor)

/-- On the surface under a key there is what drawing a menu for a session gives: the title and all items. -/
def EngineState.Depicts [Machine] (s : EngineState) (key : ActorKey) (session : Session) (menu : Menu) : Prop :=
  ∃ surface, s.screen.get? key = some surface ∧
    answerOf (s.drawing session menu none) = .ok (surface.title, surface.items)

/-- A session was dealt with when the menus were replaced. It is gone if its menu is, and else it is there with a
page that its menu has, and was drawn. -/
structure Settled [Machine] (s : EngineState) (menus : OrderedMap String Menu) (key : ActorKey) (session : Session)
    (t : EngineState) : Prop where
  closed : { s with menus }.menu? session.menu = none → t.Gone session.actor
  kept : ∀ menu, { s with menus }.menu? session.menu = some menu →
    t.sessions.get? key = some (session.within menu) ∧ t.Depicts key (session.within menu) menu

/-- Where nothing lies under the id of an actor, no handler of the actor is found, and where handlers are not kept for
actors neither. So nothing of the actor is left that a later click could come upon. -/
theorem HandlerRegistry.lookup_ne_actor {r : HandlerRegistry} {id : Option String}
    (absent : r.scopes.contains .actor = true → r.buckets.get? (.actor, id) = none) {name : String}
    {keys : HandlerScope → Option String} (own : keys .actor = id) (callback : Callback) :
    r.lookup name keys ≠ some (callback, .actor) := by
  intro found
  unfold lookup at found
  obtain ⟨scope, asked, found⟩ := List.exists_of_findSome?_eq_some found
  obtain ⟨bucket, isBucket, found⟩ := Option.bind_eq_some_iff.mp found
  obtain ⟨handlers, held, found⟩ := Option.bind_eq_some_iff.mp found
  obtain ⟨handler, -, same⟩ := Option.bind_eq_some_iff.mp found
  cases same
  unfold bucketFor? at isBucket
  split at isBucket
  · rename_i filed
    cases isBucket
    rw [HandlerScope.fileKey_actor filed, own, absent (List.contains_iff_mem.mpr asked)] at held
    cases held
  · cases isBucket

/-- The state in which an actor has closed a menu. -/
def EngineState.closed (s : EngineState) (ref : Nat) : EngineState :=
  { s with sessions := s.sessions.erase (s.actor ref).key }.left ref

/-- The state in which the menu of an actor was drawn on a page, with what it has shown to be. -/
def EngineState.shown (s : EngineState) (ref : Nat) (page : Int) (ledger : Ledger) (title : String)
    (grid : Grid) : EngineState :=
  { s.turning ref page with ledger }.drawn (s.actor ref).key title grid none

/-- Nothing is left for an actor who has closed a menu: no session, no surface, no note and no handler. -/
theorem EngineState.gone_closed (s : EngineState) (ref : Nat) : (s.closed ref).Gone ref := by
  have bucket : (s.closed ref).legacyHandlers.scopes.contains .actor = true →
      (s.closed ref).legacyHandlers.buckets.get? (.actor, (s.actor ref).textId?) = none := by
    intro asked
    change (s.legacyHandlers.withoutActor _).scopes.contains .actor = true at asked
    rw [HandlerRegistry.scopes_withoutActor] at asked
    exact (HandlerRegistry.get?_withoutActor _ _ _).trans (if_pos ⟨asked, rfl⟩)
  constructor
  case session => exact (OrderedMap.get?_erase _ _ _).trans (if_pos rfl)
  case surface => exact (OrderedMap.get?_erase _ _ _).trans (if_pos rfl)
  case lastRefresh => exact (OrderedMap.get?_erase _ _ _).trans (if_pos rfl)
  case bucket => exact bucket
  case handlers => exact fun _ _ callback own => HandlerRegistry.lookup_ne_actor bucket own callback

namespace Engine

variable {s : EngineState} {session : Session} {menu : Menu}

/-- A session whose menu is gone is closed, and that does not fail for an actor who can leave. -/
theorem outcome_reviveSession_none [Machine] (can : s.CanLeave session.actor)
    (opened : s.session? session.actor = some session) (gone : s.menu? session.menu = none) :
    outcome (reviveSession session) s = (.ok (), s.closed session.actor) := by
  have left : outcome (tearDown session)
      { s with sessions := s.sessions.erase (s.actor session.actor).key } = (.ok (), _) :=
    outcome_tearDown can
  have closed := (outcome_close_some can.keyed opened).trans (outcome_bind_ok _ left)
  unfold reviveSession
  rw [outcome_bind_ok _ (outcome_get s), gone]
  exact outcome_bind_ok _ closed

/-- A session whose menu is there is put on a page that the menu has, the first if its own is gone, and drawn there. -/
theorem outcome_reviveSession_some [Machine] (keyed : s.Keyed session.actor)
    (opened : s.session? session.actor = some session) (known : s.menu? session.menu = some menu) :
    outcome (reviveSession session) s =
      outcome (render (session.within menu) menu none >>= fun _ => pure ())
        (s.turning session.actor (session.within menu).page) := by
  have turned : (s.turning session.actor (session.within menu).page).session? session.actor =
      some (session.within menu) :=
    (OrderedMap.get?_adjust _ _ _ _).trans ((if_pos rfl).trans (congrArg _ opened))
  have drawn := outcome_redraw (s := s.turning session.actor (session.within menu).page) keyed turned known none
  have refreshed : outcome (refresh session.actor >>= fun _ => pure ())
      (s.turning session.actor (session.within menu).page) =
      outcome (render (session.within menu) menu none >>= fun _ => pure ())
        (s.turning session.actor (session.within menu).page) := by
    unfold refresh
    rw [outcome_bind, drawn, ← outcome_bind, bind_assoc]
    simp only [pure_bind]
  rw [← refreshed]
  unfold reviveSession
  rw [outcome_bind_ok _ (outcome_get s), known]
  dsimp only
  split
  · rename_i outside
    have page : (session.within menu).page = 0 := if_neg (Int.not_lt.mpr outside)
    rw [outcome_bind_ok _ (outcome_set _ s), page]
    rfl
  -- On a page that the menu has the session stays as it is.
  · rename_i inside
    have page : (session.within menu).page = session.page := if_pos (Int.not_le.mp inside)
    have same : s.turning session.actor (session.within menu).page = s := by
      unfold EngineState.turning Sessions.setPage
      rw [OrderedMap.adjust_eq_self opened (by rw [page])]
    rw [same]

/-- A session whose menu is there and without a memory is drawn as it would be if nothing had been resolved before.
With that the result can be told before the other sessions have had their turns. -/
theorem outcome_reviveSession_drawn [Machine] (keyed : s.Keyed session.actor)
    (opened : s.session? session.actor = some session) (known : s.menu? session.menu = some menu)
    (pure : menu.IsPure) (registered : s.placeholders.IsPure) (sound : s.ledger.accessors.Sound s.classes)
    {title : String} {grid : Grid}
    (drawn : answerOf (s.drawing (session.within menu) menu none) = .ok (title, grid)) :
    ∃ ledger : Ledger, ledger.accessors.Sound s.classes ∧
      outcome (reviveSession session) s =
        (.ok (), s.shown session.actor (session.within menu).page ledger title grid) := by
  have steady : Steady s.classes (s.drawing (session.within menu) menu none) :=
    s.steady_drawing pure registered none
  obtain ⟨same, kept⟩ := steady (openLedger (s.turning session.actor (session.within menu).page)) sound
  rw [outcome_reviveSession_some keyed opened known]
  obtain ⟨result, ledger, step, done⟩ := render_cases (session.within menu) menu none
    (s.turning session.actor (session.within menu).page)
  rw [show (s.turning session.actor (session.within menu).page).drawing (session.within menu) menu none =
    s.drawing (session.within menu) menu none from rfl] at step
  rw [step, drawn] at same
  rw [step] at kept
  dsimp only at same kept
  subst same
  refine ⟨ledger, kept, ?_⟩
  rcases done with ⟨cause, failed, -⟩ | ⟨title', grid', -, answered, done⟩
  · cases failed keyed
  · cases answered
    exact outcome_bind_ok _ done

end Engine

/-- Nothing has changed for actors with other keys, and no handlers were registered. -/
structure OnlyFor (key : ActorKey) (s t : EngineState) : Prop where
  untouched : ∀ ref, key ≠ (s.actor ref).key → Untouched ref s t
  handlers : ∀ bucket, s.legacyHandlers.buckets.get? bucket = none →
    t.legacyHandlers.buckets.get? bucket = none

/-- When the menu of an actor was drawn on another page, the replacing goes on from there. -/
theorem Replacing.shown {s t : EngineState} {menus : OrderedMap String Menu} (replacing : Replacing s menus t)
    (ref : Nat) (page : Int) (ledger : Ledger) (title : String) (grid : Grid) :
    Replacing s menus (t.shown ref page ledger title grid) := by
  obtain ⟨menus, actors, classes, placeholders, scopes, sessions⟩ := replacing.turning (t.actor ref).key page
  exact ⟨menus, actors, classes, placeholders, scopes, sessions⟩

namespace OnlyFor

/-- Closing a menu changes what belongs to its actor and nothing else. -/
theorem closed (s : EngineState) (ref : Nat) : OnlyFor (s.actor ref).key s (s.closed ref) where
  untouched other apart :=
    (Untouched.erasing apart).trans
      (.left (s := { s with sessions := s.sessions.erase (s.actor ref).key }) apart)
  handlers bucket absent := by
    change (s.legacyHandlers.withoutActor _).buckets.get? bucket = none
    unfold HandlerRegistry.withoutActor
    split
    · rw [OrderedMap.get?_erase, absent, ite_self]
    · exact absent

/-- Drawing a menu on a page changes the session and the surface of its actor and nothing else. -/
theorem shown (s : EngineState) (ref : Nat) (page : Int) (ledger : Ledger) (title : String) (grid : Grid) :
    OnlyFor (s.actor ref).key s (s.shown ref page ledger title grid) where
  untouched other apart := by
    have turned : Untouched other s { s.turning ref page with ledger } :=
      (Untouched.adjusting apart fun session => { session with page }).trans (.of_same rfl rfl rfl rfl rfl)
    exact turned.trans (.drawn (s := { s.turning ref page with ledger }) apart title grid none)
  handlers _ absent := absent

end OnlyFor

namespace Settled

variable {s t u : EngineState} {menus : OrderedMap String Menu} {key : ActorKey} {session : Session}

/-- What was dealt with stays so while a session of another actor is brought in line, since that changes things under
another key. -/
theorem onlyFor [Machine] {other : ActorKey} (settled : Settled s menus key session t)
    (filed : (t.actor session.actor).key = key) (apart : other ≠ key) (only : OnlyFor other t u)
    (before : Replacing s menus t) (after : Replacing s menus u) : Settled s menus key session u := by
  subst filed
  have untouched := only.untouched session.actor apart
  have actor : u.actor session.actor = t.actor session.actor := by
    rw [after.actor, before.actor]
  refine ⟨fun gone => ?_, fun menu known => ?_⟩
  · obtain ⟨noSession, noSurface, noRefresh, noBucket, noHandlers⟩ := settled.closed gone
    constructor
    case session => rw [actor, untouched.session, noSession]
    case surface => rw [actor, untouched.surface, noSurface]
    case lastRefresh => rw [actor, untouched.lastRefresh, noRefresh]
    case bucket =>
      rw [actor, after.scopes, ← before.scopes]
      exact fun asked => only.handlers _ (noBucket asked)
    case handlers =>
      intro name keys callback own
      rw [actor] at own
      rw [untouched.handlers name keys own]
      exact noHandlers name keys callback own
  · obtain ⟨there, surface, shown, drawn⟩ := settled.kept menu known
    refine ⟨untouched.session.trans there, surface, untouched.surface.trans shown, ?_⟩
    rw [after.drawing, ← before.drawing]
    exact drawn

end Settled

/-- The sessions are being brought in line with menus that are new. Those that remain are as they were, and all
others were dealt with. -/
structure Underway [Machine] (s : EngineState) (menus : OrderedMap String Menu) (remaining : Sessions)
    (t : EngineState) : Prop where
  replacing : Replacing s menus t
  sound : t.ledger.accessors.Sound s.classes
  waiting : ∀ pair ∈ remaining, Untouched pair.2.actor s t
  settled : ∀ pair ∈ s.sessions, pair ∉ remaining → Settled s menus pair.1 pair.2 t

/-- Every session whose menu is there among others can be drawn with it. -/
def EngineState.Redrawable [Machine] (s : EngineState) (menus : OrderedMap String Menu) : Prop :=
  ∀ pair ∈ s.sessions, ∀ menu, { s with menus }.menu? pair.2.menu = some menu →
    ∃ drawing, answerOf (s.drawing (pair.2.within menu) menu none) = .ok drawing

section

variable {first s t u : EngineState} {menus : OrderedMap String Menu} {pair : ActorKey × Session}
  {remaining : Sessions}

namespace WellKept

/-- Two sessions with the same key are the same, as a key has one session at most. -/
theorem eq_of_key (well : WellKept first s) {other : ActorKey × Session} (member : pair ∈ s.sessions)
    (isOther : other ∈ s.sessions) (same : other.1 = pair.1) : other = pair := by
  have first := OrderedMap.get?_of_mem well.once member
  have second := OrderedMap.get?_of_mem well.once isOther
  rw [same, first] at second
  exact Prod.ext same (Option.some.inj second).symm

/-- The actor of a session has a surface, which the session is drawn on in its turn. -/
theorem surface (well : WellKept first s) (member : pair ∈ s.sessions) :
    ∃ surface, s.screen.get? pair.1 = some surface :=
  Option.isSome_iff_exists.mp (well.shown pair.1 (OrderedMap.has_of_mem member))

end WellKept

namespace Underway

/-- At the beginning all sessions remain, and what is known of types is what would be found anew. -/
theorem start [Machine] (sound : s.ledger.accessors.Sound s.classes) (menus : OrderedMap String Menu) :
    Underway s menus s.sessions { s with menus } where
  replacing := .start s menus
  sound
  waiting _ _ := .of_same rfl rfl rfl rfl rfl
  settled _ member remains := absurd member remains

/-- One session that remained was dealt with, and nothing else has happened. The sessions that still remain are as
they were, so their turns can be told in the same way. -/
theorem step [Machine] (well : WellKept first s) (underway : Underway s menus (pair :: remaining) t)
    (members : ∀ other ∈ pair :: remaining, other ∈ s.sessions)
    (once : (OrderedMap.keys (pair :: remaining)).Nodup) (after : Replacing s menus u)
    (sound : u.ledger.accessors.Sound s.classes) (only : OnlyFor pair.1 t u)
    (own : Settled s menus pair.1 pair.2 u) : Underway s menus remaining u := by
  have filed : ∀ other ∈ s.sessions, (t.actor other.2.actor).key = other.1 := by
    intro other member
    rw [underway.replacing.actor]
    exact well.filed.filed other.1 other.2 member
  refine ⟨after, sound, fun other remains => ?_, fun other member done => ?_⟩
  · have apart : pair.1 ≠ other.1 := fun same =>
      (List.nodup_cons.mp once).1 (List.mem_map.mpr ⟨other, remains, same.symm⟩)
    rw [← filed other (members other (List.mem_cons_of_mem _ remains))] at apart
    exact (underway.waiting other (List.mem_cons_of_mem _ remains)).trans (only.untouched _ apart)
  · by_cases isPair : other = pair
    · rw [isPair]
      exact own
    · have apart : pair.1 ≠ other.1 := fun same =>
        isPair (well.eq_of_key (members pair List.mem_cons_self) member same.symm)
      have before := underway.settled other member (by simp [isPair, done])
      exact before.onlyFor (filed other member) apart only underway.replacing after

/-- The first of the sessions that remain is brought in line, and is settled then: it is closed, or drawn as it would
be by itself. -/
theorem revive [Machine] (well : WellKept first s) (registered : s.placeholders.IsPure)
    (pure : ∀ pair ∈ menus, pair.2.IsPure)
    (drawable : s.Redrawable menus) (underway : Underway s menus (pair :: remaining) t)
    (members : ∀ other ∈ pair :: remaining, other ∈ s.sessions)
    (once : (OrderedMap.keys (pair :: remaining)).Nodup) :
    ∃ u, outcome (reviveSession pair.2) t = (.ok (), u) ∧ Underway s menus remaining u := by
  have replacing := underway.replacing
  have member := members pair List.mem_cons_self
  have isKey : (s.actor pair.2.actor).key = pair.1 := well.filed.filed pair.1 pair.2 member
  have filed : (t.actor pair.2.actor).key = pair.1 := by rw [replacing.actor, isKey]
  have untouched := underway.waiting pair List.mem_cons_self
  have opened : t.session? pair.2.actor = some pair.2 := by
    have found := OrderedMap.get?_of_mem well.once member
    rw [← isKey, ← untouched.session, isKey, ← filed] at found
    exact found
  have can : t.CanLeave pair.2.actor := replacing.canLeave (well.canLeave member)
  cases known : t.menu? pair.2.menu with
  | none =>
    refine ⟨_, outcome_reviveSession_none can opened known, ?_⟩
    have only := OnlyFor.closed t pair.2.actor
    rw [filed] at only
    have after : Replacing s menus (t.closed pair.2.actor) := replacing.closing _ _
    refine underway.step well members once after underway.sound only
      ⟨fun _ => t.gone_closed pair.2.actor, fun menu found => ?_⟩
    rw [← replacing.menu?, known] at found
    cases found
  | some menu =>
    have found := (replacing.menu? _).symm.trans known
    obtain ⟨⟨title, grid⟩, drawn⟩ := drawable pair member menu found
    obtain ⟨entry, isEntry, rfl⟩ := EngineState.mem_of_menu? known
    rw [replacing.menus] at isEntry
    have sound : t.ledger.accessors.Sound t.classes := by
      rw [replacing.classes]
      exact underway.sound
    obtain ⟨ledger, kept, done⟩ := outcome_reviveSession_drawn can.keyed opened known (pure entry isEntry)
      (by rwa [replacing.placeholders]) sound (by rwa [replacing.drawing])
    rw [replacing.classes] at kept
    have only := OnlyFor.shown t pair.2.actor (pair.2.within entry.2).page ledger title grid
    rw [filed] at only
    have after := replacing.shown pair.2.actor (pair.2.within entry.2).page ledger title grid
    refine ⟨_, done, underway.step well members once after kept only ⟨fun gone => ?_, fun menu isMenu => ?_⟩⟩
    · rw [gone] at found
      cases found
    · cases found.symm.trans isMenu
      obtain ⟨surface, there⟩ := well.surface member
      rw [← isKey, ← untouched.surface, isKey, ← filed] at there
      rw [← filed]
      refine ⟨?_, surface.draw title grid none, ?_, ?_⟩
      · exact (OrderedMap.get?_adjust _ _ _ _).trans ((if_pos rfl).trans (congrArg _ opened))
      · exact (EngineState.drawn_screen _ _ _ _ _ _).trans ((if_pos rfl).trans (congrArg _ there))
      · rw [after.drawing]
        exact drawn

/-- All sessions that remain are brought in line, one after another. The induction is on those that remain, and each
turn leaves one fewer. -/
theorem reviveAll [Machine] (well : WellKept first s) (registered : s.placeholders.IsPure)
    (pure : ∀ pair ∈ menus, pair.2.IsPure) (drawable : s.Redrawable menus) (underway : Underway s menus remaining t)
    (members : ∀ pair ∈ remaining, pair ∈ s.sessions) (once : (OrderedMap.keys remaining).Nodup) :
    ∃ u, outcome (Engine.reviveAll remaining) t = (.ok (), u) ∧ Underway s menus [] u := by
  induction remaining generalizing t with
  | nil => exact ⟨t, rfl, underway⟩
  | cons pair rest ih =>
    obtain ⟨u, revived, next⟩ := underway.revive well registered pure drawable members once
    rw [reviveAll_cons, outcome_bind_ok _ revived]
    exact ih next (fun other member => members other (List.mem_cons_of_mem _ member)) (List.nodup_cons.mp once).2

end Underway

end

/-- Menus without a memory in any of their items replace all others. Nothing else has to be known of them but that the
sessions can be drawn with them. -/
theorem settled_of_replaceMenus [Machine] {first s : EngineState} {menus : OrderedMap String Menu}
    (well : WellKept first s)
    (sound : s.ledger.accessors.Sound s.classes) (registered : s.placeholders.IsPure)
    (pure : ∀ pair ∈ menus, pair.2.IsPure) (drawable : s.Redrawable menus) :
    ∃ t, outcome (replaceMenus menus) s = (.ok (), t) ∧ Replacing s menus t ∧
      ∀ pair ∈ s.sessions, Settled s menus pair.1 pair.2 t := by
  obtain ⟨t, done, underway⟩ := (Underway.start sound menus).reviveAll well registered pure drawable
    (fun _ member => member) well.once
  exact ⟨t, done, underway.replacing, fun pair member => underway.settled pair member (by simp)⟩

/-- In whatever state an engine is brought to for actors who have names, with a directory that menus were loaded from:
if reading it again fails, nothing has changed but that notices were left. If it does not, and if the menu of every
session that is there among those read can be drawn, then the menus are those read, and none else; each session was
dealt with; and there is no session that was not there before.

Proof: a state that is reached is well kept, and reading the menus goes through the sessions one after another. By
induction on these, a turn settles the session of its actor for good. That the drawing will not fail is known
beforehand, since without a memory in the resolvers it comes to the same whenever it is made. -/
theorem reloaded_of_reaches [Machine] {first s : EngineState} (idle : first.sessions = [])
    (sound : first.ledger.accessors.Sound first.classes) (run : Reaches (HostCall.IsForNamed first) first s)
    (registered : s.placeholders.IsPure) {directory : String} (known : s.directory = some directory)
    (listing : Option FileListing) :
    let read := (Menu.ofDirectory directory listing s.config.defaultSize).run.run []
    (∀ cause, read.1 = .error cause → outcome (reloadMenus listing) s = (.error cause, s.noting read.2)) ∧
      ∀ loaded, read.1 = .ok loaded → s.Redrawable loaded →
        ∃ t, outcome (reloadMenus listing) s = (.ok loaded, t) ∧ t.menus = loaded ∧
          (∀ key session, s.sessions.get? key = some session → Settled s loaded key session t) ∧
          ∀ key, s.sessions.get? key = none → t.sessions.get? key = none := by
  intro read
  constructor
  · intro cause failed
    exact outcome_reloadMenus_error known (Prod.ext failed rfl)
  · intro loaded answered drawable
    have given : (Menu.ofDirectory directory listing s.config.defaultSize).run.run [] = (.ok loaded, read.2) :=
      Prod.ext answered rfl
    have well : WellKept first (s.noting read.2) := (WellKept.of_reaches idle run).congr rfl rfl rfl
    obtain ⟨classes, remembered⟩ := Remembered.of_reaches sound run
    rw [← classes] at remembered
    have pure : ∀ pair ∈ loaded, pair.2.IsPure := fun pair member =>
      (Menu.loadedAs_ofDirectory given pair member).plain.isPure
    obtain ⟨t, done, replacing, settled⟩ := settled_of_replaceMenus well remembered registered pure drawable
    refine ⟨t, (outcome_reloadMenus_ok known given).trans (outcome_bind_ok _ done), replacing.menus,
      fun key session opened => ?_, fun key absent => ?_⟩
    · obtain ⟨closed, kept⟩ := settled (key, session) (OrderedMap.mem_of_get? opened)
      exact ⟨closed, kept⟩
    · refine Option.eq_none_iff_forall_ne_some.mpr fun session there => ?_
      obtain ⟨before, _, member, -⟩ := replacing.sessions key session there
      have has : s.sessions.has key = true := OrderedMap.has_of_mem member
      rw [OrderedMap.has, absent] at has
      cases has

/-- An operation for an actor with a name is for no other, with the callbacks of scripts. So the states that scripts
bring about are among those that are well kept. -/
theorem HostCode.isForNamed [Machine] {first : EngineState} {ref : Nat} (named : first.Named ref) {c : HostCall}
    (forActor : c.actor? = some ref) : HostCode (HostCall.IsForNamed first) (c.run Engine.call) := by
  have alone {other : HostCall} (same : other.actor? = some ref) : other.IsForNamed first := by
    intro actor found
    cases same.symm.trans found
    exact named
  refine .scripted c (alone forActor) fun actor found nested own => alone ?_
  cases forActor.symm.trans found
  exact own.actor?

/-- What reading the directory of the shelf again gives. -/
def rereadResult [Machine] : Except Failure (OrderedMap String Menu) :=
  ((Menu.ofDirectory "menus" (some [("shop.json", .text ['\x7b', '\x7d'])])
    (turnedShelf "ann").config.defaultSize).run.run []).1

/-- The menus that the shelf has then. -/
def rereadMenus [Machine] : OrderedMap String Menu :=
  rereadResult.toOption.getD []

end

/-- The reading of the shelf does not fail. -/
theorem rereadResult_eq : rereadResult = .ok rereadMenus := by
  have answers : rereadResult.toOption.isSome = true := by decide +kernel
  unfold rereadMenus
  cases result : rereadResult with
  | error cause =>
    rw [result] at answers
    cases answers
  | ok loaded => rfl

/-- The menu that is there still can be drawn, for the one session that is on it. -/
theorem redrawable_turnedShelf : (turnedShelf "ann").Redrawable rereadMenus := by
  have checked : ((turnedShelf "ann").sessions.all fun pair =>
      ({ turnedShelf "ann" with menus := rereadMenus }.menu? pair.2.menu).all fun menu =>
        (answerOf ((turnedShelf "ann").drawing (pair.2.within menu) menu none)).toOption.isSome) = true := by
    decide +kernel
  intro pair member menu found
  have drawn := List.all_eq_true.mp checked pair member
  rw [found, Option.all_some] at drawn
  cases answer : answerOf ((turnedShelf "ann").drawing (pair.2.within menu) menu none) with
  | error cause =>
    rw [answer] at drawn
    cases drawn
  | ok drawing => exact ⟨drawing, rfl⟩

/-- On the shelf that was read again the first actor, whose menu is gone, has nothing left of it, and the second sees
the first page of a menu that had two. -/
theorem reloaded_rereadShelf :
    ∃ t, rereadShelf "ann" = (.ok rereadMenus, t) ∧ t.menus = rereadMenus ∧ t.Gone 0 ∧
      ∃ session menu, (turnedShelf "ann").sessions.get? (.text "ben") = some session ∧ session.page = 1 ∧
        t.sessions.get? (.text "ben") = some { session with page := 0 } ∧
        t.Depicts (.text "ben") { session with page := 0 } menu := by
  have ann : (shelfShop "ann").Named 0 := ⟨"ann", rfl, by decide⟩
  have ben : (shelfShop "ann").Named 1 := ⟨"ben", rfl, by decide⟩
  have first : Reaches (HostCall.IsForNamed (shelfShop "ann")) (shelfShop "ann") _ :=
    .after .here (.openMenu 0 "gone" .null false) call (.isForNamed ann rfl)
  have second := first.after (.openMenu 1 "shop" .null false) call (.isForNamed ben rfl)
  have turned : Reaches (HostCall.IsForNamed (shelfShop "ann")) (shelfShop "ann") (turnedShelf "ann") :=
    second.after (.setPage 1 1) call (.isForNamed ben rfl)
  have registered : (turnedShelf "ann").placeholders.IsPure := by
    constructor <;> decide +kernel
  have known : (turnedShelf "ann").directory = some "menus" := by decide +kernel
  have reloaded := reloaded_of_reaches rfl sound_nil turned registered known
    (some [("shop.json", .text ['\x7b', '\x7d'])])
  obtain ⟨t, done, menus, settled, -⟩ := reloaded.2 rereadMenus rereadResult_eq redrawable_turnedShelf
  refine ⟨t, done, menus, ?_, ?_⟩
  · have gone : (({ turnedShelf "ann" with menus := rereadMenus }.menu? "gone")).isNone = true := by decide +kernel
    have there : (((turnedShelf "ann").sessions.get? (.text "ann")).map fun session =>
        (session.actor, session.menu)) = some (0, "gone") := by
      decide +kernel
    obtain ⟨session, opened, same⟩ := Option.map_eq_some_iff.mp there
    obtain ⟨actor, menu⟩ := Prod.mk.inj same
    have closed := (settled _ session opened).closed
    rw [actor, menu] at closed
    exact closed (Option.isNone_iff_eq_none.mp gone)
  · have there : (((turnedShelf "ann").sessions.get? (.text "ben")).bind fun session =>
        ({ turnedShelf "ann" with menus := rereadMenus }.menu? session.menu).map fun menu : Menu =>
          (session.page, menu.totalPages)) = some ((1 : Int), (1 : Int)) := by
      decide +kernel
    obtain ⟨session, opened, found⟩ := Option.bind_eq_some_iff.mp there
    obtain ⟨menu, isMenu, same⟩ := Option.map_eq_some_iff.mp found
    obtain ⟨page, pages⟩ := Prod.mk.inj same
    have within : session.within menu = { session with page := 0 } := by
      unfold Session.within
      rw [page, pages, if_neg (Int.lt_irrefl 1)]
    obtain ⟨kept, depicts⟩ := (settled _ session opened).kept menu isMenu
    rw [within] at kept depicts
    exact ⟨session, menu, opened, page, kept, depicts⟩

end ChestMenu
