import ChestMenu.Proofs.Upkeep

/-!
# Actors are kept apart

What is done for one actor leaves the session of every other as it is, and so the surface, the time of the last
refresh and the handlers that are found for that other.

All of this is kept in common tables, under the keys of actors. What is asked for on behalf of an actor finds the
session under the actor's key; that the session is for an actor with the same key again is what keeps the teardown of
a session away from the others.
-/
namespace ChestMenu

open Engine

section

/-- Every session is kept under the key of its own actor, and the actors are those of the beginning. -/
structure Filed (first s : EngineState) : Prop where
  actors : s.actors = first.actors
  filed : ∀ key session, (key, session) ∈ s.sessions → (s.actor session.actor).key = key

namespace Filed

variable {first s t : EngineState}

/-- An actor is the one of the beginning, as no operation makes an actor another. -/
theorem actor (filed : Filed first s) (ref : Nat) : s.actor ref = first.actor ref := by
  rw [EngineState.actor, filed.actors, EngineState.actor]

/-- The session of an actor is for an actor with the same key. For the session was found under the key of the one and
is filed under that of the other. -/
theorem key_of_session (filed : Filed first s) {ref : Nat} {session : Session}
    (opened : s.session? ref = some session) : (s.actor session.actor).key = (s.actor ref).key :=
  filed.filed _ _ (OrderedMap.mem_of_get? opened)

/-- Other sessions than those that were there would have to be filed anew. So whatever takes sessions away keeps them
filed. -/
theorem of_subset (filed : Filed first s) (actors : t.actors = s.actors)
    (subset : ∀ pair ∈ t.sessions, pair ∈ s.sessions) : Filed first t where
  actors := actors.trans filed.actors
  filed key session member := by
    rw [EngineState.actor, actors]
    exact filed.filed key session (subset _ member)

/-- A changed session stays where it is, and it is filed there rightly as long as it is for the same actor. -/
theorem adjusting (filed : Filed first s) (key : ActorKey) (change : Session → Session)
    (actor : ∀ session, (change session).actor = session.actor) :
    Filed first { s with sessions := s.sessions.adjust key change } where
  actors := filed.actors
  filed k session member := by
    rcases OrderedMap.mem_adjust member with there | ⟨before, there, changed⟩
    · exact filed.filed k session there
    · cases changed
      rw [actor]
      exact filed.filed key before there

/-- A new session is filed under the key of its actor, in the place of the one that was there. -/
theorem entering (filed : Filed first s) (ref : Nat) (menu : Menu) (context : Value) :
    Filed first (s.entering (s.actor ref).key ref menu context) where
  actors := filed.actors
  filed key session member := by
    rcases OrderedMap.mem_put member with there | new
    · exact filed.filed key session there
    · cases new
      rfl

/-- Leaving a menu leaves the sessions as they are. The surface and the handlers go, and the session has gone before
or stays. -/
theorem keeps_tearDown {session : Session} : Keeps (Filed first) (tearDown session) := by
  intro s filed
  rcases tearDown_cases session s with ⟨cause, done⟩ | ⟨cause, done⟩ | done | done
  all_goals
    rw [done]
    exact filed.of_subset rfl fun _ member => member

/-- Drawing leaves the sessions as they are. It writes to the ledger and to a surface. -/
theorem keeps_render [Machine] {session : Session} {menu : Menu} {slots : Option (List SlotName)} :
    Keeps (Filed first) (render session menu slots) :=
  Engine.keeps_render (fun _ _ filed => filed.of_subset rfl fun _ member => member)
    fun _ _ _ _ filed => filed.of_subset rfl fun _ member => member

/-- Entering a menu files the new session. The drawing behind it leaves the sessions as they are. -/
theorem keeps_enter [Machine] {ref : Nat} {menu : Menu} {context : Value} :
    Keeps (Filed first) (enter ref menu context) := by
  unfold enter
  apply keeps_keyOf_bind
  intro s keyed filed
  rw [outcome_bind_ok _ (outcome_get s), outcome_bind_ok _ (outcome_set _ s)]
  exact keeps_render _ (filed.entering ref menu context)

/-- Sessions stay filed, whatever a host asks for and for whom. It need not be asked for whom menus are opened, as
everyone has a key or gets no session. -/
theorem upheld [Machine] : Upheld (Filed first) fun _ => True where
  alike s t alike filed := filed.of_subset alike.actors fun pair member => by
    rwa [alike.sessions] at member
  adjusted _ key change actor _ filed := filed.adjusting key change actor
  opened _ _ _ _ _ :=
    keeps_openMenu (fun _ _ filed => filed.of_subset rfl fun _ member => member)
      (fun s _ _ _ _ _ filed => keeps_enter s filed)
      fun s _ _ _ _ _ _ filed => keeps_bind keeps_tearDown (fun _ => keeps_enter) s filed
  closed _ := keeps_close fun _ _ _ _ filed => keeps_tearDown _ <|
    filed.of_subset rfl fun _ member => (OrderedMap.mem_erase member).1
  drawn _ _ _ := keeps_render

/-- Sessions stay filed, whatever code of a host does. This is the weakest of the invariants that are carried along,
and others are stated on top of it. -/
theorem keeps_code [Machine] {permitted : HostCall → Prop} {α : Type} {x : Engine α} (code : HostCode permitted x) :
    Keeps (Filed first) x := by
  refine code.keeps (fun _ _ filed => filed.of_subset rfl fun _ member => member) ?_
  intro c calling _ answers
  exact upheld.run c calling (fun _ _ => trivial)
    (fun _ _ filed => filed.of_subset rfl fun _ member => member) answers

/-- Sessions are filed in every state that is reached from an idle engine. In an idle engine there is nothing to be
filed. -/
theorem of_reaches [Machine] {permitted : HostCall → Prop} (idle : first.sessions = [])
    (run : Reaches permitted first s) : Filed first s :=
  run.holds keeps_code ⟨rfl, by simp [idle]⟩

end Filed

/-- Nothing that belongs to an actor has changed: neither the session and the surface, nor the time of
the last refresh, nor any handler that is found for the actor's id. -/
structure Untouched (ref : Nat) (s t : EngineState) : Prop where
  actors : t.actors = s.actors
  session : t.sessions.get? (s.actor ref).key = s.sessions.get? (s.actor ref).key
  surface : t.screen.get? (s.actor ref).key = s.screen.get? (s.actor ref).key
  lastRefresh : t.lastRefresh.get? (s.actor ref).key = s.lastRefresh.get? (s.actor ref).key
  handlers : ∀ name keys, keys HandlerScope.actor = (s.actor ref).textId? →
    t.legacyHandlers.lookup name keys = s.legacyHandlers.lookup name keys

/-- The bucket of an actor that is asked is the one under the actor's id, and there has to be an id. So whoever asks
without an id is never given what was registered for an actor. -/
theorem HandlerRegistry.bucketFor?_actor {scope : HandlerScope} {keys : HandlerScope → Option String}
    {id : Option String} (asked : bucketFor? scope keys = some (.actor, id)) :
    id = keys .actor ∧ id ≠ none := by
  unfold bucketFor? at asked
  cases found : scope.fileKey (keys scope) with
  | error cause => simp [found] at asked
  | ok key =>
    simp only [found, Option.some.injEq, Prod.mk.injEq] at asked
    obtain ⟨isActor, same⟩ := asked
    subst isActor
    subst same
    refine ⟨HandlerScope.fileKey_actor found, ?_⟩
    intro absent
    have same := HandlerScope.fileKey_actor found
    rw [absent] at same
    rw [← same] at found
    cases found

/-- Taking away the handlers that are filed under one id changes no look-up for another. Each scope is asked by
itself, and only one bucket of one scope has changed. -/
theorem HandlerRegistry.lookup_withoutActor {r : HandlerRegistry} {gone : Option String} {name : String}
    {keys : HandlerScope → Option String} (other : keys .actor = gone → gone = none) :
    (r.withoutActor gone).lookup name keys = r.lookup name keys := by
  unfold withoutActor
  split
  · unfold lookup
    congr 1
    funext scope
    cases asked : bucketFor? scope keys with
    | none => rfl
    | some bucket =>
      have different : (HandlerScope.actor, gone) ≠ bucket := by
        rintro rfl
        obtain ⟨same, present⟩ := bucketFor?_actor asked
        exact present (other same.symm)
      simp only [Option.bind_eq_bind, Option.bind_some, OrderedMap.get?_erase, if_neg different]
  · rfl

namespace Untouched

variable {ref : Nat} {s t u : EngineState}

theorem refl (ref : Nat) (s : EngineState) : Untouched ref s s :=
  ⟨rfl, rfl, rfl, rfl, fun _ _ _ => rfl⟩

theorem trans (first : Untouched ref s t) (second : Untouched ref t u) : Untouched ref s u := by
  obtain ⟨actors, session, surface, lastRefresh, handlers⟩ := second
  have same : t.actor ref = s.actor ref := by
    rw [EngineState.actor, first.actors, EngineState.actor]
  rw [same] at session surface lastRefresh handlers
  exact ⟨actors.trans first.actors, session.trans first.session, surface.trans first.surface,
    lastRefresh.trans first.lastRefresh,
    fun name keys own => (handlers name keys own).trans (first.handlers name keys own)⟩

/-- An actor is untouched by a change elsewhere, that is, one that leaves alone all places where things are kept under
keys of actors. -/
theorem of_same (actors : t.actors = s.actors) (sessions : t.sessions = s.sessions)
    (screen : t.screen = s.screen) (lastRefresh : t.lastRefresh = s.lastRefresh)
    (handlers : t.legacyHandlers = s.legacyHandlers) : Untouched ref s t :=
  ⟨actors, by rw [sessions], by rw [screen], by rw [lastRefresh], fun _ _ _ => by rw [handlers]⟩

section

variable {key : ActorKey} (other : key ≠ (s.actor ref).key)

include other

/-- A drawing for another actor is on a surface under another key. -/
theorem drawn (title : String) (grid : Grid) (slots : Option (List SlotName)) :
    Untouched ref s (s.drawn key title grid slots) := by
  refine ⟨rfl, rfl, ?_, rfl, fun _ _ _ => rfl⟩
  rw [EngineState.drawn_screen, if_neg other]

/-- A change of the session of another actor is one under another key. -/
theorem adjusting (change : Session → Session) :
    Untouched ref s { s with sessions := s.sessions.adjust key change } := by
  refine ⟨rfl, ?_, rfl, rfl, fun _ _ _ => rfl⟩
  exact (OrderedMap.get?_adjust _ _ _ _).trans (if_neg other)

/-- When the session of another actor ends, nothing else lies where it was. -/
theorem erasing : Untouched ref s { s with sessions := s.sessions.erase key } := by
  refine ⟨rfl, ?_, rfl, rfl, fun _ _ _ => rfl⟩
  exact (OrderedMap.get?_erase _ _ _).trans (if_neg other)

/-- When a refresh of the menu of another actor is noted, the note is under another key. -/
theorem marking (number : Nat) : Untouched ref s { s with lastRefresh := s.lastRefresh.put key number } := by
  refine ⟨rfl, rfl, rfl, ?_, fun _ _ _ => rfl⟩
  exact (OrderedMap.get?_put _ _ _ _).trans (if_neg other)

/-- When another actor leaves a menu, the surface and the note go that are under another key. -/
theorem leaving : Untouched ref s (s.leaving key) := by
  refine ⟨rfl, rfl, ?_, ?_, fun _ _ _ => rfl⟩
  · rw [EngineState.leaving_screen, if_neg other]
  · exact (OrderedMap.get?_erase _ _ _).trans (if_neg other)

end

/-- When another actor leaves a menu, the handlers of that actor go. They are found by an id, and ids of different
keys are different. -/
theorem left {actor : Nat} (apart : (s.actor actor).key ≠ (s.actor ref).key) :
    Untouched ref s (s.left actor) := by
  have rest := leaving apart
  refine ⟨rfl, rfl, rest.surface, rest.lastRefresh, fun name keys own => ?_⟩
  apply HandlerRegistry.lookup_withoutActor
  intro same
  rw [own] at same
  cases isText : (s.actor actor).textId? with
  | none => rfl
  | some id =>
    rw [isText] at same
    exact absurd ((Actor.key_of_textId? isText).trans (Actor.key_of_textId? same).symm) apart

/-- When another actor enters a menu, a session and a surface are put under another key. The number of the surface is
a new one, but numbers of surfaces that are there do not change. -/
theorem entering {actor : Nat} (apart : (s.actor actor).key ≠ (s.actor ref).key) (menu : Menu)
    (context : Value) : Untouched ref s (s.entering (s.actor actor).key actor menu context) := by
  refine ⟨rfl, ?_, ?_, rfl, fun _ _ _ => rfl⟩
  · rw [EngineState.entering_sessions, if_neg apart]
  · rw [EngineState.entering_screen, if_neg apart]

end Untouched

/-- The states that are reached by what is done for one actor without touching another: sessions are
filed, and what belongs to the other is as it was. -/
structure Beside (a b : Nat) (first s : EngineState) : Prop where
  filed : Filed first s
  apart : (s.actor a).key ≠ (s.actor b).key
  untouched : Untouched b first s

namespace Beside

variable {a b : Nat} {first s t : EngineState}

/-- What is beside the one actor stays so by a step that keeps the sessions filed and does not touch the other. -/
theorem step (beside : Beside a b first s) (filed : Filed first t) (untouched : Untouched b s t) :
    Beside a b first t where
  filed
  apart := by
    rw [EngineState.actor, EngineState.actor, untouched.actors]
    exact beside.apart
  untouched := beside.untouched.trans untouched

/-- A change elsewhere touches neither the sessions nor what belongs to the other actor. -/
theorem elsewhere (beside : Beside a b first s) (actors : t.actors = s.actors)
    (sessions : t.sessions = s.sessions) (screen : t.screen = s.screen)
    (lastRefresh : t.lastRefresh = s.lastRefresh) (handlers : t.legacyHandlers = s.legacyHandlers) :
    Beside a b first t :=
  beside.step (beside.filed.of_subset actors fun pair member => by rwa [sessions] at member)
    (.of_same actors sessions screen lastRefresh handlers)

/-- The session that is found for the one actor is not for the other. It is for an actor with the same key as the one
who asks. -/
theorem apart_of_session (beside : Beside a b first s) {session : Session}
    (opened : s.session? a = some session) :
    (s.actor session.actor).key ≠ (s.actor b).key := by
  rw [beside.filed.key_of_session opened]
  exact beside.apart

/-- Drawing the menu of a session that is not for the other actor touches a surface that is not the other's. -/
theorem render [Machine] {session : Session} {menu : Menu} {slots : Option (List SlotName)}
    (beside : Beside a b first s) (apart : (s.actor session.actor).key ≠ (s.actor b).key) :
    Beside a b first (outcome (Engine.render session menu slots) s).2 := by
  have filed : Filed first (outcome (Engine.render session menu slots) s).2 :=
    Filed.keeps_render s beside.filed
  obtain ⟨result, ledger, -, ⟨cause, -, failed⟩ | ⟨title, grid, -, -, drawn⟩⟩ :=
    render_cases session menu slots s
  · rw [failed]
    exact beside.elsewhere rfl rfl rfl rfl rfl
  · rw [drawn] at filed ⊢
    have resolved : Untouched b s { s with ledger } := .of_same rfl rfl rfl rfl rfl
    exact beside.step filed (resolved.trans (.drawn (s := { s with ledger }) apart title grid slots))

/-- Leaving a menu with a session that is not for the other actor takes away nothing of the other's, wherever it
breaks off. -/
theorem tearDown {session : Session} (beside : Beside a b first s)
    (apart : (s.actor session.actor).key ≠ (s.actor b).key) :
    Beside a b first (outcome (Engine.tearDown session) s).2 := by
  have filed : Filed first (outcome (Engine.tearDown session) s).2 :=
    Filed.keeps_tearDown s beside.filed
  rcases tearDown_cases session s with ⟨cause, done⟩ | ⟨cause, done⟩ | done | done
  all_goals rw [done] at filed ⊢
  · exact beside
  · exact beside.step filed (.leaving apart)
  · exact beside.step filed (.leaving apart)
  · exact beside.step filed (.left apart)

/-- Entering a menu touches what is under the key of the one who enters. -/
theorem keeps_enter [Machine] {menu : Menu} {context : Value} :
    Keeps (Beside a b first) (enter a menu context) := by
  intro s beside
  rcases keyOf_cases a s with ⟨cause, failed⟩ | ⟨keyed, -⟩
  · rw [enter, outcome_bind_error _ failed]
    exact beside
  · rw [outcome_enter keyed]
    have entered : Beside a b first (s.entering (s.actor a).key a menu context) :=
      beside.step (beside.filed.entering a menu context) (.entering beside.apart menu context)
    exact entered.render entered.apart

/-- Opening a menu leaves the one before and enters the new one, both for the same actor. -/
theorem keeps_openMenu [Machine] {name : String} {context : Value} {keep : Bool} :
    Keeps (Beside a b first) (openMenu a name context keep) := by
  apply Engine.keeps_openMenu
  · exact fun _ _ beside => beside.elsewhere rfl rfl rfl rfl rfl
  · exact fun s _ _ _ _ _ beside => keeps_enter s beside
  · intro s menu session context keyed known opened beside
    have left := beside.tearDown (beside.apart_of_session opened)
    rw [outcome_bind]
    rcases done : outcome (Engine.tearDown session) s with ⟨result, t⟩
    rw [done] at left
    cases result with
    | error cause => exact left
    | ok _ => exact keeps_enter t left

/-- Closing a menu ends a session that was found for the one actor. -/
theorem keeps_close : Keeps (Beside a b first) (close a) := by
  apply Engine.keeps_close
  intro s session keyed opened beside
  have apart := beside.apart_of_session opened
  have fewer : Beside a b first { s with sessions := s.sessions.erase (s.actor a).key } :=
    beside.step (beside.filed.of_subset rfl fun _ member => (OrderedMap.mem_erase member).1)
      (.erasing beside.apart)
  exact fewer.tearDown apart

/-- Drawing a menu again draws for the session that was found for the one actor. -/
theorem keeps_redraw [Machine] {slots : Option (List SlotName)} :
    Keeps (Beside a b first) (redraw a slots) :=
  Engine.keeps_redraw fun _ _ _ _ opened _ beside => beside.render (beside.apart_of_session opened)

/-- Changing the session changes what lies under the key of the one actor. -/
theorem adjusting (beside : Beside a b first s) (change : Session → Session)
    (actor : ∀ session, (change session).actor = session.actor) :
    Beside a b first { s with sessions := s.sessions.adjust (s.actor a).key change } :=
  beside.step (beside.filed.adjusting _ change actor) (.adjusting beside.apart change)

/-- Going to a page changes the session of the one actor and draws for it. -/
theorem keeps_setPage [Machine] {page : Int} : Keeps (Beside a b first) (setPage a page) := by
  apply Engine.keeps_setPage
  intro s session menu keyed opened known _ beside
  have apart := beside.apart_of_session opened
  have turned : Beside a b first _ := beside.adjusting (fun session => { session with page }) fun _ => rfl
  exact turned.render apart

/-- Changing a context changes the session of the one actor, and nothing is drawn. -/
theorem keeps_updateContext {context : Value} :
    Keeps (Beside a b first) (updateContext a context) :=
  Engine.keeps_updateContext fun _ _ beside => beside.adjusting _ fun _ => rfl

/-- Forcing a refresh draws for the one actor and notes it under that actor's key. -/
theorem keeps_forceRefresh [Machine] : Keeps (Beside a b first) (forceRefresh a) :=
  Engine.keeps_forceRefresh keeps_redraw fun number => keeps_markRefreshed fun _ _ beside =>
    beside.step (beside.filed.of_subset rfl fun _ member => member) (.marking beside.apart number)

/-- What the engine does by itself in the course of a click is done for the one who clicks. -/
theorem served [Machine] : Served (Beside a b first) a where
  told _ _ beside := beside.elsewhere rfl rfl rfl rfl rfl
  noted _ _ beside := beside.elsewhere rfl rfl rfl rfl rfl
  opened _ := keeps_openMenu
  closed := keeps_close
  turned _ := keeps_setPage
  refreshed := keeps_redraw

/-- Every operation for the one actor leaves the other untouched, if the callbacks do. There is one case for each
operation that names an actor. -/
theorem keeps_run [Machine] {c : HostCall} {calling : Calling} (forOne : c.actor? = some a)
    (answers : ∀ info callback, Keeps (Beside a b first) (calling a info callback)) :
    Keeps (Beside a b first) (c.run calling) := by
  cases c
  all_goals cases forOne
  case openMenu name context keep => exact keeps_openMenu
  case close => exact keeps_close
  case setPage page => exact keeps_setPage
  case refresh => exact keeps_redraw
  case refreshSlots slots => exact keeps_redraw
  case updateContext context => exact keeps_updateContext
  case updateAndRefresh context =>
    exact keeps_bind keeps_updateContext fun _ => keeps_bind keeps_redraw fun _ => keeps_pure ()
  case click slot type => exact keeps_clickWith served answers
  case forceRefresh => exact keeps_forceRefresh

end Beside

/-- An operation that is for an actor. -/
def HostCall.IsFor (ref : Nat) (c : HostCall) : Prop :=
  c.actor? = some ref

/-- In whatever state a host has brought an engine, an operation for one actor leaves everything that belongs to an
actor with another key as it is, even if it fails; the callbacks of a click may ask for any operations for the actor
who clicked.

Proof: what is the other actor's lies under another key. The invariant `Beside` says that it is as it was; it is kept
by each operation for the one actor, and so by all code that callbacks run, by induction on the code. -/
theorem untouched_of_call [Machine] {permitted : HostCall → Prop} {first s : EngineState}
    (idle : first.sessions = []) (run : Reaches permitted first s) {a b : Nat}
    (apart : (s.actor a).key ≠ (s.actor b).key) (c : HostCall) (forOne : c.IsFor a)
    (calling : Calling)
    (own : ∀ info callback, HostCode (HostCall.IsFor a) (calling a info callback)) :
    Untouched b s (outcome (c.run calling) s).2 := by
  have filed : Filed s s := ⟨rfl, (Filed.of_reaches idle run).filed⟩
  have kept {α : Type} {x : Engine α} (code : HostCode (HostCall.IsFor a) x) :
      Keeps (Beside a b s) x := by
    refine code.keeps (fun _ _ beside => beside.elsewhere rfl rfl rfl rfl rfl) ?_
    exact fun c calling forOne answers => Beside.keeps_run forOne (answers a forOne)
  have after := Beside.keeps_run forOne (fun info callback => kept (own info callback)) s
    ⟨filed, apart, .refl b s⟩
  exact after.untouched

end

/-- In the small shop the first actor clicks on the door while the second has the menu open too. The second is
untouched by it. -/
theorem untouched_smallShop :
    Untouched 1 (outcome (openMenu 1 "shop" .null false)
        (outcome (openMenu 0 "shop" .null false) smallShop).2).2
      (outcome (click 0 0 .left) (outcome (openMenu 1 "shop" .null false)
        (outcome (openMenu 0 "shop" .null false) smallShop).2).2).2 := by
  have may (c : HostCall) : HostCode (fun _ => True) (c.run call) :=
    .scripted c trivial fun _ _ _ _ => trivial
  have first : Reaches (fun _ => True) smallShop _ :=
    .after .here (.openMenu 0 "shop" .null false) call (may _)
  have second := first.after (.openMenu 1 "shop" .null false) call (may _)
  have apart : ∀ s, Filed smallShop s → (s.actor 0).key ≠ (s.actor 1).key := by
    intro s filed
    rw [filed.actor, filed.actor]
    decide
  exact untouched_of_call rfl second (apart _ (Filed.of_reaches rfl second)) (.click 0 0 .left) rfl call
    fun info callback => (HostCode.call info callback).mono fun _ own => own.actor?

end ChestMenu
