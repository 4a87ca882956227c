import ChestMenu.Proofs.Drawing
import ChestMenu.Proofs.Upkeep

/-!
# The screen does not go stale

Whatever page an actor has gone to, whatever menu was opened and whatever a callback has put into the context, the
surface of every open menu shows what drawing the menu anew would show. Every change of a session is followed by a
drawing; a drawing of some slots finds the others as they have to be.

This asks for menus, actors and registered placeholders that stay as they are, for resolvers without a memory, and for
actors who can leave their menus. Where a drawing fails nothing is said about the surface but that it is there and has
the size of the menu.
-/
namespace ChestMenu

open Engine

section

/-- What drawings depend on is fit for being drawn again: no resolver has a memory, each menu is the one
that its own id stands for, and nothing wrong is kept about the types of contexts. -/
structure EngineState.Unchanging (s : EngineState) : Prop where
  registered : s.placeholders.IsPure
  menus : ∀ pair ∈ s.menus, pair.2.IsPure
  own : ∀ pair ∈ s.menus, s.menu? pair.2.id = some pair.2
  sound : s.ledger.accessors.Sound s.classes

/-- A state in which everything that drawings and teardowns depend on is as it was. -/
structure Still (first s : EngineState) : Prop where
  actors : s.actors = first.actors
  classes : s.classes = first.classes
  menus : s.menus = first.menus
  placeholders : s.placeholders = first.placeholders
  scopes : s.legacyHandlers.scopes = first.legacyHandlers.scopes

variable [Machine]

/-- On the screen, an actor sees what drawing the menu of a session shows. -/
def Seen (first : EngineState) (screen : Screen) (key : ActorKey) (session : Session) : Prop :=
  ∃ menu surface, first.menu? session.menu = some menu ∧ screen.get? key = some surface ∧
    surface.size = menu.size ∧
    ∀ title grid, answerOf (first.drawing session menu none) = .ok (title, grid) →
      surface.title = title ∧ surface.items = grid

/-- What holds after every operation, but for some keys in the course of one: everything stands still
that drawings depend on, sessions are filed under the keys of their actors, who can leave, and they see
what is to be seen. -/
structure FreshFor (keys : ActorKey → Prop) (first s : EngineState) : Prop where
  still : Still first s
  sound : s.ledger.accessors.Sound first.classes
  filed : ∀ pair ∈ s.sessions, (first.actor pair.2.actor).key = pair.1 ∧ first.CanLeave pair.2.actor
  seen : ∀ key session, keys key → s.sessions.get? key = some session →
    Seen first s.screen key session

/-- What holds after every operation. -/
abbrev Fresh (first s : EngineState) : Prop :=
  FreshFor (fun _ => True) first s

/-- The operations after which menus are drawn. Menus are opened, by the host or on a click, only for
actors who can leave them. -/
def HostCall.Redraws (first : EngineState) : HostCall → Prop
  | openMenu ref .. | click ref .. => first.CanLeave ref
  | close _ | setPage .. | refresh _ | refreshSlots .. | updateAndRefresh .. => True
  | tick | forceRefresh _ | forceRefreshAll => True
  | _ => False

namespace Still

variable {first s : EngineState}

omit [Machine] in
theorem trans {t : EngineState} (still : Still first s) (next : Still s t) : Still first t where
  actors := next.actors.trans still.actors
  classes := next.classes.trans still.classes
  menus := next.menus.trans still.menus
  placeholders := next.placeholders.trans still.placeholders
  scopes := next.scopes.trans still.scopes

omit [Machine] in
/-- An actor is the same as at the beginning. -/
theorem actor (still : Still first s) (ref : Nat) : s.actor ref = first.actor ref := by
  rw [EngineState.actor, still.actors, EngineState.actor]

omit [Machine] in
/-- A name stands for the same menu as at the beginning, since the menus are the same. -/
theorem menu? (still : Still first s) (name : String) : s.menu? name = first.menu? name := by
  unfold EngineState.menu?
  rw [still.menus]

/-- A session is drawn as it would have been at the beginning. All that a drawing reads is still the same. -/
theorem drawing (still : Still first s) (session : Session) (menu : Menu)
    (slots : Option (List SlotName)) :
    s.drawing session menu slots = first.drawing session menu slots := by
  unfold EngineState.drawing
  rw [still.actor, still.classes, still.placeholders]

omit [Machine] in
/-- An actor can leave exactly if it was so at the beginning. It depends on the id and on the scopes of handlers. -/
theorem canLeave (still : Still first s) {ref : Nat} : s.CanLeave ref ↔ first.CanLeave ref := by
  unfold EngineState.CanLeave
  rw [still.actor, still.scopes]

omit [Machine] in
/-- An actor who could leave at the beginning has a key, as leaving takes one. -/
theorem keyed (still : Still first s) {ref : Nat} (can : first.CanLeave ref) : s.Keyed ref :=
  (still.canLeave.mpr can).keyed

end Still

omit [Machine] in
/-- A menu that a name stands for is one of those that are registered. So what is assumed of all menus may be used of
it. -/
theorem EngineState.mem_of_menu? {s : EngineState} {name : String} {menu : Menu}
    (known : s.menu? name = some menu) : ∃ pair ∈ s.menus, pair.2 = menu := by
  unfold menu? at known
  dsimp only at known
  rcases Option.or_eq_some_iff.mp known with exact | ⟨-, byCase⟩
  · exact ⟨_, OrderedMap.mem_of_get? exact, rfl⟩
  · obtain ⟨pair, found, same⟩ := Option.map_eq_some_iff.mp byCase
    exact ⟨pair, List.mem_of_find?_eq_some found, same⟩

/-- What an actor sees is told by that actor's surface only. The rest of the screen may be other. -/
theorem Seen.congr {first : EngineState} {screen screen' : Screen} {key : ActorKey} {session : Session}
    (seen : Seen first screen key session) (same : screen'.get? key = screen.get? key) :
    Seen first screen' key session := by
  unfold Seen
  rw [same]
  exact seen

namespace FreshFor

variable {keys : ActorKey → Prop} {first s t : EngineState}

/-- Changes elsewhere do no harm, as long as the sessions and the surfaces in question are the same. -/
theorem congr (fresh : FreshFor keys first s) (stands : Still s t)
    (sound : t.ledger.accessors.Sound first.classes) (sessions : t.sessions = s.sessions)
    (screen : t.screen = s.screen) : FreshFor keys first t where
  still := fresh.still.trans stands
  sound
  filed := by
    rw [sessions]
    exact fresh.filed
  seen := by
    rw [sessions, screen]
    exact fresh.seen

/-- The actor of a session that is found has the key that it was found under, and can leave. It is one of the actors
of the beginning, who all can leave. -/
theorem of_session (fresh : FreshFor keys first s) {key : ActorKey} {session : Session}
    (opened : s.sessions.get? key = some session) :
    (first.actor session.actor).key = key ∧ first.CanLeave session.actor :=
  fresh.filed _ (OrderedMap.mem_of_get? opened)

/-- Drawing a menu does not depend on what was resolved before. So whoever draws it, and whenever, shows the same. -/
theorem resolved (fresh : FreshFor keys first s) (unchanging : first.Unchanging) {session : Session}
    {menu : Menu} {slots : Option (List SlotName)} (pure : menu.IsPure) {result : _} {ledger : Ledger}
    (step : (s.drawing session menu slots).run.run (openLedger s) = (result, ledger)) :
    result = answerOf (first.drawing session menu slots) ∧
      FreshFor keys first { s with ledger } := by
  have steady : Steady first.classes (first.drawing session menu slots) :=
    first.steady_drawing pure unchanging.registered slots
  obtain ⟨same, sound⟩ := steady (openLedger s) fresh.sound
  rw [fresh.still.drawing] at step
  rw [step] at same sound
  exact ⟨same, fresh.congr ⟨rfl, rfl, rfl, rfl, rfl⟩ sound rfl rfl⟩

/-- What holds for all holds for all but one. With that the one can be dealt with by itself. -/
theorem apartFrom (fresh : Fresh first s) (key : ActorKey) : FreshFor (· ≠ key) first s :=
  ⟨fresh.still, fresh.sound, fresh.filed, fun other session _ => fresh.seen other session trivial⟩

/-- If it holds for all but one actor, what is missing is that this one sees what is to be seen. -/
theorem complete {key : ActorKey} (fresh : FreshFor (· ≠ key) first s) (stands : Still s t)
    (sound : t.ledger.accessors.Sound first.classes) (sessions : t.sessions = s.sessions)
    (others : ∀ other, other ≠ key → t.screen.get? other = s.screen.get? other)
    (seen : ∀ session, s.sessions.get? key = some session → Seen first t.screen key session) :
    Fresh first t where
  still := fresh.still.trans stands
  sound
  filed := by
    rw [sessions]
    exact fresh.filed
  seen other session _ opened := by
    rw [sessions] at opened
    by_cases own : other = key
    · subst own
      exact seen session opened
    · exact (fresh.seen other session own opened).congr (others other own)

/-- Drawing the menu of a session on its surface shows the actor what is to be seen, whatever was there before. The
title and all items are drawn anew, so nothing of before is left. -/
theorem render_full (unchanging : first.Unchanging) {session : Session} {menu : Menu}
    {surface : Surface} (fresh : FreshFor (· ≠ (first.actor session.actor).key) first s)
    (opened : s.sessions.get? (first.actor session.actor).key = some session)
    (known : first.menu? session.menu = some menu)
    (there : s.screen.get? (first.actor session.actor).key = some surface)
    (size : surface.size = menu.size) :
    Fresh first (outcome (render session menu none) s).2 := by
  have keyed := fresh.still.keyed (fresh.of_session opened).2
  obtain ⟨pair, member, rfl⟩ := EngineState.mem_of_menu? known
  obtain ⟨result, ledger, step, done⟩ := render_cases session pair.2 none s
  obtain ⟨same, after⟩ := fresh.resolved unchanging (unchanging.menus pair member) step
  rcases done with ⟨cause, failed, done⟩ | ⟨title, grid, -, drawn, done⟩
  · rw [done]
    refine after.complete ⟨rfl, rfl, rfl, rfl, rfl⟩ after.sound rfl (fun _ _ => rfl) fun other isSession => ?_
    cases opened.symm.trans isSession
    refine ⟨pair.2, surface, known, there, size, fun title grid anew => ?_⟩
    rw [← same, failed keyed] at anew
    cases anew
  · rw [done, fresh.still.actor]
    have screen := EngineState.drawn_screen { s with ledger } (first.actor session.actor).key
    refine after.complete ⟨rfl, rfl, rfl, rfl, rfl⟩ after.sound rfl (fun other different => ?_)
      fun other isSession => ?_
    · rw [screen, if_neg (Ne.symm different)]
    · cases opened.symm.trans isSession
      refine ⟨pair.2, surface.draw title grid none, known, ?_, (Surface.draw_size ..).trans size, ?_⟩
      · rw [screen, if_pos rfl]
        exact congrArg _ there
      · intro title' grid' anew
        rw [← same, drawn] at anew
        cases anew
        exact ⟨rfl, rfl⟩

/-- Drawing some slots leaves what is to be seen as it is. In the slots that are drawn there comes what was there, as
nothing that a drawing depends on has changed. -/
theorem render_some (unchanging : first.Unchanging) {session : Session} {menu : Menu}
    {names : List SlotName} (fresh : Fresh first s)
    (opened : s.sessions.get? (first.actor session.actor).key = some session)
    (known : first.menu? session.menu = some menu) :
    Fresh first (outcome (render session menu (some names)) s).2 := by
  obtain ⟨pair, member, rfl⟩ := EngineState.mem_of_menu? known
  obtain ⟨result, ledger, step, done⟩ := render_cases session pair.2 (some names) s
  obtain ⟨same, after⟩ := fresh.resolved unchanging (unchanging.menus pair member) step
  rcases done with ⟨cause, -, done⟩ | ⟨title, part, -, drawn, done⟩
  · rw [done]
    exact after
  · rw [done, fresh.still.actor]
    have screen := EngineState.drawn_screen { s with ledger } (first.actor session.actor).key
    refine (after.apartFrom (first.actor session.actor).key).complete ⟨rfl, rfl, rfl, rfl, rfl⟩ after.sound
      rfl (fun other different => ?_) fun other isSession => ?_
    · rw [screen, if_neg (Ne.symm different)]
    · cases opened.symm.trans isSession
      obtain ⟨menu, surface, isMenu, there, size, shows⟩ := fresh.seen _ session trivial opened
      cases known.symm.trans isMenu
      refine ⟨pair.2, surface.draw title part (some names), known, ?_,
        (Surface.draw_size ..).trans size, ?_⟩
      · rw [screen, if_pos rfl]
        exact congrArg _ there
      -- The slots drawn now agree with a full drawing; all others showed it before.
      · intro title' grid anew
        obtain ⟨-, items⟩ := shows title' grid anew
        have partial' := EngineState.drawing_restrict (unchanging.menus pair member) unchanging.registered anew names
        rw [← same, drawn] at partial'
        cases partial'
        have agree := Grid.agreeOn_restrict grid (names.map (·.slot))
        rw [← items] at agree ⊢
        exact ⟨rfl, Surface.items_drawSlots agree⟩

/-- When an actor has left a menu, it holds for all others still. For the one who left there is a session without a
surface, for a moment. -/
theorem leaving (fresh : Fresh first s) (ref : Nat) :
    FreshFor (· ≠ (first.actor ref).key) first (s.left ref) where
  still := fresh.still.trans ⟨rfl, rfl, rfl, rfl, HandlerRegistry.scopes_withoutActor _ _⟩
  sound := fresh.sound
  filed := fresh.filed
  seen other session different opened := by
    refine (fresh.seen other session trivial opened).congr ?_
    change (s.leaving (s.actor ref).key).screen.get? other = _
    rw [EngineState.leaving_screen, fresh.still.actor, if_neg (Ne.symm different)]

/-- An actor who has entered a menu sees nothing yet, but has a surface of the right size. For all others nothing has
changed. -/
theorem entering {ref : Nat} (fresh : FreshFor (· ≠ (first.actor ref).key) first s)
    (can : first.CanLeave ref) (menu : Menu) (context : Value) :
    FreshFor (· ≠ (first.actor ref).key) first
      (s.entering (first.actor ref).key ref menu context) where
  still := fresh.still.trans ⟨rfl, rfl, rfl, rfl, rfl⟩
  sound := fresh.sound
  filed pair member := by
    rcases OrderedMap.mem_put member with there | new
    · exact fresh.filed pair there
    · rw [new]
      exact ⟨rfl, can⟩
  seen other session different opened := by
    have sessions := s.entering_sessions ref menu context other
    have screen := s.entering_screen ref menu context other
    rw [fresh.still.actor, if_neg (Ne.symm different)] at sessions screen
    exact (fresh.seen other session different (sessions.symm.trans opened)).congr screen

/-- A session that is changed for the same actor and the same menu leaves what all others see as it is. The one actor
may see something that is out of date, until there is a drawing. -/
theorem adjusting (fresh : Fresh first s) (key : ActorKey) (change : Session → Session)
    (actor : ∀ session, (change session).actor = session.actor) :
    FreshFor (· ≠ key) first { s with sessions := s.sessions.adjust key change } where
  still := fresh.still.trans ⟨rfl, rfl, rfl, rfl, rfl⟩
  sound := fresh.sound
  filed pair member := by
    rcases OrderedMap.mem_adjust member with there | ⟨session, there, changed⟩
    · exact fresh.filed pair there
    · rw [changed, actor]
      exact fresh.filed _ there
  seen other session different opened := by
    have sessions := OrderedMap.get?_adjust key other change s.sessions
    rw [if_neg (Ne.symm different)] at sessions
    exact fresh.seen other session trivial (sessions.symm.trans opened)

/-- Entering a menu shows it, or leaves the screen without anything that is out of date if the drawing fails. -/
theorem enter {ref : Nat} {menu : Menu} {name : String} {context : Value}
    (unchanging : first.Unchanging) (fresh : FreshFor (· ≠ (first.actor ref).key) first s)
    (can : first.CanLeave ref) (known : first.menu? name = some menu) :
    Fresh first (outcome (Engine.enter ref menu context) s).2 := by
  obtain ⟨pair, member, rfl⟩ := EngineState.mem_of_menu? known
  rw [outcome_enter (fresh.still.keyed can), fresh.still.actor]
  have sessions := s.entering_sessions ref pair.2 context (first.actor ref).key
  have screen := s.entering_screen ref pair.2 context (first.actor ref).key
  rw [fresh.still.actor, if_pos rfl] at sessions screen
  exact (fresh.entering can pair.2 context).render_full unchanging sessions
    (unchanging.own pair member) screen rfl

end FreshFor

namespace Fresh

variable {first : EngineState}

/-- Leaving a notice changes nothing that is to be seen. -/
theorem keeps_note {notice : Notice} : Keeps (Fresh first) (note notice) :=
  fun _ fresh => fresh.congr ⟨rfl, rfl, rfl, rfl, rfl⟩ fresh.sound rfl rfl

/-- Closing a menu takes a session and its surface away, and what the others see is as it was. -/
theorem keeps_close {ref : Nat} : Keeps (Fresh first) (close ref) := by
  apply Engine.keeps_close
  intro s session keyed opened fresh
  obtain ⟨same, leaver⟩ := fresh.of_session opened
  rw [outcome_tearDown (s := { s with sessions := s.sessions.erase (s.actor ref).key })
    (fresh.still.canLeave.mpr leaver)]
  have left := fresh.leaving session.actor
  rw [same] at left
  refine ⟨left.still.trans ⟨rfl, rfl, rfl, rfl, rfl⟩, fresh.sound, fun pair member =>
    fresh.filed pair (OrderedMap.mem_erase member).1, fun key other _ there => ?_⟩
  have sessions := OrderedMap.get?_erase (s.actor ref).key key s.sessions
  change (s.sessions.erase (s.actor ref).key).get? key = some other at there
  rw [sessions] at there
  split at there
  · cases there
  · rename_i different
    exact left.seen key other (Ne.symm different) there

variable (unchanging : first.Unchanging)

include unchanging

/-- Opening a menu shows it to the actor, and what the others see is as it was. -/
theorem keeps_openMenu {ref : Nat} {name : String} {context : Value} {keep : Bool}
    (can : first.CanLeave ref) : Keeps (Fresh first) (openMenu ref name context keep) := by
  apply Engine.keeps_openMenu (fun _ => keeps_note)
  · intro s menu context keyed known closed fresh
    rw [fresh.still.menu?] at known
    exact (fresh.apartFrom _).enter unchanging can known
  · intro s menu session context keyed known opened fresh
    rw [fresh.still.menu?] at known
    obtain ⟨same, leaver⟩ := fresh.of_session opened
    rw [outcome_bind_ok _ (outcome_tearDown (fresh.still.canLeave.mpr leaver))]
    have left := fresh.leaving session.actor
    rw [same, fresh.still.actor] at left
    exact left.enter unchanging can known

/-- Drawing the menu of a session that was changed shows the actor what is to be seen, if there was a surface before. -/
theorem render_changed {s : EngineState} {ref : Nat} {session : Session} {menu : Menu}
    (fresh : Fresh first s) (opened : s.session? ref = some session)
    (known : s.menu? session.menu = some menu) (change : Session → Session)
    (actor : ∀ session, (change session).actor = session.actor)
    (sameMenu : ∀ session, (change session).menu = session.menu) :
    Fresh first (outcome (render (change session) menu none)
      { s with sessions := s.sessions.adjust (s.actor ref).key change }).2 := by
  rw [fresh.still.menu?] at known
  have same : (s.actor ref).key = (first.actor (change session).actor).key := by
    rw [actor, (fresh.of_session opened).1]
  obtain ⟨menu', surface, isMenu, there, size, -⟩ := fresh.seen _ session trivial opened
  cases known.symm.trans isMenu
  have adjusted := OrderedMap.get?_adjust (s.actor ref).key (s.actor ref).key change s.sessions
  rw [if_pos rfl] at adjusted
  have turned := adjusted.trans (congrArg _ opened)
  have changed := fresh.adjusting (s.actor ref).key change actor
  rw [same] at changed turned there ⊢
  refine changed.render_full unchanging turned ?_ there size
  rw [sameMenu]
  exact known

/-- Going to a page changes the session and draws it, so the page is seen that the session is on. -/
theorem keeps_setPage {ref : Nat} {page : Int} : Keeps (Fresh first) (setPage ref page) :=
  Engine.keeps_setPage fun _ _ _ _ opened known _ fresh =>
    render_changed unchanging fresh opened known (fun session => { session with page }) (fun _ => rfl)
      fun _ => rfl

/-- Drawing a menu again, all of it or some slots, shows what is there already. -/
theorem keeps_redraw {ref : Nat} {slots : Option (List SlotName)} :
    Keeps (Fresh first) (redraw ref slots) := by
  apply Engine.keeps_redraw
  intro s session menu keyed opened known fresh
  rw [fresh.still.menu?] at known
  have same := (fresh.of_session opened).1
  rw [EngineState.session?, ← same] at opened
  cases slots with
  | some names => exact fresh.render_some unchanging opened known
  | none =>
    obtain ⟨menu', surface, isMenu, there, size, -⟩ := fresh.seen _ session trivial opened
    cases known.symm.trans isMenu
    exact (fresh.apartFrom _).render_full unchanging opened known there size

/-- Changing a context and drawing the menu again shows what is to be seen with the new context. -/
theorem keeps_updateAndRefresh {ref : Nat} {context : Value} :
    Keeps (Fresh first) (updateAndRefresh ref context) := by
  intro s fresh
  unfold updateAndRefresh
  rcases keyOf_cases ref s with ⟨cause, failed⟩ | ⟨keyed, -⟩
  · have stopped : outcome (updateContext ref context) s = (.error cause, s) :=
      outcome_bind_error _ failed
    rw [outcome_bind_error _ stopped]
    exact fresh
  · have updated := outcome_updateContext keyed context
    cases opened : s.session? ref with
    | none =>
      rw [opened] at updated
      rw [outcome_bind_ok _ updated]
      exact keeps_bind (keeps_redraw unchanging) (fun _ => keeps_pure ()) s fresh
    | some session =>
      rw [opened] at updated
      rw [outcome_bind_ok _ updated, outcome_bind_answer, refresh]
      obtain ⟨menu, surface, known, -⟩ := fresh.seen _ session trivial opened
      rw [← fresh.still.menu?] at known
      have adjusted := OrderedMap.get?_adjust (s.actor ref).key (s.actor ref).key
        (fun session => { session with context }) s.sessions
      rw [if_pos rfl] at adjusted
      let changed := { s with sessions := s.sessions.setContext (s.actor ref).key context }
      have turned : changed.session? ref = some { session with context } :=
        adjusted.trans (congrArg _ opened)
      rw [outcome_redraw (s := changed) keyed turned known, outcome_bind_answer]
      exact render_changed unchanging fresh opened known (fun session => { session with context })
        (fun _ => rfl) fun _ => rfl

/-- Forcing a refresh draws the menu again and notes it, which is not to be seen. -/
theorem keeps_forceRefresh {ref : Nat} : Keeps (Fresh first) (forceRefresh ref) := by
  apply Engine.keeps_forceRefresh (keeps_redraw unchanging)
  intro number
  apply keeps_markRefreshed
  exact fun s _ fresh => fresh.congr ⟨rfl, rfl, rfl, rfl, rfl⟩ fresh.sound rfl rfl

/-- What an engine does by itself for an actor who can leave keeps what is seen up to date. -/
theorem served {ref : Nat} (can : first.CanLeave ref) : Served (Fresh first) ref where
  told _ _ fresh := fresh.congr ⟨rfl, rfl, rfl, rfl, rfl⟩ fresh.sound rfl rfl
  noted _ := keeps_note
  opened _ := keeps_openMenu unchanging can
  closed := keeps_close
  turned _ := keeps_setPage unchanging
  refreshed := keeps_redraw unchanging

/-- A tick draws menus again, in whole or in part, and what is seen is as it was. -/
theorem keeps_tick : Keeps (Fresh first) tick := by
  apply Engine.keeps_tick
  · exact fun s fresh => fresh.congr ⟨rfl, rfl, rfl, rfl, rfl⟩ fresh.sound rfl rfl
  · exact fun _ => keeps_note
  · exact fun _ _ => keeps_redraw unchanging
  · exact fun _ _ => keeps_markRefreshed fun s _ fresh =>
      fresh.congr ⟨rfl, rfl, rfl, rfl, rfl⟩ fresh.sound rfl rfl

/-- Every operation after which menus are drawn keeps what is seen up to date, if callbacks do. -/
theorem keeps_run {c : HostCall} {calling : Calling} (redraws : c.Redraws first)
    (answers : ∀ ref, c.actor? = some ref → ∀ info callback, Keeps (Fresh first) (calling ref info callback)) :
    Keeps (Fresh first) (c.run calling) := by
  cases c
  case openMenu ref name context keep => exact keeps_openMenu unchanging redraws
  case close ref => exact keeps_close
  case setPage ref page => exact keeps_setPage unchanging
  case refresh ref => exact keeps_redraw unchanging
  case refreshSlots ref slots => exact keeps_redraw unchanging
  case updateAndRefresh ref context => exact keeps_updateAndRefresh unchanging
  case click ref slot type => exact keeps_clickWith (served unchanging redraws) (answers ref rfl)
  case tick => exact keeps_tick unchanging
  case forceRefresh ref => exact keeps_forceRefresh unchanging
  case forceRefreshAll => exact keeps_forceRefreshAll fun _ => keeps_forceRefresh unchanging
  all_goals exact redraws.elim

end Fresh

/-- The surface of an actor shows what drawing the menu of a session anew would show: the title with its
tokens replaced, and the layout of all slots for the page and the context of the session. -/
def EngineState.Shows (s : EngineState) (key : ActorKey) (session : Session) : Prop :=
  ∃ menu surface, s.menu? session.menu = some menu ∧ s.screen.get? key = some surface ∧
    surface.size = menu.size ∧
    ∀ title grid ledger,
      (s.drawing session menu none).run.run (openLedger s) = (.ok (title, grid), ledger) →
        surface.title = title ∧ surface.items = grid

/-- Whatever is asked for, by a host or by callbacks in the course of a click, every open menu is shown as it is
whenever an operation has ended, with an answer or with a failure.

Proof: by the invariant `Fresh`, which says of every open menu that its surface has the title and the items of a
drawing of it. A drawing makes this so for its own session and touches no other, and every operation that changes what
a drawing depends on draws again before it ends. Since the resolvers have no memory, it makes no difference when the
drawing is made. -/
theorem shows_of_reaches {first s : EngineState} (empty : first.sessions = [])
    (unchanging : first.Unchanging) (run : Reaches (HostCall.Redraws first) first s) {key : ActorKey}
    {session : Session} (opened : s.sessions.get? key = some session) : s.Shows key session := by
  have start : Fresh first first := {
    still := ⟨rfl, rfl, rfl, rfl, rfl⟩
    sound := unchanging.sound
    filed := by simp [empty]
    seen := by simp [empty, OrderedMap.get?] }
  have fresh : Fresh first s := by
    refine run.holds (fun code => ?_) start
    exact code.keeps (fun _ _ fresh => fresh.congr ⟨rfl, rfl, rfl, rfl, rfl⟩ fresh.sound rfl rfl)
      fun _ _ redraws answers => Fresh.keeps_run unchanging redraws answers
  obtain ⟨menu, surface, known, there, size, shows⟩ := fresh.seen key session trivial opened
  refine ⟨menu, surface, (fresh.still.menu? _).trans known, there, size, fun title grid ledger anew => ?_⟩
  obtain ⟨pair, member, rfl⟩ := EngineState.mem_of_menu? known
  obtain ⟨same, -⟩ := fresh.resolved unchanging (unchanging.menus pair member) anew
  exact shows title grid same.symm

omit [Machine] in
/-- An engine like the small shop, with one of its menus and any actors, has nothing that could change what is drawn.
Its resolvers have no memory, and there is no predicate that a host has registered. -/
theorem unchanging_smallShop (actors : List Actor) : { smallShop with actors }.Unchanging where
  registered := ⟨by simp [smallShop], by simp [smallShop], by simp [smallShop], by simp [smallShop]⟩
  menus pair member := by
    cases List.mem_singleton.mp member
    refine ⟨fun item isItem => ?_, fun pages isPages entry isEntry => ?_⟩
    · cases List.mem_singleton.mp isItem
      exact ⟨by simp, by simp⟩
    · cases isPages
      rcases List.mem_cons.mp isEntry with rfl | isSecond
      · exact ⟨by simp, by simp⟩
      · cases List.mem_singleton.mp isSecond
        exact ⟨by simp, by simp⟩
  own pair member := by
    cases List.mem_singleton.mp member
    rfl
  sound := sound_nil

/-- The small shop after the first actor has opened the menu and gone to its second page. -/
def turnedShop : EngineState :=
  (outcome (setPage 0 1) (outcome (openMenu 0 "shop" .null false) smallShop).2).2

omit [Machine] in
/-- What scripts ask for on behalf of an actor who can leave has menus drawn. For each of them the drawing follows
within the operation. -/
theorem HostCall.IsOwn.redraws {first : EngineState} {ref : Nat} (can : first.CanLeave ref) {c : HostCall}
    (own : c.IsOwn ref) : c.Redraws first := by
  cases c
  case openMenu actor name context keep =>
    cases own
    exact can
  all_goals first | exact trivial | exact own.elim

end

/-- In the shop that was turned the first actor sees the second page: a wooden item beside the door. -/
theorem shows_turnedShop :
    (∃ session, turnedShop.sessions.get? (.text "ann") = some session ∧
      turnedShop.Shows (.text "ann") session) ∧
    (turnedShop.screen.get? (.text "ann")).map (·.items.map fun item => (item.1, item.2.material)) =
      some [(0, "DOOR"), (1, "WOOD")] := by
  have can : smallShop.CanLeave 0 := ⟨"ann", rfl, by decide⟩
  have code (c : HostCall) (forFirst : c.actor? = some 0) (redraws : c.Redraws smallShop) :
      HostCode (HostCall.Redraws smallShop) (c.run call) := by
    refine .scripted c redraws fun ref found other own => ?_
    rw [forFirst] at found
    cases found
    exact own.redraws can
  have opened : Reaches (HostCall.Redraws smallShop) smallShop _ :=
    .after .here (.openMenu 0 "shop" .null false) call (code _ rfl can)
  have turned : Reaches (HostCall.Redraws smallShop) smallShop turnedShop :=
    .after opened (.setPage 0 1) call (code _ rfl trivial)
  have there : (turnedShop.sessions.get? (.text "ann")).isSome = true := by decide +kernel
  obtain ⟨session, found⟩ := Option.isSome_iff_exists.mp there
  refine ⟨⟨session, found, ?_⟩, by decide +kernel⟩
  exact shows_of_reaches rfl (unchanging_smallShop smallShop.actors) turned found

section

variable [Machine]

/-- The small shop with an actor whose id is empty. -/
def namelessShop : EngineState :=
  { smallShop with actors := [{ id := .text "", name := .text "Nobody" }] }

end

/-- An actor with an empty id who opens a menu twice has it open and sees nothing: the second time fails
when the handlers of the actor are to be removed, and the surface is gone by then. -/
theorem hidden_namelessShop :
    namelessShop.sessions = [] ∧ namelessShop.Unchanging ∧
    ∃ session, (outcome (openMenu 0 "shop" .null false)
        (outcome (openMenu 0 "shop" .null false) namelessShop).2).2.sessions.get? (.text "") = some session ∧
      ¬ (outcome (openMenu 0 "shop" .null false)
        (outcome (openMenu 0 "shop" .null false) namelessShop).2).2.Shows (.text "") session := by
  refine ⟨rfl, unchanging_smallShop _, ?_⟩
  generalize final : (outcome (openMenu 0 "shop" .null false)
    (outcome (openMenu 0 "shop" .null false) namelessShop).2).2 = s
  have there : (s.sessions.get? (.text "")).isSome = true := by
    rw [← final]
    decide +kernel
  have hidden : (s.screen.get? (.text "")).isNone = true := by
    rw [← final]
    decide +kernel
  obtain ⟨session, found⟩ := Option.isSome_iff_exists.mp there
  refine ⟨session, found, ?_⟩
  rintro ⟨menu, surface, -, shown, -⟩
  rw [Option.isNone_iff_eq_none.mp hidden] at shown
  cases shown

end ChestMenu
