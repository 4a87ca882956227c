import ChestMenu.Proofs.Dispatch
import ChestMenu.Proofs.Isolation

/-!
# Actors whom a host lets in

The ids of actors who are let in can be keys and count as true, but they need not be texts: whoever is named by a
number has no handlers of one's own and can leave a menu all the same.

As long as menus are opened for such actors only, and the only handler of clicks in the player's inventory is the one
that takes things, no click and no closing fails. The opening of a menu that is there fails only if it cannot be
drawn, and the menu before is gone by then; so does the going to a page, and then the session is on that page.
-/
namespace ChestMenu

open Engine

/-- An actor who is let in: one of the actors, with an id that can be a key and counts as true. -/
structure EngineState.Welcome (s : EngineState) (ref : Nat) : Prop where
  present : ref < s.actors.length
  keyed : s.Keyed ref
  truthy : (s.actor ref).id.truthy = true

/-- All sessions are for actors who are let in, and none has become another. -/
structure Receives (first s : EngineState) : Prop extends Filed first s where
  welcome : ∀ pair ∈ s.sessions, first.Welcome pair.2.actor

/-- The only handler of clicks in the player's inventory is the one that takes things. -/
def EngineState.Deposits (s : EngineState) : Prop :=
  ∀ menu handler, s.inventoryHandlers.find? menu = some handler → handler = .deposit

variable {first s t : EngineState} {ref : Nat} {session : Session} {menu : Menu}

/-- Who is let in depends on the actors only. So it is carried along by every operation that makes no actor another. -/
theorem EngineState.Welcome.congr (welcome : s.Welcome ref) (actors : t.actors = s.actors) : t.Welcome ref := by
  have actor : t.actor ref = s.actor ref := by rw [EngineState.actor, actors, EngineState.actor]
  refine ⟨by rw [actors]; exact welcome.present, ?_, by rw [actor]; exact welcome.truthy⟩
  rw [EngineState.Keyed, actor]
  exact welcome.keyed

/-- Whoever is let in leaves a menu without a failure. If handlers cannot be cleared under the id, then there is none
that could have been registered under it. -/
theorem EngineState.Welcome.outcome_tearDown (welcome : s.Welcome session.actor) : ∃ legacyHandlers,
    outcome (tearDown session) s = (.ok (), { s.leaving (s.actor session.actor).key with legacyHandlers }) := by
  unfold tearDown
  rw [outcome_bind_ok _ (outcome_keyOf welcome.keyed), outcome_bind_ok _ (outcome_get s),
    outcome_bind_ok _ (outcome_set _ s)]
  split
  · rename_i cleans
    -- Handlers are looked for under texts only, and a text that counts as true is not the empty one.
    cases isText : (s.actor session.actor).textId? with
    | none => simp [isText, welcome.truthy] at cleans
    | some id =>
      have notEmpty : id ≠ "" := by
        rintro rfl
        have truthy := welcome.truthy
        unfold Actor.textId? at isText
        split at isText
        · rename_i text same
          cases isText
          rw [same] at truthy
          cases truthy
        · cases isText
      refine ⟨s.legacyHandlers.withoutActor (some id), ?_⟩
      rw [HandlerRegistry.clearScope_actor_some s.legacyHandlers notEmpty, outcome_bind_ok _ (outcome_ofExcept _ _),
        outcome_modify, HandlerRegistry.withoutActor_of_kept (Bool.and_eq_true_iff.mp cleans).1]
  · exact ⟨s.legacyHandlers, rfl⟩

variable [Machine]

namespace Receives

omit [Machine] in
/-- Other sessions than those that were there would have to be for actors who are let in. Taking sessions away does no
harm. -/
theorem of_subset (receives : Receives first s) (actors : t.actors = s.actors)
    (subset : ∀ pair ∈ t.sessions, pair ∈ s.sessions) : Receives first t where
  toFiled := receives.toFiled.of_subset actors subset
  welcome pair member := receives.welcome pair (subset pair member)

omit [Machine] in
/-- Leaving a menu lets in nobody who was not let in before. -/
theorem keeps_tearDown : Keeps (Receives first) (tearDown session) := by
  intro s receives
  rcases tearDown_cases session s with ⟨cause, done⟩ | ⟨cause, done⟩ | done | done
  all_goals
    rw [done]
    exact receives.of_subset rfl fun _ member => member

/-- Drawing makes no session and no actor. -/
theorem keeps_render {slots : Option (List SlotName)} : Keeps (Receives first) (render session menu slots) :=
  Engine.keeps_render (fun _ _ receives => receives.of_subset rfl fun _ member => member)
    fun _ _ _ _ receives => receives.of_subset rfl fun _ member => member

/-- Entering a menu makes a session, and it is for somebody who is let in. -/
theorem keeps_enter (welcome : first.Welcome ref) {context : Value} :
    Keeps (Receives first) (enter ref menu context) := by
  unfold enter
  apply keeps_keyOf_bind
  intro s keyed receives
  rw [outcome_bind_ok _ (outcome_get s), outcome_bind_ok _ (outcome_set _ s)]
  refine keeps_render _ ⟨receives.toFiled.entering ref menu context, fun pair member => ?_⟩
  rcases OrderedMap.mem_put member with there | rfl
  · exact receives.welcome pair there
  · exact welcome

/-- Whatever the engine does keeps all sessions for actors who are let in, as long as it opens menus for no others. -/
theorem upheld : Upheld (Receives first) first.Welcome where
  alike s t alike receives := receives.of_subset alike.actors fun pair member => by
    rwa [alike.sessions] at member
  adjusted s key change actor _ receives := by
    refine ⟨receives.toFiled.adjusting key change actor, fun pair member => ?_⟩
    rcases OrderedMap.mem_adjust member with there | ⟨session, there, rfl⟩
    · exact receives.welcome pair there
    · rw [actor]
      exact receives.welcome _ there
  opened _ welcome _ _ _ :=
    keeps_openMenu (fun _ _ receives => receives.of_subset rfl fun _ member => member)
      (fun s _ _ _ _ _ receives => keeps_enter welcome s receives)
      fun s _ _ _ _ _ _ receives => keeps_bind keeps_tearDown (fun _ => keeps_enter welcome) s receives
  closed _ := keeps_close fun _ _ _ _ receives => keeps_tearDown _ <|
    receives.of_subset rfl fun _ member => (OrderedMap.mem_erase member).1
  drawn _ _ _ := keeps_render

/-- Whatever a host asks for on behalf of actors who are let in keeps this, and so does whatever its callbacks ask
for. -/
theorem keeps_code {α : Type} {x : Engine α}
    (code : HostCode (fun c => ∀ ref, c.actor? = some ref → first.Welcome ref) x) : Keeps (Receives first) x := by
  refine code.keeps (fun _ _ receives => receives.of_subset rfl fun _ member => member) ?_
  intro c calling asked answers
  exact upheld.run c calling asked (fun _ _ receives => receives.of_subset rfl fun _ member => member) answers

end Receives

namespace EngineState.Deposits

/-- Sessions, surfaces and menus have nothing to do with the handlers. So a property of the handlers is kept by
drawing and by leaving. -/
theorem tended : Tended Deposits where
  alongside s t same deposits := by
    unfold Deposits
    rw [same.inventoryHandlers]
    exact deposits
  drawn _ _ _ := keeps_render (fun _ _ deposits => deposits) fun _ _ _ _ deposits => deposits
  left session s deposits := by
    rcases tearDown_cases session s with ⟨cause, done⟩ | ⟨cause, done⟩ | done | done
    all_goals
      rw [done]
      exact deposits

/-- Whatever a host asks for that registers nothing keeps the handlers what they are, and so does whatever its
callbacks ask for. -/
theorem keeps_code {α : Type} {x : Engine α} (code : HostCode (fun c => ¬c.Registers) x) : Keeps Deposits x :=
  code.keeps (fun _ _ deposits => deposits) fun _ _ spares answers =>
    tended.run (fun registers => absurd registers spares) answers

end EngineState.Deposits

namespace EngineState

/-- The handler that takes things decides about every click. Its answer is one of the words for decisions, so there is
nothing in it that could not be read. -/
theorem outcome_call_deposit (ref : Nat) (click : ClickContext) (s : EngineState) :
    ∃ (decision : InventoryDecision) (t : EngineState),
      outcome (call ref (.context click) .deposit) s = (.ok (.text decision.word), t) := by
  change ∃ decision t, outcome (if click.type.isShift then _ else _) s = _
  split
  · exact ⟨.cancel, _, rfl⟩
  · exact ⟨.allow, _, rfl⟩

/-- A click of an actor with a key does not fail. The one thing that could break it off is a handler that is asked to
decide, and the handlers here do decide. -/
theorem Deposits.click_answers (deposits : s.Deposits) (keyed : s.Keyed ref) (slot : Int) (type : ClickType) :
    ∃ answer t, outcome (click ref slot type) s = (.ok answer, t) := by
  unfold click
  cases asked : s.decider? ref slot with
  | none => exact clickWith_answers keyed asked
  | some pair =>
    obtain ⟨menu, handler⟩ := pair
    obtain ⟨-, -, registered⟩ := decider?_eq_some asked
    cases deposits _ _ registered
    rw [outcome_clickWith_asked keyed asked]
    obtain ⟨decision, t, decided⟩ :=
      outcome_call_deposit ref { actor := ref, menu := menu.id, slot, type } s
    have stands := (InventoryDecision.standsFor_word decision).1
    rw [ClickOutcome.afterHandler_of_standsFor (congrArg Prod.fst decided) stands]
    exact ⟨_, _, rfl⟩

omit [Machine] in
/-- Closing does not fail for whoever is let in. The session is for somebody who is let in, too, and such actors can
leave. -/
theorem Welcome.close_answers (welcome : s.Welcome ref) (receives : Receives s s) :
    ∃ answer t, outcome (close ref) s = (.ok answer, t) := by
  cases opened : s.session? ref with
  | none => exact ⟨_, _, outcome_close_none welcome.keyed opened⟩
  | some session =>
    have guest : s.Welcome session.actor := receives.welcome _ (OrderedMap.mem_of_get? opened)
    have left : { s with sessions := s.sessions.erase (s.actor ref).key }.Welcome session.actor := guest.congr rfl
    obtain ⟨legacyHandlers, done⟩ := left.outcome_tearDown
    exact ⟨_, _, (outcome_close_some welcome.keyed opened).trans (outcome_bind_ok _ done)⟩

/-- A menu was entered that could not be drawn. The surface is a new one without items, and what was open before is
gone. -/
structure Undrawn (s : EngineState) (ref : Nat) (menu : Menu) (context : Value) (t : EngineState) : Prop where
  actors : t.actors = s.actors
  session : t.sessions.get? (s.actor ref).key = some (s.newSession ref menu context)
  surface : t.screen.get? (s.actor ref).key = some (s.newSurface ref menu)
  others : ∀ key, key ≠ (s.actor ref).key →
    t.sessions.get? key = s.sessions.get? key ∧ t.screen.get? key = s.screen.get? key
  failed : ∃ ledger cause, ((s.drawing (s.newSession ref menu context) menu none).run.run ledger).1 = .error cause

/-- Entering a menu fails only if it cannot be drawn. Everything before the drawing is there already by then. -/
theorem enter_cases (keyed : s.Keyed ref) (menu : Menu) (context : Value) :
    (∃ t, outcome (enter ref menu context) s = (.ok (), t)) ∨
      ∃ cause t, outcome (enter ref menu context) s = (.error cause, t) ∧ s.Undrawn ref menu context t := by
  have entered : (s.entering (s.actor ref).key ref menu context).Keyed ref := keyed
  rw [outcome_enter keyed]
  obtain ⟨result, ledger, step, ⟨cause, failed, done⟩ | ⟨title, grid, -, -, done⟩⟩ :=
    render_cases (s.newSession ref menu context) menu none (s.entering (s.actor ref).key ref menu context)
  · refine Or.inr ⟨cause, _, done, rfl, ?_, ?_, fun key other => ⟨?_, ?_⟩,
      openLedger (s.entering (s.actor ref).key ref menu context), cause, ?_⟩
    · exact (s.entering_sessions ref menu context _).trans (if_pos rfl)
    · exact (s.entering_screen ref menu context _).trans (if_pos rfl)
    · exact (s.entering_sessions ref menu context _).trans (if_neg fun same => other same.symm)
    · exact (s.entering_screen ref menu context _).trans (if_neg fun same => other same.symm)
    · exact (congrArg Prod.fst step).trans (failed entered)
  · exact Or.inl ⟨_, done⟩

/-- Opening a menu answers that there is none, or that it was opened; it fails only if the menu cannot be drawn.
Leaving the menu before cannot fail for whoever is let in. -/
theorem Welcome.openMenu_cases (welcome : s.Welcome ref) (receives : Receives s s) (name : String) (context : Value)
    (keep : Bool) :
    (∃ ledger, s.menu? name = none ∧ outcome (openMenu ref name context keep) s = (.ok false, { s with ledger })) ∨
      (∃ t, outcome (openMenu ref name context keep) s = (.ok true, t)) ∨
      ∃ menu cause t, s.menu? name = some menu ∧ outcome (openMenu ref name context keep) s = (.error cause, t) ∧
        s.Undrawn ref menu (nextContext context keep (s.session? ref)) t := by
  unfold openMenu
  rw [outcome_bind_ok _ (outcome_get s)]
  cases known : s.menu? name with
  | none => exact Or.inl ⟨_, rfl, rfl⟩
  | some menu =>
    right
    dsimp only
    rw [outcome_bind_ok _ (outcome_sessionOf welcome.keyed)]
    cases opened : s.session? ref with
    | none =>
      dsimp only
      rcases enter_cases welcome.keyed menu (nextContext context keep none) with ⟨t, done⟩ | ⟨cause, t, failed, undrawn⟩
      · exact Or.inl ⟨t, outcome_bind_ok _ done⟩
      · exact Or.inr ⟨menu, cause, t, rfl, outcome_bind_error _ failed, undrawn⟩
    | some session =>
      dsimp only
      -- The menu before is left without a failure, so that only the drawing can fail.
      have guest : s.Welcome session.actor := receives.welcome _ (OrderedMap.mem_of_get? opened)
      have isKey : (s.actor session.actor).key = (s.actor ref).key := receives.key_of_session opened
      obtain ⟨legacyHandlers, left⟩ := guest.outcome_tearDown
      rw [outcome_bind_ok _ left]
      have keyed : ({ s.leaving (s.actor session.actor).key with legacyHandlers } : EngineState).Keyed ref :=
        welcome.keyed
      rcases enter_cases keyed menu (nextContext context keep (some session)) with
        ⟨t, done⟩ | ⟨cause, t, failed, undrawn⟩
      · exact Or.inl ⟨t, outcome_bind_ok _ done⟩
      · refine Or.inr ⟨menu, cause, t, rfl, outcome_bind_error _ failed, ?_⟩
        refine ⟨undrawn.actors, undrawn.session, undrawn.surface, fun key other => ?_, undrawn.failed⟩
        obtain ⟨sameSession, sameSurface⟩ := undrawn.others key other
        refine ⟨sameSession, sameSurface.trans ?_⟩
        rw [isKey]
        exact (s.leaving_screen _ _).trans (if_neg fun same => other same.symm)

/-- A session was put on a page that could not be drawn. -/
structure Turned (s : EngineState) (ref : Nat) (page : Int) (t : EngineState) : Prop where
  actors : t.actors = s.actors
  sessions : t.sessions = s.sessions.setPage (s.actor ref).key page
  screen : t.screen = s.screen
  failed : ∃ session menu ledger cause, s.session? ref = some session ∧ s.menu? session.menu = some menu ∧
    menu.HasPage page ∧ ((s.drawing { session with page } menu none).run.run ledger).1 = .error cause

/-- Going to a page fails only if the menu has the page and it cannot be drawn. Without a session, or without the
page, it is answered that there is none. -/
theorem Welcome.setPage_cases (welcome : s.Welcome ref) (receives : Receives s s) (page : Int) :
    (∃ answer t, outcome (setPage ref page) s = (.ok answer, t)) ∨
      ∃ cause t, outcome (setPage ref page) s = (.error cause, t) ∧ s.Turned ref page t := by
  cases opened : s.session? ref with
  | none =>
    refine Or.inl ⟨false, s, ?_⟩
    unfold setPage
    rw [outcome_bind_ok _ (outcome_sessionOf welcome.keyed), opened]
    rfl
  | some session =>
    have guest : s.Welcome session.actor := receives.welcome _ (OrderedMap.mem_of_get? opened)
    cases known : s.menu? session.menu with
    | none =>
      refine Or.inl ⟨false, s, ?_⟩
      unfold setPage
      rw [outcome_bind_ok _ (outcome_sessionOf welcome.keyed), opened]
      dsimp only
      rw [outcome_bind_ok _ (outcome_get s), known]
      rfl
    | some menu =>
      by_cases inside : menu.HasPage page
      · rw [outcome_setPage_inside welcome.keyed opened known inside]
        obtain ⟨result, ledger, step, ⟨cause, failed, done⟩ | ⟨title, grid, -, -, done⟩⟩ :=
          render_cases { session with page } menu none (s.turning ref page)
        · refine Or.inr ⟨cause, _, outcome_bind_error _ done, rfl, rfl, rfl, session, menu,
            openLedger (s.turning ref page), cause, opened, known, inside, ?_⟩
          exact (congrArg Prod.fst step).trans (failed guest.keyed)
        · exact Or.inl ⟨_, _, outcome_bind_ok _ done⟩
      · exact Or.inl ⟨_, _, outcome_setPage_outside welcome.keyed opened known inside⟩

end EngineState

end ChestMenu
