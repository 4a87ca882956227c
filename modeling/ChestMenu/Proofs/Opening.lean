import ChestMenu.Proofs.Lockstep
import ChestMenu.Proofs.Registries
import ChestMenu.Proofs.Revival

/-!
# Opening a menu, from any state

A name that stands for no menu is noted, and nothing else happens: whatever the actor has open stays open. Otherwise
the actor leaves the menu that is open, if one is, and enters the new one on its first page. What was open is looked
at before it is left, so that its context can be carried over; the surface, the time of the last refresh and the
actor's own handlers are gone by the time the new menu is drawn.

Only the drawing can fail then, and the opening succeeds exactly if the drawing does. Who has nothing open has nothing
to leave, and keeps the handlers.
-/
namespace ChestMenu

open Engine

namespace EngineState

section

variable {s t : EngineState} {ref : Nat} {name : String} {menu : Menu} {context : Value} {keep : Bool}

/-- What an actor has open is the session of an actor with the same id. -/
def HoldsOwn (s : EngineState) (ref : Nat) : Prop :=
  ∀ session, s.session? ref = some session → (s.actor session.actor).id = (s.actor ref).id

/-- The state in which an actor has left the menu that was open, if one was. -/
def departed (s : EngineState) (ref : Nat) : EngineState :=
  match s.session? ref with
  | some session => s.left session.actor
  | none => s

/-- The state in which a menu is drawn that an actor opens. -/
def arriving (s : EngineState) (ref : Nat) (menu : Menu) (context : Value) : EngineState :=
  (s.departed ref).entering (s.actor ref).key ref menu context

/-- What has become of a state in which an actor opened a menu. -/
structure Opened (s : EngineState) (ref : Nat) (menu : Menu) (context : Value) (keep : Bool) (t : EngineState) :
    Prop where
  /-- The actor has a new session on the first page. The context is the one given, but if none is given and the present
  one is to be kept, it is that of the session before. -/
  session : ∃ carried, t.sessions = s.sessions.put (s.actor ref).key
      { actor := ref, menu := menu.id, page := 0, context := carried, openedTick := s.tick,
        surface := some s.openedSurfaces } ∧
    (keep = true → context = .null → carried = ((s.session? ref).map (·.context)).getD .null) ∧
    (keep = false ∨ context ≠ .null → carried = context)
  /-- It is the only one under the actor's key. -/
  single : (OrderedMap.keys s.sessions).Nodup → (OrderedMap.keys t.sessions).Nodup
  /-- A surface of the menu that was drawn on is in the place of whatever was there. -/
  surface : ∃ title grid, t.screen.get? (s.actor ref).key = some ((s.newSurface ref menu).draw title grid none)
  /-- What was noted of a session before is gone, and so are all handlers of the actor. -/
  left : ∀ session, s.session? ref = some session →
    t.lastRefresh.get? (s.actor ref).key = none ∧
      (t.legacyHandlers.scopes.contains .actor = true →
        t.legacyHandlers.buckets.get? (.actor, (s.actor ref).textId?) = none) ∧
      ∀ name keys callback, keys HandlerScope.actor = (s.actor ref).textId? →
        t.legacyHandlers.lookup name keys ≠ some (callback, .actor)
  /-- Without a session before nothing is taken away. -/
  stayed : s.session? ref = none → t.lastRefresh = s.lastRefresh ∧ t.legacyHandlers = s.legacyHandlers
  /-- What belongs to other actors is as it was. -/
  others : ∀ key, key ≠ (s.actor ref).key →
    t.screen.get? key = s.screen.get? key ∧ t.lastRefresh.get? key = s.lastRefresh.get? key
  /-- What is registered for menus, for everyone and for other actors is as it was. -/
  handlers : t.legacyHandlers.scopes = s.legacyHandlers.scopes ∧
    ∀ bucket, bucket ≠ (.actor, (s.actor ref).textId?) →
      t.legacyHandlers.buckets.get? bucket = s.legacyHandlers.buckets.get? bucket
  /-- Nothing else has changed but the reports. -/
  rest : t = { s with
    sessions := t.sessions
    screen := t.screen
    openedSurfaces := s.openedSurfaces + 1
    lastRefresh := t.lastRefresh
    legacyHandlers := t.legacyHandlers
    ledger := t.ledger
    journal := t.journal }

/-- An orderly engine keeps the sessions of actors with names as their own. That is part of being orderly, stated for
one actor. -/
theorem holdsOwn_of_orderly {first : EngineState} (orderly : Orderly first s) (named : s.Named ref) :
    s.HoldsOwn ref := by
  intro session opened
  obtain ⟨id, isText, -⟩ := named
  obtain ⟨id', isText', -⟩ := orderly.named_of_session opened
  have same := orderly.key_of_session opened
  have isKey {actor : Actor} {id : String} (isText : actor.id = .text id) : actor.key = .text id :=
    Actor.key_of_textId? (by rw [Actor.textId?, isText])
  rw [isKey isText, isKey isText'] at same
  cases same
  rw [isText, isText']

/-- In every engine that a host has come to, actors with names hold their sessions as their own. This is why
`openMenu_exact` may ask for it. -/
theorem holdsOwn_of_reaches [Machine] {first : EngineState} (idle : first.Idle)
    (timed : first.running = true → first.config.hasTickLength = true) (run : Reaches (HostCall.Fits first) first s)
    (named : s.Named ref) : s.HoldsOwn ref := by
  have start : Orderly first first :=
    { actors := rfl, config := rfl, timed, named := by simp [idle.sessions], lockstep := idle.lockstep }
  exact holdsOwn_of_orderly (run.holds (fun code => code.keeps_orderly) start) named

/-- Whoever has the id of an actor with a name has that name. The name is made from the id alone. -/
theorem Named.of_id {other : Nat} (named : s.Named ref) (same : (s.actor other).id = (s.actor ref).id) :
    s.Named other := by
  obtain ⟨id, isText, notEmpty⟩ := named
  exact ⟨id, same.trans isText, notEmpty⟩

/-- A name that stands for no menu is noted. The answer is then no, and nothing else is done. -/
theorem outcome_openMenu_unknown [Machine] (unknown : s.menu? name = none) :
    outcome (openMenu ref name context keep) s =
      (.ok false, { s with ledger := { openLedger s with
        notices := s.ledger.notices ++ [.unknownMenuRequested name (s.actor ref).label] } }) := by
  unfold openMenu
  rw [outcome_bind_ok _ (outcome_get s), unknown]
  rfl

/-- A menu is opened by drawing it once the one before is left and a session is there for it. Leaving cannot fail for
an actor who has a key and holds the session, and the new session carries over what `nextContext` says. -/
theorem outcome_openMenu_known [Machine] (named : s.Named ref) (own : s.HoldsOwn ref)
    (known : s.menu? name = some menu) :
    outcome (openMenu ref name context keep) s =
      outcome (do
          render (s.newSession ref menu (nextContext context keep (s.session? ref))) menu none
          return true)
        (s.arriving ref menu (nextContext context keep (s.session? ref))) := by
  have keyed := named.canLeave.keyed
  unfold openMenu arriving departed
  rw [outcome_bind_ok _ (outcome_get s), known]
  dsimp only
  rw [outcome_bind_ok _ (outcome_sessionOf keyed)]
  cases opened : s.session? ref with
  | none =>
    change outcome (enter ref menu (nextContext context keep none) >>= fun _ => pure true) s = _
    rw [outcome_bind, outcome_enter keyed, ← outcome_bind]
  | some session =>
    have left := outcome_tearDown (named.of_id (own session opened)).canLeave
    have keyed' : (s.left session.actor).Keyed ref := keyed
    dsimp only
    rw [outcome_bind_ok _ left, outcome_bind, outcome_enter keyed', ← outcome_bind]
    rfl

/-- The context that is carried over is that of the session before, or none if there was no session. -/
theorem nextContext_keeping (previous : Option Session) :
    nextContext .null true previous = (previous.map (·.context)).getD .null := by
  cases previous <;> rfl

/-- The context that is given is the one that the new session has, unless none is given and the one before is to be
kept. -/
theorem nextContext_given (given : keep = false ∨ context ≠ .null) (previous : Option Session) :
    nextContext context keep previous = context := by
  rcases given with rfl | notNull
  · unfold nextContext
    split <;> rfl
  · unfold nextContext
    split
    · exact absurd rfl notNull
    · rfl

/-- Actors are the same on arrival. Only the session and the screen are new. -/
theorem arriving_actor (s : EngineState) (ref : Nat) (menu : Menu) (context : Value) (other : Nat) :
    (s.arriving ref menu context).actor other = s.actor other := by
  unfold arriving departed
  split <;> rfl

/-- The screen on arrival is the session's own for the key of the actor, and for all other keys it is the one before. -/
theorem arriving_screen (s : EngineState) (ref : Nat) (menu : Menu) (context : Value) (key : ActorKey) :
    (s.arriving ref menu context).screen.get? key =
      if (s.actor ref).key = key then some (s.newSurface ref menu) else (s.departed ref).screen.get? key := by
  have same : (s.departed ref).newSurface ref menu = s.newSurface ref menu ∧
      ((s.departed ref).actor ref).key = (s.actor ref).key := by
    unfold departed
    split <;> exact ⟨rfl, rfl⟩
  obtain ⟨surface, isKey⟩ := same
  rw [← surface, ← isKey]
  exact entering_screen _ ref menu context key

/-- Whoever has nothing open has nothing to leave. The state is the one that the opening found. -/
theorem departed_none (opened : s.session? ref = none) : s.departed ref = s := by
  rw [departed, opened]

/-- Whoever has something open leaves it. That the session is held as the actor's own is needed here, as another
actor's would not be the one to leave. -/
theorem departed_some {session : Session} (own : s.HoldsOwn ref) (opened : s.session? ref = some session) :
    s.departed ref = s.left ref := by
  have same := own session opened
  rw [departed, opened]
  -- Leaving goes by the id of the actor alone.
  simp only [left, Actor.key, Actor.textId?, same]

/-- A menu that was drawn on arrival is open. Its session has the first page and the context, its surface shows the
drawing, and what was noted of a session before has gone with that session. -/
theorem opened_of_drawn (own : s.HoldsOwn ref) {carried : Value}
    (next : carried = nextContext context keep (s.session? ref)) (ledger : Ledger) (title : String) (grid : Grid) :
    s.Opened ref menu context keep
      ({ s.arriving ref menu carried with ledger }.drawn (s.actor ref).key title grid none) := by
  constructor
  case session =>
    refine ⟨carried, ?_, ?_, fun given => next.trans (nextContext_given given _)⟩
    · unfold arriving departed
      split <;> rfl
    · rintro rfl rfl
      exact next.trans (nextContext_keeping _)
  case single =>
    intro once
    unfold arriving departed
    split <;> exact OrderedMap.nodup_put once
  case surface =>
    refine ⟨title, grid, (drawn_screen _ _ _ _ _ _).trans ?_⟩
    rw [if_pos rfl]
    exact congrArg _ ((s.arriving_screen ref menu carried _).trans (if_pos rfl))
  case left =>
    intro session opened
    unfold arriving
    rw [departed_some own opened]
    have bucket : (s.left ref).legacyHandlers.scopes.contains .actor = true →
        (s.left ref).legacyHandlers.buckets.get? (.actor, (s.actor ref).textId?) = none :=
      (s.gone_closed ref).bucket
    exact ⟨(OrderedMap.get?_erase _ _ _).trans (if_pos rfl), bucket,
      fun _ _ callback asked => HandlerRegistry.lookup_ne_actor bucket asked callback⟩
  case stayed =>
    intro opened
    unfold arriving
    rw [departed_none opened]
    exact ⟨rfl, rfl⟩
  case others =>
    intro key other
    have apart : (s.actor ref).key ≠ key := fun same => other same.symm
    refine ⟨(drawn_screen _ _ _ _ _ _).trans ?_, ?_⟩
    · rw [if_neg apart]
      refine (s.arriving_screen ref menu carried _).trans ((if_neg apart).trans ?_)
      cases opened : s.session? ref with
      | none => rw [departed_none opened]
      | some session =>
        rw [departed_some own opened]
        exact (s.leaving_screen _ _).trans (if_neg apart)
    · unfold arriving
      cases opened : s.session? ref with
      | none => rw [departed_none opened]; rfl
      | some session =>
        rw [departed_some own opened]
        exact (OrderedMap.get?_erase _ _ _).trans (if_neg apart)
  case handlers =>
    unfold arriving
    cases opened : s.session? ref with
    | none =>
      rw [departed_none opened]
      exact ⟨rfl, fun _ _ => rfl⟩
    | some session =>
      rw [departed_some own opened]
      refine ⟨HandlerRegistry.scopes_withoutActor _ _, fun bucket other => ?_⟩
      exact (HandlerRegistry.get?_withoutActor _ _ _).trans (if_neg fun ⟨_, same⟩ => other same.symm)
  case rest =>
    unfold arriving departed
    split <;> rfl

/-- Opening a menu that there is not is noted and does nothing else. A menu that there is is open in the end if it can
be drawn, and if it cannot, the opening fails for the same cause.

Proof: the opening is taken apart into what happens before the drawing, which cannot fail for an actor who has a key
and can leave, and the drawing itself. `outcome_openMenu_known` gives the state in which the drawing starts; whatever
comes of the drawing is then put into the screen and the ledger, and nothing else is touched by it. -/
theorem openMenu_exact [Machine] (named : s.Named ref) (own : s.HoldsOwn ref) (name : String) (context : Value)
    (keep : Bool) :
    (s.menu? name = none → outcome (openMenu ref name context keep) s =
      (.ok false, { s with ledger := { openLedger s with
        notices := s.ledger.notices ++ [.unknownMenuRequested name (s.actor ref).label] } })) ∧
      ∀ menu, s.menu? name = some menu → ∀ result t,
        outcome (render (s.newSession ref menu (nextContext context keep (s.session? ref))) menu none)
          (s.arriving ref menu (nextContext context keep (s.session? ref))) = (result, t) →
        outcome (openMenu ref name context keep) s = (result.map fun _ => true, t) ∧
          (result = .ok () → s.Opened ref menu context keep t) := by
  refine ⟨outcome_openMenu_unknown, fun menu known result t drawn => ⟨?_, ?_⟩⟩
  · rw [outcome_openMenu_known named own known, outcome_bind, drawn]
    cases result <;> rfl
  · rintro rfl
    obtain ⟨result, ledger, -, ⟨cause, -, failed⟩ | ⟨title, grid, -, -, found⟩⟩ :=
      render_cases (s.newSession ref menu (nextContext context keep (s.session? ref))) menu none
        (s.arriving ref menu (nextContext context keep (s.session? ref)))
    · cases failed.symm.trans drawn
    · cases found.symm.trans drawn
      rw [arriving_actor]
      exact opened_of_drawn own rfl ledger title grid

end

/-- The small shop when the first actor has entered the menu with something in hand. -/
def ladenShop : EngineState :=
  smallShop.entering (.text "ann") 0 smallMenu (.text "gold")

/-- In a shop where the first actor has one menu open and carries something in it, that actor opens the same menu
again and still has it in hand. There is no bank to open. -/
theorem openMenu_ladenShop :
    (∃ t, outcome (openMenu 0 "SHOP" .null true) ladenShop = (.ok true, t) ∧
      ladenShop.Opened 0 smallMenu .null true t) ∧
    (outcome (openMenu 0 "bank" .null true) ladenShop).1 = .ok false := by
  have named : ladenShop.Named 0 := ⟨"ann", rfl, by decide⟩
  have own : ladenShop.HoldsOwn 0 := by
    intro session opened
    cases opened
    rfl
  have gold : nextContext .null true (ladenShop.session? 0) = .text "gold" := rfl
  obtain ⟨-, known⟩ := openMenu_exact named own "SHOP" .null true
  rw [gold] at known
  have drawn : (outcome (render (ladenShop.newSession 0 smallMenu (.text "gold")) smallMenu none)
      (ladenShop.arriving 0 smallMenu (.text "gold"))).1.toOption.isSome = true := by
    decide +kernel
  rcases rendered : outcome (render (ladenShop.newSession 0 smallMenu (.text "gold")) smallMenu none)
      (ladenShop.arriving 0 smallMenu (.text "gold")) with ⟨_ | _, t⟩
  · rw [rendered] at drawn
    cases drawn
  · obtain ⟨opens, isOpen⟩ := known smallMenu rfl _ t rendered
    have noBank := (openMenu_exact named own "bank" .null true).1 rfl
    exact ⟨⟨t, opens, isOpen rfl⟩, by rw [noBank]⟩

end EngineState

end ChestMenu
