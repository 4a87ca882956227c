import ChestMenu.Engine.Menus
import ChestMenu.Engine.Refresh
import ChestMenu.Proofs.Outcome

/-!
# What becomes of the operations on sessions

Each operation is taken apart once, into the failures that leave the state alone and the states that it goes
through; every invariant of sessions is shown from that.

Leaving a menu is the only part that can break off in the middle: the handlers of an actor are
cleared after the surface is gone, and clearing fails for an empty id. Actors for whom it cannot
fail are told apart by name.
-/
namespace ChestMenu

open Engine

namespace Surface

/-- Drawing slots puts no other surface in the place of one. The induction is on the slots; each of them only changes
what stands in it. -/
theorem drawSlots_same (items : Grid) (slots : List SlotName) (surface : Surface) :
    (slots.foldl (drawSlot items) surface).number = surface.number ∧
      (slots.foldl (drawSlot items) surface).actor = surface.actor ∧
      (slots.foldl (drawSlot items) surface).size = surface.size := by
  induction slots generalizing surface with
  | nil => exact ⟨rfl, rfl, rfl⟩
  | cons slot slots ih =>
    have one : (drawSlot items surface slot).number = surface.number ∧
        (drawSlot items surface slot).actor = surface.actor ∧
        (drawSlot items surface slot).size = surface.size := by
      unfold drawSlot
      dsimp only
      split
      · exact ⟨rfl, rfl, rfl⟩
      · exact ⟨rfl, rfl, rfl⟩
    obtain ⟨number, actor, size⟩ := ih (drawSlot items surface slot)
    exact ⟨number.trans one.1, actor.trans one.2.1, size.trans one.2.2⟩

variable (surface : Surface) (title : String) (items : Grid) (slots : Option (List SlotName))

/-- A surface that is drawn on is still the same, it is for the same actor, and has the same size. So a session knows
its surface by the number, however often that was drawn on. -/
theorem draw_same :
    (surface.draw title items slots).number = surface.number ∧
      (surface.draw title items slots).actor = surface.actor ∧
      (surface.draw title items slots).size = surface.size := by
  cases slots with
  | none => exact ⟨rfl, rfl, rfl⟩
  | some slots => exact drawSlots_same items slots surface

@[simp] theorem draw_number : (surface.draw title items slots).number = surface.number :=
  (draw_same surface title items slots).1

@[simp] theorem draw_actor : (surface.draw title items slots).actor = surface.actor :=
  (draw_same surface title items slots).2.1

@[simp] theorem draw_size : (surface.draw title items slots).size = surface.size :=
  (draw_same surface title items slots).2.2

end Surface

/-- A text is a key as it stands. Of the other kinds of ids only numbers can be keys, and some of these fall
together. -/
theorem ActorKey.ofValue?_text (id : String) : ofValue? (.text id) = .ok (.text id) := rfl

/-- The key of an id that can be one is the key that the id is kept under. The reading of the key can fail, while
there is always something that the id is kept under. -/
theorem ActorKey.eq_of_ofValue? {id : Value} {key : ActorKey} (found : ofValue? id = .ok key) :
    key = ofValue id := by
  unfold ofValue? Value.requireKey at found
  cases fault : id.keyFault? with
  | some cause =>
    rw [fault] at found
    cases found
  | none =>
    rw [fault] at found
    cases found
    rfl

/-- An actor whose id is a text is kept under that text. These are the actors that everything else in an engine can be
filed for, too. -/
theorem Actor.key_of_textId? {actor : Actor} {id : String} (isText : actor.textId? = some id) :
    actor.key = .text id := by
  unfold textId? at isText
  split at isText
  · rename_i text found
    cases isText
    rw [key, found]
    rfl
  · cases isText

/-- Outside the scopes of menus and of everyone a key is filed under as it stands, if it is there. The empty text
counts as none, so nothing can be filed under it. -/
theorem HandlerScope.fileKey_written {scope : HandlerScope} {key filed : Option String}
    (needed : scope ≠ everywhere) (other : scope ≠ menu) :
    scope.fileKey key = .ok filed ↔ ∃ id, key = some id ∧ id ≠ "" ∧ filed = some id := by
  unfold fileKey
  split <;> simp_all
  exact eq_comm

/-- Handlers for actors are filed under the id of the actor as it stands, if they can be filed. The case of an id is
kept, as two ids that differ in it are two actors. -/
theorem HandlerScope.fileKey_actor {id key : Option String}
    (filed : HandlerScope.actor.fileKey id = .ok key) : key = id := by
  obtain ⟨_, rfl, -, rfl⟩ := (fileKey_written (by decide : actor ≠ everywhere) (by decide)).mp filed
  rfl

/-- An id that is not empty can be filed under. -/
theorem HandlerScope.fileKey_actor_some {id : String} (notEmpty : id ≠ "") :
    HandlerScope.actor.fileKey (some id) = .ok (some id) :=
  (fileKey_written (by decide : actor ≠ everywhere) (by decide)).mpr ⟨id, rfl, notEmpty, rfl⟩

/-- A registry without the handlers for an actor, if it keeps any for actors. -/
def HandlerRegistry.withoutActor (r : HandlerRegistry) (id : Option String) : HandlerRegistry :=
  if r.scopes.contains .actor then { r with buckets := r.buckets.erase (.actor, id) } else r

/-- A registry that keeps handlers of actors loses the bucket of the one, and nothing else. -/
theorem HandlerRegistry.withoutActor_of_kept {r : HandlerRegistry}
    (kept : r.scopes.contains .actor = true) (id : Option String) :
    r.withoutActor id = { r with buckets := r.buckets.erase (.actor, id) } :=
  if_pos kept

/-- A registry that keeps no handlers of actors stays as it is. -/
theorem HandlerRegistry.withoutActor_of_not_kept {r : HandlerRegistry}
    (kept : r.scopes.contains .actor = false) (id : Option String) : r.withoutActor id = r :=
  if_neg (by rw [kept]; decide)

/-- A registry keeps its scopes when it loses handlers. What is asked in which order is fixed when the registry is
made. -/
theorem HandlerRegistry.scopes_withoutActor (r : HandlerRegistry) (id : Option String) :
    (r.withoutActor id).scopes = r.scopes := by
  unfold withoutActor
  split <;> rfl

/-- A registry without the handlers for an actor has in a bucket what it had before, unless the bucket is that of the
actor. If the registry does not keep handlers for actors at all, it has lost nothing. -/
theorem HandlerRegistry.get?_withoutActor (r : HandlerRegistry) (id : Option String) (bucket : Bucket) :
    (r.withoutActor id).buckets.get? bucket =
      if r.scopes.contains .actor = true ∧ (.actor, id) = bucket then none else r.buckets.get? bucket := by
  cases kept : r.scopes.contains .actor with
  | false =>
    rw [withoutActor_of_not_kept kept, if_neg fun both => Bool.false_ne_true both.1]
  | true =>
    rw [withoutActor_of_kept kept]
    simp only [OrderedMap.get?_erase, true_and]

/-- Clearing the handlers of an actor takes away what is filed under the actor's id. If there was nothing under it,
nothing is taken away, and that is no failure. -/
theorem HandlerRegistry.clearScope_actor {r cleared : HandlerRegistry} {id : Option String}
    (done : r.clearScope .actor id = .ok cleared) :
    cleared = { r with buckets := r.buckets.erase (.actor, id) } := by
  unfold clearScope at done
  cases filed : HandlerScope.actor.fileKey id with
  | error cause =>
    rw [filed] at done
    cases done
  | ok key =>
    rw [filed, HandlerScope.fileKey_actor filed] at done
    cases done
    rfl

/-- The handlers of an actor whose id is not empty can be cleared. Clearing is refused for an empty id, and this is
the one thing that can keep an actor from leaving a menu. -/
theorem HandlerRegistry.clearScope_actor_some (r : HandlerRegistry) {id : String}
    (notEmpty : id ≠ "") :
    r.clearScope .actor (some id) =
      .ok { r with buckets := r.buckets.erase (.actor, some id) } := by
  unfold clearScope
  rw [HandlerScope.fileKey_actor_some notEmpty]
  rfl

/-- A menu with pages has a page of this number. -/
def Menu.HasPage (menu : Menu) (page : Int) : Prop :=
  menu.isPaginated = true ∧ 0 ≤ page ∧ page < menu.totalPages

/-- There is such a page if nothing speaks against it that is asked before the page is turned. The guard asks for all
of it in one expression, so this is where it is put into words. -/
theorem Menu.hasPage_iff (menu : Menu) (page : Int) :
    menu.HasPage page ↔
      (!menu.isPaginated || decide (page < 0) || decide (menu.totalPages ≤ page)) = false := by
  simp only [HasPage, Bool.or_eq_false_iff, Bool.not_eq_false', decide_eq_false_iff_not, Int.not_lt,
    Int.not_le, and_assoc]

namespace EngineState

/-- An actor whose id can be a key. -/
def Keyed (s : EngineState) (ref : Nat) : Prop :=
  ActorKey.ofValue? (s.actor ref).id = .ok (s.actor ref).key

/-- An actor whose id is a text that is not empty. -/
def Named (s : EngineState) (ref : Nat) : Prop :=
  ∃ id, (s.actor ref).id = .text id ∧ id ≠ ""

/-- An actor who leaves a menu without a failure: the id is a text, and not the empty one if handlers
are kept for actors. -/
def CanLeave (s : EngineState) (ref : Nat) : Prop :=
  ∃ id, (s.actor ref).id = .text id ∧ (s.legacyHandlers.scopes.contains .actor = true → id ≠ "")

/-- The state after an actor has left a menu altogether: the actor's handlers are gone too. -/
def left (s : EngineState) (ref : Nat) : EngineState :=
  { s.leaving (s.actor ref).key with
    legacyHandlers := s.legacyHandlers.withoutActor (s.actor ref).textId? }

/-- The state in which the session of an actor was put on a page that is not drawn yet. -/
def turning (s : EngineState) (ref : Nat) (page : Int) : EngineState :=
  { s with sessions := s.sessions.setPage (s.actor ref).key page }

/-- The surface that an actor gets who enters a menu. -/
def newSurface (s : EngineState) (ref : Nat) (menu : Menu) : Surface where
  number := s.openedSurfaces
  actor := (s.actor ref).id
  title := menu.title
  size := menu.size

variable {s : EngineState} {ref : Nat}

/-- After an actor has entered a menu there is a new session under the key of the actor, and under every other key
what there was before. -/
theorem entering_sessions (s : EngineState) (ref : Nat) (menu : Menu) (context : Value)
    (key : ActorKey) :
    (s.entering (s.actor ref).key ref menu context).sessions.get? key =
      if (s.actor ref).key = key then some (s.newSession ref menu context)
      else s.sessions.get? key :=
  OrderedMap.get?_put _ _ _ _

/-- After an actor has entered a menu there is a new surface under the key of the actor, with nothing on it yet, and
under every other key what there was before. -/
theorem entering_screen (s : EngineState) (ref : Nat) (menu : Menu) (context : Value)
    (key : ActorKey) :
    (s.entering (s.actor ref).key ref menu context).screen.get? key =
      if (s.actor ref).key = key then some (s.newSurface ref menu) else s.screen.get? key :=
  OrderedMap.get?_put _ _ _ _

/-- After an actor has left, there is no surface under the key, and all others are as they were. -/
theorem leaving_screen (s : EngineState) (gone key : ActorKey) :
    (s.leaving gone).screen.get? key = if gone = key then none else s.screen.get? key :=
  OrderedMap.get?_erase _ _ _

/-- A drawing draws on the surface under one key. If there is none, it is lost, and it never opens one. -/
theorem drawn_screen (s : EngineState) (target key : ActorKey) (title : String) (grid : Grid)
    (slots : Option (List SlotName)) :
    (s.drawn target title grid slots).screen.get? key =
      if target = key then (s.screen.get? key).map (·.draw title grid slots)
      else s.screen.get? key :=
  OrderedMap.get?_adjust _ _ _ _

/-- An actor with a name can leave. Both the key and the place of the handlers are found under the name then. -/
theorem Named.canLeave (named : s.Named ref) : s.CanLeave ref := by
  obtain ⟨id, isText, notEmpty⟩ := named
  exact ⟨id, isText, fun _ => notEmpty⟩

/-- An actor who can leave has an id that can be a key. The key is what the surface is taken away under. -/
theorem CanLeave.keyed (can : s.CanLeave ref) : s.Keyed ref := by
  obtain ⟨id, isText, -⟩ := can
  simp [Keyed, Actor.key, isText, ActorKey.ofValue?_text, ActorKey.ofValue, Value.plain]

end EngineState

namespace Engine

variable {α : Type} {P : EngineState → Prop} {s : EngineState}

/-- A key is found for an id that can be one; for any other the step fails. In neither case anything is changed. -/
theorem keyOf_cases (ref : Nat) (s : EngineState) :
    (∃ cause, outcome (keyOf ref) s = (.error cause, s)) ∨
      (s.Keyed ref ∧ outcome (keyOf ref) s = (.ok (s.actor ref).key, s)) := by
  have found : outcome (keyOf ref) s = (ActorKey.ofValue? (s.actor ref).id, s) := rfl
  cases key : ActorKey.ofValue? (s.actor ref).id with
  | error cause => exact Or.inl ⟨cause, by rw [found, key]⟩
  | ok k =>
    have same : k = (s.actor ref).key := ActorKey.eq_of_ofValue? key
    subst same
    exact Or.inr ⟨key, by rw [found, key]⟩

/-- The key of an actor whose id can be one is found, and the state is left as it is. -/
theorem outcome_keyOf {ref : Nat} (keyed : s.Keyed ref) :
    outcome (keyOf ref) s = (.ok (s.actor ref).key, s) := by
  have found : outcome (keyOf ref) s = (ActorKey.ofValue? (s.actor ref).id, s) := rfl
  rw [found, keyed]

/-- Without a key there is no session to be asked for. So every operation that begins with the session fails for such
an actor before it has done anything. -/
theorem outcome_sessionOf_error {ref : Nat} {cause : Failure}
    (failed : outcome (keyOf ref) s = (.error cause, s)) :
    outcome (sessionOf ref) s = (.error cause, s) := by
  unfold sessionOf
  rw [outcome_bind_ok _ (outcome_get s), outcome_bind_error _ failed]

/-- For an actor whose id can be a key it is told which session there is, if there is one. -/
theorem outcome_sessionOf {ref : Nat} (keyed : s.Keyed ref) :
    outcome (sessionOf ref) s = (.ok (s.session? ref), s) := by
  unfold sessionOf
  rw [outcome_bind_ok _ (outcome_get s), outcome_bind_ok _ (outcome_keyOf keyed)]
  rfl

/-- What begins with the key of an actor keeps what it keeps for a key that is there. If there is none, the step has
failed and changed nothing. -/
theorem keeps_keyOf_bind {ref : Nat} {f : ActorKey → Engine α}
    (rest : ∀ s, s.Keyed ref → P s → P (outcome (f (s.actor ref).key) s).2) :
    Keeps P (keyOf ref >>= f) := by
  intro s holds
  rcases keyOf_cases ref s with ⟨cause, failed⟩ | ⟨keyed, found⟩
  · rw [outcome_bind_error _ failed]
    exact holds
  · rw [outcome_bind_ok _ found]
    exact rest s keyed holds

/-- What begins with the session of an actor keeps what it keeps for the session that is there. What comes behind may
rely on it that the session is the one that was found in this very state. -/
theorem keeps_sessionOf_bind {ref : Nat} {f : Option Session → Engine α}
    (rest : ∀ s, s.Keyed ref → P s → P (outcome (f (s.session? ref)) s).2) :
    Keeps P (sessionOf ref >>= f) := by
  intro s holds
  rcases keyOf_cases ref s with ⟨cause, failed⟩ | ⟨keyed, found⟩
  · rw [outcome_bind_error _ (outcome_sessionOf_error failed)]
    exact holds
  · rw [outcome_bind_ok _ (outcome_sessionOf keyed)]
    exact rest s keyed holds

/-- What begins with a look at the state keeps what it keeps for the state that is there. The state that is looked at
is the one in which the rest begins, which the general law for two steps would forget. -/
theorem keeps_get_bind {f : EngineState → Engine α}
    (rest : ∀ s, P s → P (outcome (f s) s).2) : Keeps P (get >>= f) := by
  intro s holds
  rw [outcome_bind_ok _ (outcome_get s)]
  exact rest s holds

/-- Drawing breaks off with the state as it was but for the ledger, or it draws what was resolved on the surface of
the session's actor. This is all that can come of a drawing: what resolvers leave behind is in the ledger, and nothing
else but the surface is written to. -/
theorem render_cases [Machine] (session : Session) (menu : Menu) (slots : Option (List SlotName))
    (s : EngineState) :
    ∃ result ledger, (s.drawing session menu slots).run.run (openLedger s) = (result, ledger) ∧
      ((∃ cause, (s.Keyed session.actor → result = .error cause) ∧
          outcome (render session menu slots) s = (.error cause, { s with ledger })) ∨
        ∃ title grid, s.Keyed session.actor ∧ result = .ok (title, grid) ∧
          outcome (render session menu slots) s =
            (.ok (), { s with ledger }.drawn (s.actor session.actor).key title grid slots)) := by
  rcases step : (s.drawing session menu slots).run.run (openLedger s) with ⟨result, ledger⟩
  have resolved : outcome (resolving (s.drawing session menu slots).run) s =
      (.ok result, { s with ledger }) := by
    rw [outcome_resolving, step]
  refine ⟨result, ledger, rfl, ?_⟩
  unfold render
  rw [outcome_bind_ok _ (outcome_get s), outcome_bind_ok _ resolved]
  cases result with
  | error cause =>
    exact Or.inl ⟨cause, fun _ => rfl, outcome_bind_error _ (outcome_ofExcept _ _)⟩
  | ok drawing =>
    obtain ⟨title, grid⟩ := drawing
    rw [outcome_bind_ok _ (outcome_ofExcept _ _)]
    rcases keyOf_cases session.actor { s with ledger } with ⟨cause, failed⟩ | ⟨keyed, found⟩
    · refine Or.inl ⟨cause, fun keyed => ?_, outcome_bind_error _ failed⟩
      have found : outcome (keyOf session.actor) { s with ledger } = _ := outcome_keyOf keyed
      rw [found] at failed
      cases failed
    · exact Or.inr ⟨title, grid, keyed, rfl, outcome_bind_ok _ found⟩

/-- Drawing breaks off if the drawing cannot be made. Nothing is drawn then, not even the title, and what was on the
surface stays there. -/
theorem outcome_render_error [Machine] {session : Session} {menu : Menu} {slots : Option (List SlotName)}
    {cause : Failure}
    {ledger : Ledger}
    (failed : (s.drawing session menu slots).run.run (openLedger s) = (.error cause, ledger)) :
    outcome (render session menu slots) s = (.error cause, { s with ledger }) := by
  have resolved : outcome (resolving (s.drawing session menu slots).run) s =
      (.ok (.error cause), { s with ledger }) := by
    rw [outcome_resolving, failed]
  unfold render
  rw [outcome_bind_ok _ (outcome_get s), outcome_bind_ok _ resolved]
  exact outcome_bind_error _ (outcome_ofExcept _ _)

/-- A drawing that can be made is put on the surface of the session's actor. The title and the items come from one and
the same drawing. -/
theorem outcome_render_ok [Machine] {session : Session} {menu : Menu} {slots : Option (List SlotName)} {title : String}
    {grid : Grid} {ledger : Ledger} (keyed : s.Keyed session.actor)
    (answered : (s.drawing session menu slots).run.run (openLedger s) = (.ok (title, grid), ledger)) :
    outcome (render session menu slots) s =
      (.ok (), { s with ledger }.drawn (s.actor session.actor).key title grid slots) := by
  obtain ⟨result, ledger', step, ⟨cause, failed, -⟩ | ⟨title', grid', -, rfl, drawn⟩⟩ :=
    render_cases session menu slots s
  · cases answered.symm.trans step
    cases failed keyed
  · cases answered.symm.trans step
    exact drawn

/-- Drawing keeps what a change of the ledger and a drawing on the surface of the session's actor keep. So an
invariant that does not look at the ledger has only to be shown for a drawing that is there. -/
theorem keeps_render [Machine] {session : Session} {menu : Menu} {slots : Option (List SlotName)}
    (resolved : ∀ s ledger, P s → P { s with ledger })
    (drawn : ∀ s title grid, s.Keyed session.actor → P s →
      P (s.drawn (s.actor session.actor).key title grid slots)) :
    Keeps P (render session menu slots) := by
  intro s holds
  obtain ⟨result, ledger, -, ⟨cause, -, failed⟩ | ⟨title, grid, keyed, -, found⟩⟩ :=
    render_cases session menu slots s
  · rw [failed]
    exact resolved s ledger holds
  · rw [found]
    exact drawn { s with ledger } title grid keyed (resolved s ledger holds)

/-- Leaving a menu breaks off before or after the surface is gone, or takes the handlers of the actor away as well.
There is no other way out of it, so an invariant is shown for three states. -/
theorem tearDown_cases (session : Session) (s : EngineState) :
    (∃ cause, outcome (tearDown session) s = (.error cause, s)) ∨
      (∃ cause, outcome (tearDown session) s =
        (.error cause, s.leaving (s.actor session.actor).key)) ∨
      outcome (tearDown session) s = (.ok (), s.leaving (s.actor session.actor).key) ∨
      outcome (tearDown session) s = (.ok (), s.left session.actor) := by
  unfold tearDown
  rcases keyOf_cases session.actor s with ⟨cause, failed⟩ | ⟨keyed, found⟩
  · exact Or.inl ⟨cause, outcome_bind_error _ failed⟩
  · right
    rw [outcome_bind_ok _ found, outcome_bind_ok _ (outcome_get s),
      outcome_bind_ok _ (outcome_set _ s)]
    split
    · rename_i cleans
      have kept : s.legacyHandlers.scopes.contains .actor = true := (Bool.and_eq_true_iff.mp cleans).1
      cases cleared : s.legacyHandlers.clearScope .actor (s.actor session.actor).textId? with
      | error cause => exact Or.inl ⟨cause, outcome_bind_error _ (outcome_ofExcept _ _)⟩
      | ok registry =>
        refine Or.inr (Or.inr ?_)
        have same := HandlerRegistry.clearScope_actor cleared
        rw [outcome_bind_ok _ (outcome_ofExcept _ _), outcome_modify, same]
        rw [EngineState.left, HandlerRegistry.withoutActor_of_kept kept]
    · exact Or.inr (Or.inl rfl)

/-- Leaving a menu does not fail for an actor who can leave. The surface is gone behind it, and so are the note of the
last refresh and the handlers of the actor. -/
theorem outcome_tearDown {session : Session} (can : s.CanLeave session.actor) :
    outcome (tearDown session) s = (.ok (), s.left session.actor) := by
  have keyed := can.keyed
  obtain ⟨id, isText, notEmpty⟩ := can
  unfold tearDown
  rw [outcome_bind_ok _ (outcome_keyOf keyed), outcome_bind_ok _ (outcome_get s),
    outcome_bind_ok _ (outcome_set _ s)]
  have text : (s.actor session.actor).textId? = some id := by
    simp [Actor.textId?, isText]
  cases kept : s.legacyHandlers.scopes.contains .actor with
  | false =>
    rw [EngineState.left, HandlerRegistry.withoutActor_of_not_kept kept]
    rfl
  | true =>
    simp only [text, isText, Option.isNone_some, Bool.and_false, Bool.not_false, Bool.and_self, if_true]
    rw [HandlerRegistry.clearScope_actor_some s.legacyHandlers (notEmpty kept),
      outcome_bind_ok _ (outcome_ofExcept _ _), outcome_modify]
    rw [EngineState.left, HandlerRegistry.withoutActor_of_kept kept, text]

/-- Without a session there is nothing to close. It is answered so, and no failure. -/
theorem outcome_close_none {ref : Nat} (keyed : s.Keyed ref) (opened : s.session? ref = none) :
    outcome (close ref) s = (.ok false, s) := by
  unfold close
  rw [outcome_bind_ok _ (outcome_keyOf keyed), outcome_bind_ok _ (outcome_get s)]
  rw [EngineState.session?] at opened
  rw [opened]
  rfl

/-- Closing a menu is leaving it once the session is no longer registered. The session goes first, so that it is gone
even if leaving breaks off. -/
theorem outcome_close_some {ref : Nat} {session : Session} (keyed : s.Keyed ref)
    (opened : s.session? ref = some session) :
    outcome (close ref) s = outcome (tearDown session >>= fun _ => pure true)
      { s with sessions := s.sessions.erase (s.actor ref).key } := by
  unfold close
  rw [outcome_bind_ok _ (outcome_keyOf keyed), outcome_bind_ok _ (outcome_get s)]
  rw [EngineState.session?] at opened
  rw [opened]
  exact outcome_bind_ok _ (outcome_set _ s)

/-- Closing a menu keeps what leaving it keeps once the session is no longer registered. If there is no session
nothing has to be shown, as nothing is done. -/
theorem keeps_close {ref : Nat}
    (closed : ∀ s session, s.Keyed ref → s.session? ref = some session → P s →
      P (outcome (tearDown session) { s with sessions := s.sessions.erase (s.actor ref).key }).2) :
    Keeps P (close ref) := by
  intro s holds
  rcases keyOf_cases ref s with ⟨cause, failed⟩ | ⟨keyed, -⟩
  · unfold close
    rw [outcome_bind_error _ failed]
    exact holds
  · cases opened : s.session? ref with
    | none =>
      rw [outcome_close_none keyed opened]
      exact holds
    | some session =>
      rw [outcome_close_some keyed opened, outcome_bind_answer]
      exact closed s session keyed opened holds

/-- Entering a menu is drawing it on the new surface. The session and the surface are there before anything is drawn,
and they stay if the drawing fails. -/
theorem outcome_enter [Machine] {ref : Nat} (keyed : s.Keyed ref) (menu : Menu) (context : Value) :
    outcome (enter ref menu context) s =
      outcome (render (s.newSession ref menu context) menu none)
        (s.entering (s.actor ref).key ref menu context) := by
  unfold enter
  rw [outcome_bind_ok _ (outcome_keyOf keyed), outcome_bind_ok _ (outcome_get s),
    outcome_bind_ok _ (outcome_set _ s)]

/-- Opening a menu keeps what entering it keeps, after leaving the menu that was open, if one was. The context that is
kept from the session before only matters for what is entered, so it is left open here. -/
theorem keeps_openMenu [Machine] {ref : Nat} {name : String} {context : Value} {keep : Bool}
    (noted : ∀ notice, Keeps P (note notice))
    (entered : ∀ s menu context, s.Keyed ref → s.menu? name = some menu → s.session? ref = none →
      P s → P (outcome (enter ref menu context) s).2)
    (changed : ∀ s menu session context, s.Keyed ref → s.menu? name = some menu →
      s.session? ref = some session → P s →
      P (outcome (tearDown session >>= fun _ => enter ref menu context) s).2) :
    Keeps P (openMenu ref name context keep) := by
  unfold openMenu
  apply keeps_get_bind
  intro s holds
  cases known : s.menu? name with
  | none =>
    simp only
    rw [outcome_bind_answer]
    exact noted _ s holds
  | some menu =>
    simp only
    rcases keyOf_cases ref s with ⟨cause, failed⟩ | ⟨keyed, -⟩
    · rw [outcome_bind_error _ (outcome_sessionOf_error failed)]
      exact holds
    · rw [outcome_bind_ok _ (outcome_sessionOf keyed)]
      cases opened : s.session? ref with
      | none =>
        simp only
        rw [outcome_bind_answer]
        exact entered s menu _ keyed known opened holds
      | some session =>
        simp only
        have kept := changed s menu session (nextContext context keep (some session)) keyed known
          opened holds
        rw [← bind_assoc, outcome_bind_answer]
        exact kept

/-- Drawing a menu again is drawing the menu of the actor's session. Which menu that is, is looked up anew under the
id that the session keeps. -/
theorem outcome_redraw [Machine] {ref : Nat} {session : Session} {menu : Menu} (keyed : s.Keyed ref)
    (opened : s.session? ref = some session) (known : s.menu? session.menu = some menu)
    (slots : Option (List SlotName)) :
    outcome (redraw ref slots) s = outcome (render session menu slots >>= fun _ => pure true) s := by
  unfold redraw
  rw [outcome_bind_ok _ (outcome_sessionOf keyed), opened]
  simp only
  rw [outcome_bind_ok _ (outcome_get s), known]

/-- Drawing a menu again does nothing if there is none, and otherwise draws the menu of the actor's session. There is
none if the actor has no session, or if the menu of the session is gone. -/
theorem redraw_cases [Machine] {ref : Nat} (keyed : s.Keyed ref) (slots : Option (List SlotName)) :
    outcome (redraw ref slots) s = (.ok false, s) ∨
      ∃ session menu, s.session? ref = some session ∧ s.menu? session.menu = some menu ∧
        outcome (redraw ref slots) s =
          outcome (render session menu slots >>= fun _ => pure true) s := by
  cases opened : s.session? ref with
  | none =>
    left
    unfold redraw
    rw [outcome_bind_ok _ (outcome_sessionOf keyed), opened]
    rfl
  | some session =>
    cases known : s.menu? session.menu with
    | none =>
      left
      unfold redraw
      rw [outcome_bind_ok _ (outcome_sessionOf keyed), opened]
      simp only
      rw [outcome_bind_ok _ (outcome_get s), known]
      rfl
    | some menu => exact Or.inr ⟨session, menu, rfl, known, outcome_redraw keyed opened known slots⟩

/-- Drawing a menu again keeps what drawing the menu of the actor's session keeps. The session and the menu are those
that are found in the state where the drawing begins. -/
theorem keeps_redraw [Machine] {ref : Nat} {slots : Option (List SlotName)}
    (again : ∀ s session menu, s.Keyed ref → s.session? ref = some session →
      s.menu? session.menu = some menu → P s → P (outcome (render session menu slots) s).2) :
    Keeps P (redraw ref slots) := by
  intro s holds
  rcases keyOf_cases ref s with ⟨cause, failed⟩ | ⟨keyed, -⟩
  · unfold redraw
    rw [outcome_bind_error _ (outcome_sessionOf_error failed)]
    exact holds
  · rcases redraw_cases keyed slots with none | ⟨session, menu, opened, known, drawing⟩
    · rw [none]
      exact holds
    · rw [drawing, outcome_bind_answer]
      exact again s session menu keyed opened known holds

/-- If there is no such page, nothing is done, and it is answered so. The session stays on the page where it was. -/
theorem outcome_setPage_outside [Machine] {ref : Nat} {session : Session} {menu : Menu} {page : Int}
    (keyed : s.Keyed ref)
    (opened : s.session? ref = some session) (known : s.menu? session.menu = some menu)
    (outside : ¬menu.HasPage page) : outcome (setPage ref page) s = (.ok false, s) := by
  rw [Menu.hasPage_iff, Bool.not_eq_false] at outside
  unfold setPage
  rw [outcome_bind_ok _ (outcome_sessionOf keyed), opened]
  dsimp only
  rw [outcome_bind_ok _ (outcome_get s), known]
  dsimp only
  rw [if_pos outside]
  rfl

/-- If there is such a page, the session is put on it, and then it is drawn. The session is on the page also if the
drawing fails. -/
theorem outcome_setPage_inside [Machine] {ref : Nat} {session : Session} {menu : Menu} {page : Int}
    (keyed : s.Keyed ref)
    (opened : s.session? ref = some session) (known : s.menu? session.menu = some menu)
    (inside : menu.HasPage page) :
    outcome (setPage ref page) s =
      outcome (render { session with page } menu none >>= fun _ => pure true) (s.turning ref page) := by
  rw [Menu.hasPage_iff] at inside
  unfold setPage
  rw [outcome_bind_ok _ (outcome_sessionOf keyed), opened]
  dsimp only
  rw [outcome_bind_ok _ (outcome_get s), known]
  dsimp only
  rw [if_neg (by rw [inside]; exact Bool.false_ne_true), outcome_bind_ok _ (outcome_set _ s)]
  rfl

/-- Going to a page keeps what drawing the menu keeps once the session is on the page. That the menu has the page is
asked before, so it may be used. -/
theorem keeps_setPage [Machine] {ref : Nat} {page : Int}
    (turned : ∀ s session menu, s.Keyed ref → s.session? ref = some session →
      s.menu? session.menu = some menu → menu.HasPage page → P s →
      P (outcome (render { session with page } menu none) (s.turning ref page)).2) :
    Keeps P (setPage ref page) := by
  unfold setPage
  apply keeps_sessionOf_bind
  intro s keyed holds
  cases opened : s.session? ref with
  | none => exact holds
  | some session =>
    simp only
    rw [outcome_bind_ok _ (outcome_get s)]
    cases known : s.menu? session.menu with
    | none => exact holds
    | some menu =>
      simp only
      split
      · exact holds
      · rename_i refused
        have inside := (Menu.hasPage_iff menu page).mpr (Bool.eq_false_iff.mpr refused)
        rw [outcome_bind_ok _ (outcome_set _ s), outcome_bind_answer]
        exact turned s session menu keyed opened known inside holds

/-- Changing a context changes the session of the actor, if there is one. Nothing is drawn by it, so what an actor
sees may be older than the context. -/
theorem outcome_updateContext {ref : Nat} (keyed : s.Keyed ref) (context : Value) :
    outcome (updateContext ref context) s =
      match s.session? ref with
      | none => (.ok false, s)
      | some _ =>
        (.ok true, { s with sessions := s.sessions.setContext (s.actor ref).key context }) := by
  unfold updateContext
  rw [outcome_bind_ok _ (outcome_keyOf keyed), outcome_bind_ok _ (outcome_get s)]
  unfold EngineState.session? OrderedMap.has
  cases s.sessions.get? (s.actor ref).key with
  | none => rfl
  | some session => rfl

/-- Changing a context keeps what the change of the session keeps. A session that is not there cannot be changed,
which is why the change is one of the whole list. -/
theorem keeps_updateContext {ref : Nat} {context : Value}
    (changed : ∀ s, s.Keyed ref → P s →
      P { s with sessions := s.sessions.setContext (s.actor ref).key context }) :
    Keeps P (updateContext ref context) := by
  intro s holds
  rcases keyOf_cases ref s with ⟨cause, failed⟩ | ⟨keyed, -⟩
  · unfold updateContext
    rw [outcome_bind_error _ failed]
    exact holds
  · rw [outcome_updateContext keyed]
    split
    · exact holds
    · exact changed s keyed holds

/-- Noting a refresh keeps what the change of the bookkeeping keeps. Whether there is a session is not asked for it. -/
theorem keeps_markRefreshed {ref tick : Nat}
    (marked : ∀ s, s.Keyed ref → P s →
      P { s with lastRefresh := s.lastRefresh.put (s.actor ref).key tick }) :
    Keeps P (markRefreshed ref tick) := by
  unfold markRefreshed
  exact keeps_keyOf_bind marked

end Engine

end ChestMenu
