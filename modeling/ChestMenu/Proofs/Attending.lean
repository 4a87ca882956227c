import ChestMenu.Proofs.Dispatch
import ChestMenu.Proofs.Endings
import ChestMenu.Proofs.PlainMenus
import ChestMenu.Proofs.Reloading
import ChestMenu.Proofs.Scanning
import ChestMenu.Terminal

/-!
# Attending to one actor

Here an engine has one actor and no code of a host: no handler and no placeholder is registered, all menus are from
files, and contexts are put together by typing. Whatever the engine does for the actor keeps this, and it fails in two
cases only: if the menus cannot be read again, and if a menu is to be drawn the number of whose pages cannot be
written.

Of each operation it is shown at once what it fails on and what it leaves behind. A click does nothing but simple
actions here, since no item has a callback; a failure of one of them is noted.
-/
namespace ChestMenu

open Engine Terminal

namespace EngineState

/-- A session of the actor in front of a terminal: on a page of its menu, with a context that was put together by
typing. -/
structure Attends (s : EngineState) (session : Session) : Prop where
  own : session.actor = player
  put : session.context.IsPutTogether
  onPage : s.OnPage session

/-- An engine without code of a host, and with one actor, who has at most one session. -/
structure Manned (actor : Actor) (s : EngineState) : Prop where
  worded : actor.IsWorded
  actors : s.actors = [actor]
  placeholders : s.placeholders = {}
  legacyHandlers : s.legacyHandlers.buckets = []
  contextHandlers : s.contextHandlers.buckets = []
  slotHandlers : s.slotHandlers = []
  inventoryHandlers : s.inventoryHandlers = []
  plain : ∀ pair ∈ s.menus, pair.2.IsPlain
  attended : s.sessions = [] ∨ ∃ session, s.sessions = [(actor.key, session)] ∧ s.Attends session

/-- What matters of a state to such an engine. -/
def staffing (s : EngineState) :=
  (s.actors, s.placeholders, s.legacyHandlers.buckets, s.contextHandlers.buckets, s.slotHandlers, s.inventoryHandlers,
    s.menus, s.sessions)

/-- The menu that the actor in front of a terminal has open, if it is still there. -/
def openMenu? (s : EngineState) : Option Menu :=
  (s.session? player).bind fun session => s.menu? session.menu

/-- The menus of an engine cannot be read again: the reading of the directory that was loaded last breaks off. -/
def Unreadable [Machine] (s : EngineState) (listing : Option FileListing) : Prop :=
  ∃ directory cause notices, s.directory = some directory ∧
    (Menu.ofDirectory directory listing s.config.defaultSize).run.run [] = (.error cause, notices)

/-- The menus that are read when the menus of an engine are read again. -/
def Rereads [Machine] (s : EngineState) (listing : Option FileListing) (menus : OrderedMap String Menu) : Prop :=
  ∃ directory notices, s.directory = some directory ∧
    (Menu.ofDirectory directory listing s.config.defaultSize).run.run [] = (.ok menus, notices)

variable {actor : Actor} {s t : EngineState}

/-- Whether a session can be attended to depends on the menus only. All else of a state may change around it. -/
theorem Attends.congr {session : Session} (attends : s.Attends session) (same : t.menus = s.menus) :
    t.Attends session :=
  ⟨attends.own, attends.put, attends.onPage.congr same⟩

/-- The same menu is open after a change of the session of the actor that leaves the menu as it is. Which menu that
is, is found by the id in the session. -/
theorem openMenu?_adjusting (s : EngineState) (change : Session → Session)
    (same : ∀ session, (change session).menu = session.menu) :
    { s with sessions := s.sessions.adjust (s.actor player).key change }.openMenu? = s.openMenu? := by
  unfold openMenu? session?
  change ((s.sessions.adjust (s.actor player).key change).get? (s.actor player).key).bind _ = _
  rw [OrderedMap.get?_adjust, if_pos rfl]
  cases s.sessions.get? (s.actor player).key with
  | none => rfl
  | some session => exact congrArg s.menu? (same session)

/-- A menu that a name stands for is one of the menus. So what holds of all menus holds of whichever is asked for. -/
theorem of_menu? {P : Menu → Prop} (all : ∀ pair ∈ s.menus, P pair.2) {name : String} {menu : Menu}
    (known : s.menu? name = some menu) : P menu := by
  unfold menu? at known
  rcases Option.or_eq_some_iff.mp known with found | ⟨-, found⟩
  · exact all _ (OrderedMap.mem_of_get? found)
  · obtain ⟨pair, isPair, rfl⟩ := Option.map_eq_some_iff.mp found
    exact all pair (List.mem_of_find?_eq_some isPair)

namespace Manned

/-- The actor is the one in front of the terminal. There is no other, and no operation of a terminal makes one. -/
theorem actor_eq (manned : s.Manned actor) : s.actor player = actor := by
  rw [EngineState.actor, manned.actors]
  rfl

/-- The actor can leave a menu. Its id is a text that is not empty, so handlers could be cleared under it. -/
theorem canLeave (manned : s.Manned actor) : s.CanLeave player := by
  obtain ⟨id, name, isId, notEmpty, -⟩ := manned.worded
  exact ⟨id, by rw [manned.actor_eq, isId], fun _ => notEmpty⟩

/-- The id of the actor can be a key, as texts are keys. -/
theorem keyed (manned : s.Manned actor) : s.Keyed player :=
  manned.canLeave.keyed

/-- The session of the actor is what lies under the actor's key, and nothing lies under another one. -/
theorem session?_eq (manned : s.Manned actor) : s.session? player = s.sessions.get? actor.key := by
  rw [session?, manned.actor_eq]

/-- Without a session of the actor there is none at all. -/
theorem sessions_of_none (manned : s.Manned actor) (closed : s.session? player = none) : s.sessions = [] := by
  rcases manned.attended with none | ⟨session, only, -⟩
  · exact none
  · rw [manned.session?_eq, only] at closed
    simp [OrderedMap.get?] at closed

/-- A session of the actor is the only one, and it is one that can be attended to. -/
theorem sessions_of_some (manned : s.Manned actor) {session : Session} (opened : s.session? player = some session) :
    s.sessions = [(actor.key, session)] ∧ s.Attends session := by
  rcases manned.attended with none | ⟨only, areSessions, attends⟩
  · rw [manned.session?_eq, none] at opened
    cases opened
  · rw [manned.session?_eq, areSessions] at opened
    simp only [OrderedMap.get?, if_true, Option.some.injEq] at opened
    subst opened
    exact ⟨areSessions, attends⟩

/-- Nothing matters but what is registered, the menus and the sessions. Screens, ticks, notes and the journal are free
to change. -/
theorem congr (manned : s.Manned actor) (same : t.staffing = s.staffing) : t.Manned actor := by
  simp only [staffing, Prod.mk.injEq] at same
  obtain ⟨actors, placeholders, legacyHandlers, contextHandlers, slotHandlers, inventoryHandlers, menus, sessions⟩ := same
  exact {
    worded := manned.worded
    actors := actors.trans manned.actors
    placeholders := placeholders.trans manned.placeholders
    legacyHandlers := legacyHandlers.trans manned.legacyHandlers
    contextHandlers := contextHandlers.trans manned.contextHandlers
    slotHandlers := slotHandlers.trans manned.slotHandlers
    inventoryHandlers := inventoryHandlers.trans manned.inventoryHandlers
    plain := menus ▸ manned.plain
    attended := by
      rw [sessions]
      exact manned.attended.imp_right fun ⟨session, only, attends⟩ => ⟨session, only, attends.congr menus⟩ }

/-- The session of the actor may be a new one or a changed one, as long as it can be attended to. -/
theorem seating (manned : s.Manned actor) {sessions : Sessions} {session : Session}
    (only : sessions = [(actor.key, session)]) (attends : s.Attends session) :
    { s with sessions }.Manned actor :=
  { manned with attended := Or.inr ⟨session, only, attends.congr rfl⟩ }

/-- When the session of the actor is gone, there is nobody left to be attended to. -/
theorem erasing (manned : s.Manned actor) : { s with sessions := s.sessions.erase actor.key }.Manned actor := by
  have none : s.sessions.erase actor.key = [] := by
    rcases manned.attended with none | ⟨session, only, -⟩
    · rw [none]
      rfl
    · simp [only, OrderedMap.erase]
  exact { manned with attended := Or.inl none }

/-- When the actor has left a menu, no handler is gone by it, as there is none. -/
theorem left (manned : s.Manned actor) (ref : Nat) : (s.left ref).Manned actor := by
  have none : (s.legacyHandlers.withoutActor (s.actor ref).textId?).buckets = s.legacyHandlers.buckets := by
    unfold HandlerRegistry.withoutActor
    split
    · simp [manned.legacyHandlers, OrderedMap.erase]
    · rfl
  exact manned.congr (by simp only [staffing, EngineState.left, none, EngineState.leaving])

/-- The session of the actor is changed, if there is one. What it is changed to must be one that can be attended to
again. -/
theorem adjusting (manned : s.Manned actor) (change : Session → Session)
    (attends : ∀ session, s.session? player = some session → s.Attends (change session)) :
    { s with sessions := s.sessions.adjust actor.key change }.Manned actor := by
  cases opened : s.session? player with
  | none =>
    rw [manned.sessions_of_none opened]
    exact { manned with attended := Or.inl rfl }
  | some session =>
    obtain ⟨only, -⟩ := manned.sessions_of_some opened
    exact manned.seating (by simp [only, OrderedMap.adjust]) (attends session opened)

/-- The session of the actor is put on a page of its menu, and can be attended to there. -/
theorem turned (manned : s.Manned actor) {session : Session} {menu : Menu} {page : Int}
    (opened : s.session? player = some session) (known : s.menu? session.menu = some menu)
    (inside : menu.HasPage page) : (s.turning player page).Manned actor := by
  rw [turning, manned.actor_eq]
  refine manned.adjusting _ fun other same => ?_
  cases opened.symm.trans same
  obtain ⟨-, attends⟩ := manned.sessions_of_some opened
  refine ⟨attends.own, attends.put, inside.2.1, fun other isMenu => ?_⟩
  cases known.symm.trans isMenu
  exact inside.2.2

/-- The actor has entered a menu, with a context that was put together by typing. The new session is on the first
page, which its menu has. -/
theorem entering (manned : s.Manned actor) (menu : Menu) {context : Value} (put : context.IsPutTogether) :
    (s.entering (s.actor player).key player menu context).Manned actor := by
  have only : s.sessions.put actor.key (s.newSession player menu context) =
      [(actor.key, s.newSession player menu context)] := by
    rcases manned.attended with none | ⟨session, only, -⟩
    · rw [none]
      rfl
    · simp [only, OrderedMap.put]
  rw [manned.actor_eq]
  exact (manned.seating only ⟨rfl, put, s.onPage_first rfl⟩).congr rfl

/-- A surface may be gone, for nothing is asked of the screen. -/
theorem leaving (manned : s.Manned actor) (key : ActorKey) : (s.leaving key).Manned actor :=
  manned.congr rfl

/-- Drawing a menu keeps an engine so: it writes to the ledger and the screen. -/
theorem keeps_render [Machine] {session : Session} {menu : Menu} {slots : Option (List SlotName)} :
    Keeps (Manned actor) (render session menu slots) :=
  Engine.keeps_render (fun _ _ manned => manned.congr rfl) fun _ _ _ _ manned => manned.congr rfl

/-- Leaving a menu keeps an engine so, wherever it would break off. -/
theorem keeps_tearDown {session : Session} : Keeps (Manned actor) (tearDown session) := by
  intro s manned
  rcases tearDown_cases session s with ⟨cause, done⟩ | ⟨cause, done⟩ | done | done
  · rw [done]
    exact manned
  · rw [done]
    exact manned.leaving _
  · rw [done]
    exact manned.leaving _
  · rw [done]
    exact manned.left _

/-- Closing the menu of the actor keeps an engine so, with one session less or as many. -/
theorem keeps_close : Keeps (Manned actor) (close player) :=
  Engine.keeps_close fun _ _ _ _ manned => keeps_tearDown _ (manned.actor_eq ▸ manned.erasing)

/-- Drawing a menu again keeps an engine so, for whomever it is. -/
theorem keeps_redraw [Machine] {ref : Nat} {slots : Option (List SlotName)} : Keeps (Manned actor) (redraw ref slots) :=
  Engine.keeps_redraw fun s _ _ _ _ _ manned => keeps_render s manned

/-- Going to a page keeps an engine so, since the page is asked for before the session is put on it. -/
theorem keeps_setPage [Machine] {page : Int} : Keeps (Manned actor) (setPage player page) :=
  Engine.keeps_setPage fun _ _ _ _ opened known inside manned => keeps_render _ (manned.turned opened known inside)

/-- Noting a refresh keeps an engine so, as the notes do not matter. -/
theorem keeps_markRefreshed {ref tick : Nat} : Keeps (Manned actor) (markRefreshed ref tick) :=
  Engine.keeps_markRefreshed fun _ _ manned => manned.congr rfl

/-- What the outside gets to see keeps an engine so, as the journal does not matter. -/
theorem keeps_record {event : Event} : Keeps (Manned actor) (record event) :=
  fun _ manned => manned.congr rfl

/-- A notice keeps an engine so, as the ledger does not matter. -/
theorem keeps_note {notice : Notice} : Keeps (Manned actor) (note notice) :=
  fun _ manned => manned.congr rfl

/-- A tick keeps an engine so: what it does is draw again, note and count. -/
theorem keeps_tick [Machine] : Keeps (Manned actor) Engine.tick :=
  Engine.keeps_tick (fun _ manned => manned.congr rfl) (fun _ => keeps_note) (fun _ _ => keeps_redraw)
    fun _ _ => keeps_markRefreshed

/-- Entering a menu keeps an engine so, with a context that was put together by typing. -/
theorem keeps_enter [Machine] {menu : Menu} {context : Value} (put : context.IsPutTogether) :
    Keeps (Manned actor) (enter player menu context) := by
  intro s manned
  rw [outcome_enter manned.keyed]
  exact keeps_render _ (manned.entering menu put)

/-- The context of a new session is put together by typing if none is given. The one before is kept or there is none,
and both are of that kind. -/
theorem isPutTogether_nextContext (manned : s.Manned actor) (keep : Bool) :
    (nextContext .null keep (s.session? player)).IsPutTogether := by
  cases opened : s.session? player with
  | none => exact .null
  | some session =>
    cases keep with
    | true => exact (manned.sessions_of_some opened).2.put
    | false => exact .null

/-- Opening a menu without a context keeps an engine so, or with the one that was there before. -/
theorem keeps_openMenu [Machine] {name : String} {keep : Bool} :
    Keeps (Manned actor) (openMenu player name .null keep) := by
  unfold openMenu
  apply keeps_get_bind
  intro s manned
  split
  · exact keeps_bind keeps_note (fun _ => keeps_pure _) s manned
  · rw [outcome_bind_ok _ (outcome_sessionOf manned.keyed)]
    have entered (menu : Menu) : Keeps (Manned actor) (do
        enter player menu (nextContext .null keep (s.session? player))
        return true) :=
      keeps_bind (keeps_enter (manned.isPutTogether_nextContext keep)) fun _ => keeps_pure _
    split
    · exact keeps_bind keeps_tearDown (fun _ => entered _) s manned
    · exact entered _ s manned

/-- What the engine does by itself for the actor in the course of a click keeps it so. -/
theorem served [Machine] : Served (Manned actor) player where
  told _ := keeps_record
  noted _ := keeps_note
  opened _ := keeps_openMenu
  closed := keeps_close
  turned _ := keeps_setPage
  refreshed := keeps_redraw

/-- Where no handler is registered under a name, none is called. The event is told to the outside all the same. -/
theorem keeps_fireTrigger {calling : Calling} {name : String} {style : TriggerStyle} {click : ClickContext} :
    Keeps (Manned actor) (fireTrigger calling name style click) := by
  have absent (r : HandlerRegistry) (empty : r.buckets = []) (keys : HandlerScope → Option String) :
      r.lookup name keys = none := by
    unfold HandlerRegistry.lookup
    refine List.findSome?_eq_none_iff.mpr fun scope _ => ?_
    rw [empty]
    cases HandlerRegistry.bucketFor? scope keys <;> rfl
  unfold fireTrigger
  apply keeps_get_bind
  intro s manned
  cases style with
  | legacy =>
    dsimp only
    rw [absent _ manned.legacyHandlers]
    exact manned
  | context =>
    dsimp only
    rw [absent _ manned.contextHandlers]
    exact manned

/-- A deed that calls no callback keeps an engine so. It is an action, as plain items have nothing else. -/
theorem keeps_attempt [Machine] {calling : Calling} {click : ClickContext} (own : click.actor = player) {deed : Deed}
    (isOwn : deed.IsOwn) : Keeps (Manned actor) (deed.attempt calling click) := by
  cases deed with
  | act action => exact keeps_runSimple (own ▸ served) fun _ _ => keeps_fireTrigger
  | balk written cause => exact keeps_throw cause
  | callItem | callSlot => exact isOwn.elim

/-- What a click on a slot comes to, if the item that was found has no callback. It has none if it was read from a
file, and no callback lies under any slot. -/
theorem clicked [Machine] (manned : s.Manned actor) {click : ClickContext} (own : click.actor = player)
    {found : Option (String × Entry)} (silent : ∀ item, found = some item → item.2.onClick = none) :
    (done call click (deedsOfClick call click found s) s).Manned actor := by
  unfold deedsOfClick
  dsimp only
  rw [done_append]
  have first : (done call click (deedsOfItem call click found s) s).Manned actor :=
    holds_done (fun _ => keeps_note) (fun deed member =>
      keeps_attempt own (isOwn_of_mem_deedsOfItem silent s deed member)) manned
  unfold deedsOfSlot
  rw [first.slotHandlers]
  exact first

/-- A click keeps an engine so, whatever it is for. The guards in front change nothing, and on a slot of the menu
there are only deeds without callbacks. -/
theorem keeps_click [Machine] {slot : Int} {type : ClickType} : Keeps (Manned actor) (click player slot type) := by
  intro s manned
  unfold click
  rw [outcome_clickWith manned.keyed]
  cases target : s.clickTarget player slot with
  | nothing | placeable | noSlot => exact manned
  | goneMenu name => exact keeps_note s manned
  | inventory menu =>
    dsimp only
    rw [outcome_clickInventory_unasked fun _ => by rw [manned.inventoryHandlers]; rfl]
    exact manned
  | slot session menu =>
    have plain : menu.IsPlain := of_menu? manned.plain (known_of_clickTarget_slot target).2
    exact manned.clicked rfl fun item found => (Menu.of_itemAtSlot plain.items plain.pageItems found).silent

/-- A plain menu on one of its pages is drawn, unless the number of its pages cannot be written. Nothing else of a
plain menu can fail to have a text. -/
theorem ends_render [Machine] (manned : s.Manned actor) {session : Session} {menu : Menu} (own : session.actor = player)
    (put : session.context.IsPutTogether) (notNegative : 0 ≤ session.page) (inside : session.page < menu.totalPages)
    (plain : menu.IsPlain) (slots : Option (List SlotName)) :
    Ends (render session menu slots) s (¬menu.Countable) (fun _ => True) (Manned actor) := by
  have worded : (s.actor session.actor).IsWorded := by
    rw [own, manned.actor_eq]
    exact manned.worded
  have keyed : s.Keyed session.actor := own ▸ manned.keyed
  have countable : (∃ drawing after, (s.drawing session menu slots).run.run (openLedger s) = (.ok drawing, after)) ↔
      menu.Countable :=
    drawing_succeeds_iff manned.placeholders worded plain put notNegative inside slots (openLedger s)
  obtain ⟨result, ledger, drawn, ⟨cause, failed, done⟩ | ⟨title, grid, -, isDrawing, done⟩⟩ :=
    render_cases session menu slots s
  · refine (ends_error done (manned.congr rfl)).congr (iff_of_true trivial fun count => ?_)
    obtain ⟨drawing, after, answered⟩ := countable.mpr count
    rw [answered] at drawn
    cases drawn
    cases failed keyed
  · have count := countable.mp ⟨(title, grid), ledger, by rw [drawn, isDrawing]⟩
    exact (ends_ok done trivial (manned.congr rfl)).congr (iff_of_false id fun not => not count)

/-- A menu of the engine is entered, unless the number of its pages cannot be written. The drawing is the last step of
entering, and all before it answers. -/
theorem ends_enter [Machine] (manned : s.Manned actor) {menu : Menu} {context : Value} (put : context.IsPutTogether)
    (plain : menu.IsPlain) :
    Ends (enter player menu context) s (¬menu.Countable) (fun _ => True) (Manned actor) := by
  have inside : 0 < menu.totalPages := Int.lt_of_lt_of_le Int.one_pos menu.one_le_totalPages
  have own : (s.newSession player menu context).actor = player := rfl
  have entered := (manned.entering menu put).ends_render own put (Int.le_refl 0) inside plain none
  exact entered.of_eq (outcome_enter manned.keyed menu context)

/-- A menu is opened, unless the number of its pages cannot be written. If there is no such menu, that is answered,
and no failure. -/
theorem ends_openMenu [Machine] (manned : s.Manned actor) (name : String) (keep : Bool) :
    Ends (openMenu player name .null keep) s (∃ menu, s.menu? name = some menu ∧ ¬menu.Countable) (fun _ => True)
      (Manned actor) := by
  unfold openMenu
  refine ends_after (outcome_get s) ?_
  cases known : s.menu? name with
  | none =>
    refine Ends.congr (F := False) (ends_ok rfl trivial (manned.congr rfl)) (iff_of_false id ?_)
    rintro ⟨menu, ⟨⟩, -⟩
  | some menu =>
    have plain : menu.IsPlain := of_menu? manned.plain known
    have put := manned.isPutTogether_nextContext keep
    have entered {t : EngineState} (left : t.Manned actor) : Ends (do
        enter player menu (nextContext .null keep (s.session? player))
        return true) t (∃ other, some menu = some other ∧ ¬other.Countable) (fun _ => True) (Manned actor) := by
      refine Ends.congr (F := ¬menu.Countable) ?_ (by simp)
      exact ends_bind (left.ends_enter put plain) fun _ _ _ left => ends_ok rfl trivial left
    refine ends_after (outcome_sessionOf manned.keyed) ?_
    cases opened : s.session? player with
    | none =>
      rw [opened] at entered
      exact entered manned
    | some session =>
      rw [opened] at entered
      have own := (manned.sessions_of_some opened).2.own
      exact ends_after (outcome_tearDown (own ▸ manned.canLeave)) (entered (manned.left _))

/-- What is done with the menu that the actor has open, if it is there, ends on a condition for that menu. If there is
none, a fixed answer is given. Most operations on an open menu begin in this way. -/
theorem ends_withMenu {α : Type} {Q : α → Prop} {F : Menu → Prop} {absent : α}
    {f : EngineState → Session → Menu → Engine α} (manned : s.Manned actor) (holds : Q absent)
    (rest : ∀ session menu, s.session? player = some session → s.menu? session.menu = some menu →
      Ends (f s session menu) s (F menu) Q (Manned actor)) :
    Ends (do
      match ← sessionOf player with
      | none => return absent
      | some session =>
        let s ← get
        match s.menu? session.menu with
        | none => return absent
        | some menu => f s session menu) s (∃ menu, s.openMenu? = some menu ∧ F menu) Q (Manned actor) := by
  have nothing (none : s.openMenu? = none) : Ends (pure absent : Engine α) s
      (∃ menu, s.openMenu? = some menu ∧ F menu) Q (Manned actor) := by
    refine Ends.congr (F := False) (ends_ok rfl holds manned) (iff_of_false id ?_)
    rintro ⟨menu, isOpen, -⟩
    rw [none] at isOpen
    cases isOpen
  refine ends_after (outcome_sessionOf manned.keyed) ?_
  cases opened : s.session? player with
  | none => exact nothing (by rw [openMenu?, opened]; rfl)
  | some session =>
    refine ends_after (outcome_get s) ?_
    cases known : s.menu? session.menu with
    | none => exact nothing (by rw [openMenu?, opened]; exact known)
    | some menu =>
      have isOpen : s.openMenu? = some menu := by rw [openMenu?, opened]; exact known
      exact (rest session menu opened known).congr (by simp [isOpen])

/-- The menu of a session is drawn, unless the number of its pages cannot be written. The session is on a page that
the menu has, and its context was put together by typing. -/
theorem ends_renderOpen [Machine] (manned : s.Manned actor) {session : Session} {menu : Menu}
    (opened : s.session? player = some session) (known : s.menu? session.menu = some menu)
    (slots : Option (List SlotName)) :
    Ends (render session menu slots) s (¬menu.Countable) (fun _ => True) (Manned actor) :=
  have attends := (manned.sessions_of_some opened).2
  manned.ends_render attends.own attends.put attends.onPage.1 (attends.onPage.2 menu known)
    (of_menu? manned.plain known) slots

/-- The open menu is drawn again, unless the number of its pages cannot be written. If none is open, that is
answered. -/
theorem ends_redraw [Machine] (manned : s.Manned actor) (slots : Option (List SlotName)) :
    Ends (redraw player slots) s (∃ menu, s.openMenu? = some menu ∧ ¬menu.Countable) (fun _ => True)
      (Manned actor) :=
  manned.ends_withMenu (f := fun _ session menu => render session menu slots >>= fun _ => pure true) trivial
    fun _ _ opened known => ends_bind (manned.ends_renderOpen opened known slots) fun _ _ _ left =>
      ends_ok rfl trivial left

/-- The tokens of the open menu are there, unless the number of its pages cannot be written. They are those of a
drawing, and fail to be there exactly where it does. -/
theorem ends_placeholderTable [Machine] (manned : s.Manned actor) :
    Ends (placeholderTable player) s (∃ menu, s.openMenu? = some menu ∧ ¬menu.Countable) (fun _ => True)
      (Manned actor) := by
  refine manned.ends_withMenu (f := fun s session menu => do
      Engine.ofExcept (← resolving (s.placeholders.build s.classes (s.actor player) menu (some session.view)).run))
    trivial fun session menu opened known => ?_
  obtain ⟨own, put, notNegative, inside⟩ := (manned.sessions_of_some opened).2
  have built : (∃ table after, (s.placeholders.build s.classes (s.actor player) menu (some session.view)).run.run
      (openLedger s) = (.ok table, after)) ↔ Placeholders.PageShort menu session.page := by
    rw [manned.placeholders]
    exact Placeholders.exists_table_iff put
  have countable := built.trans (Menu.countable_iff notNegative (inside menu known))
  refine ends_after (outcome_resolving _ s) ?_
  rcases step : (s.placeholders.build s.classes (s.actor player) menu (some session.view)).run.run (openLedger s)
    with ⟨cause | table, ledger⟩
  · refine Ends.congr (F := True) (ends_error rfl (manned.congr rfl)) (iff_of_true trivial fun count => ?_)
    obtain ⟨table, after, given⟩ := countable.mpr count
    cases step.symm.trans given
  · refine Ends.congr (F := False) (ends_ok rfl trivial (manned.congr rfl)) (iff_of_false id fun not => ?_)
    exact not (countable.mp ⟨table, ledger, step⟩)

/-- The open menu goes to a page that it has, unless the number of its pages cannot be written. A page that the menu
does not have is answered, even if the menu could not be drawn. -/
theorem ends_setPage [Machine] (manned : s.Manned actor) (page : Int) :
    Ends (setPage player page) s (∃ menu, s.openMenu? = some menu ∧ menu.HasPage page ∧ ¬menu.Countable)
      (fun _ => True) (Manned actor) := by
  unfold setPage
  refine manned.ends_withMenu trivial fun session menu opened known => ?_
  by_cases inside : menu.HasPage page
  · have asked := (menu.hasPage_iff page).mp inside
    have turned := manned.turned opened known inside
    obtain ⟨own, put, -⟩ := (manned.sessions_of_some opened).2
    have drawn := turned.ends_render (show ({ session with page } : Session).actor = player from own) put inside.2.1
      inside.2.2 (of_menu? manned.plain known) none
    rw [if_neg (by rw [asked]; exact Bool.false_ne_true)]
    refine ends_after (outcome_set _ s) ?_
    refine Ends.congr (F := ¬menu.Countable) ?_ (by simp [inside])
    exact ends_bind drawn fun _ _ _ left => ends_ok rfl trivial left
  · have asked := inside
    rw [menu.hasPage_iff, Bool.not_eq_false] at asked
    rw [if_pos asked]
    exact Ends.congr (F := False) (ends_ok rfl trivial manned) (by simp [inside])

/-- A click does not fail. What fails in its course is caught and noted, and no handler is asked to decide about it. -/
theorem ends_click [Machine] (manned : s.Manned actor) (slot : Int) (type : ClickType) :
    Ends (click player slot type) s False (fun _ => True) (Manned actor) := by
  have unasked : s.decider? player slot = none := by
    unfold decider?
    split
    · split
      · rw [manned.inventoryHandlers]
        rfl
      · rfl
    · rfl
  obtain ⟨answer, t, done⟩ : ∃ answer t, outcome (click player slot type) s = (.ok answer, t) :=
    clickWith_answers manned.keyed unasked
  exact ends_ok done trivial (keeps_click.after manned done)

/-- Closing the menu does not fail, as the actor can leave. -/
theorem ends_close (manned : s.Manned actor) : Ends (close player) s False (fun _ => True) (Manned actor) := by
  cases opened : s.session? player with
  | none => exact ends_ok (outcome_close_none manned.keyed opened) trivial manned
  | some session =>
    have own := (manned.sessions_of_some opened).2.own
    have can : { s with sessions := s.sessions.erase (s.actor player).key }.CanLeave session.actor :=
      own ▸ manned.canLeave
    have done := (outcome_close_some manned.keyed opened).trans (outcome_bind_ok _ (outcome_tearDown can))
    exact ends_ok done trivial (keeps_close.after manned done)

/-- Ticks do not fail, since drawings that fail are caught and noted. The induction is on their number. -/
theorem ends_tickTimes [Machine] (manned : s.Manned actor) (count : Nat) :
    Ends (tickTimes count) s False (fun _ => True) (Manned actor) := by
  induction count generalizing s with
  | zero => exact ends_ok rfl trivial manned
  | succ count ih =>
    have counted := outcome_tick s
    obtain ⟨t, passed⟩ := tickTurns_answer s.counted s.counted s.sessions
    rw [outcome_bind_ok _ passed] at counted
    exact ends_after counted (ih (keeps_tick.after manned counted))

/-- Changing the context does not fail, and the same menu is open afterwards. Nothing is drawn by it, so it can be
done for a menu that cannot be drawn. -/
theorem updateContext_answers (manned : s.Manned actor) {context : Value} (put : context.IsPutTogether) :
    ∃ answer t, outcome (updateContext player context) s = (.ok answer, t) ∧ t.Manned actor ∧
      t.openMenu? = s.openMenu? := by
  rw [outcome_updateContext manned.keyed]
  cases opened : s.session? player with
  | none => exact ⟨false, s, rfl, manned, rfl⟩
  | some session =>
    refine ⟨true, _, rfl, ?_, openMenu?_adjusting s _ fun _ => rfl⟩
    rw [manned.actor_eq]
    refine manned.adjusting _ fun other same => ?_
    cases opened.symm.trans same
    obtain ⟨own, -, onPage⟩ := (manned.sessions_of_some opened).2
    exact ⟨own, put, onPage⟩

/-- Other menus from files have come in the place of the menus, and the session of the actor is on a page of its own.
This is the state before the session is drawn with them. -/
theorem replacing (manned : s.Manned actor) {menus : OrderedMap String Menu} (plain : ∀ pair ∈ menus, pair.2.IsPlain)
    (onPage : ∀ session, s.session? player = some session → { s with menus }.OnPage session) :
    { s with menus }.Manned actor := by
  refine { manned with plain, attended := ?_ }
  cases opened : s.session? player with
  | none => exact Or.inl (manned.sessions_of_none opened)
  | some session =>
    obtain ⟨only, attends⟩ := manned.sessions_of_some opened
    exact Or.inr ⟨session, only, attends.own, attends.put, onPage session opened⟩

/-- The session of the actor is brought in line with menus that are new: it is closed if its menu is gone, and
otherwise drawn again, unless the number of its pages cannot be written. Before it is drawn it is put on a page that
the menu has. -/
theorem ends_reviveSession [Machine] (manned : s.Manned actor) {menus : OrderedMap String Menu}
    (plain : ∀ pair ∈ menus, pair.2.IsPlain) {session : Session} (opened : s.session? player = some session) :
    Ends (reviveSession session) { s with menus }
      (∃ menu, { s with menus }.openMenu? = some menu ∧ ¬menu.Countable) (fun _ => True) (Manned actor) := by
  obtain ⟨only, own, put, onPage⟩ := manned.sessions_of_some opened
  have shown : { s with menus }.openMenu? = { s with menus }.menu? session.menu := by
    unfold openMenu?
    exact congrArg (Option.bind · _) opened
  have drawn {t : EngineState} (left : t.Manned actor) : Ends (refresh player >>= fun _ => pure ()) t
      (∃ menu, t.openMenu? = some menu ∧ ¬menu.Countable) (fun _ => True) (Manned actor) :=
    ends_bind (left.ends_redraw none) fun _ _ _ left => ends_ok rfl trivial left
  unfold reviveSession
  refine ends_after (outcome_get _) ?_
  rw [own]
  cases known : { s with menus }.menu? session.menu with
  | none =>
    have left : { s with menus }.Manned actor := manned.replacing plain fun other same => by
      cases opened.symm.trans same
      exact ⟨onPage.1, fun menu isMenu => by rw [known] at isMenu; cases isMenu⟩
    refine Ends.congr (F := False) ?_ (by simp [shown, known])
    exact ends_bind left.ends_close fun _ _ _ left => ends_ok rfl trivial left
  | some menu =>
    dsimp only
    split
    · have turned : (s.turning player 0).Manned actor := by
        rw [turning, manned.actor_eq]
        refine manned.adjusting _ fun other same => ?_
        cases opened.symm.trans same
        exact ⟨own, put, s.onPage_first rfl⟩
      have left : ({ s with menus }.turning player 0).Manned actor := turned.replacing plain fun other same => by
        rw [turned.session?_eq, turning, manned.actor_eq] at same
        rcases OrderedMap.of_get?_adjust same with ⟨-, before, -, rfl⟩ | ⟨apart, -⟩
        · exact EngineState.onPage_first _ rfl
        · exact absurd rfl apart
      have shown : ({ s with menus }.turning player 0).openMenu? = { s with menus }.openMenu? :=
        openMenu?_adjusting _ _ fun _ => rfl
      exact ends_after (outcome_set _ _) (shown ▸ drawn left)
    · rename_i inside
      have left : { s with menus }.Manned actor := manned.replacing plain fun other same => by
        cases opened.symm.trans same
        refine ⟨onPage.1, fun menu isMenu => ?_⟩
        cases known.symm.trans isMenu
        exact Int.not_le.mp inside
      exact drawn left

/-- The menus are replaced by menus from files, and the session of the actor is brought in line with them. There is
one session at most, so there is one turn at most. -/
theorem ends_replaceMenus [Machine] (manned : s.Manned actor) {menus : OrderedMap String Menu}
    (plain : ∀ pair ∈ menus, pair.2.IsPlain) :
    Ends (replaceMenus menus) s (∃ menu, { s with menus }.openMenu? = some menu ∧ ¬menu.Countable) (fun _ => True)
      (Manned actor) := by
  refine ends_after (outcome_modify _ s) (ends_after (outcome_get _) ?_)
  cases opened : s.session? player with
  | none =>
    have left : { s with menus }.Manned actor := manned.replacing plain fun other same => by
      rw [opened] at same
      cases same
    have shown : { s with menus }.openMenu? = none := congrArg (Option.bind · _) opened
    have idle : reviveAll s.sessions = pure () := by
      rw [manned.sessions_of_none opened]
      rfl
    dsimp only
    rw [idle]
    exact Ends.congr (F := False) (ends_ok rfl trivial left) (by simp [shown])
  | some session =>
    have only : reviveAll s.sessions = reviveSession session >>= fun _ => pure () := by
      rw [(manned.sessions_of_some opened).1, reviveAll_cons]
      rfl
    dsimp only
    rw [only]
    exact ends_bind (manned.ends_reviveSession plain opened) fun _ _ _ left => ends_ok rfl trivial left

/-- The menus are read again. That fails if they cannot be read, and if the menu that is open cannot be drawn as it is
now. If they cannot be read, the old ones stay, and nothing is drawn. -/
theorem ends_reloadMenus [Machine] (manned : s.Manned actor) (listing : Option FileListing) :
    Ends (reloadMenus listing) s
      (s.Unreadable listing ∨ ∃ menus menu, s.Rereads listing menus ∧ { s with menus }.openMenu? = some menu ∧
        ¬menu.Countable) (fun _ => True) (Manned actor) := by
  cases known : s.directory with
  | none =>
    have done : outcome (reloadMenus listing) s = outcome (note .reloadBeforeLoad >>= fun _ => pure []) s := by
      unfold reloadMenus
      rw [outcome_bind_ok _ (outcome_get s), known]
    refine Ends.congr (F := False) (ends_ok done trivial (manned.congr rfl)) (iff_of_false id ?_)
    rintro (⟨directory, cause, notices, there, -⟩ | ⟨menus, menu, ⟨directory, notices, there, -⟩, -⟩)
    · cases known.symm.trans there
    · cases known.symm.trans there
  | some directory =>
    rcases read : (Menu.ofDirectory directory listing s.config.defaultSize).run.run [] with ⟨cause | menus, notices⟩
    · exact Ends.congr (F := True) (ends_error (outcome_reloadMenus_error known read) (manned.congr rfl))
        (iff_of_true trivial (Or.inl ⟨directory, cause, notices, known, read⟩))
    · have plain : ∀ pair ∈ menus, pair.2.IsPlain := fun pair member =>
        (Menu.loadedAs_ofDirectory read pair member).plain
      have noted : (s.noting notices).Manned actor := manned.congr rfl
      have replaced := ends_bind (noted.ends_replaceMenus plain) fun _ _ _ left =>
        ends_ok (Q := fun _ => True) (a := menus) rfl trivial left
      have reread : s.Rereads listing menus := ⟨directory, notices, known, read⟩
      refine (replaced.of_eq (outcome_reloadMenus_ok known read)).congr
        ⟨fun ⟨menu, shown⟩ => Or.inr ⟨menus, menu, reread, shown⟩, ?_⟩
      rintro (⟨_, cause, others, there, failed⟩ | ⟨others, menu, ⟨_, _, there, again⟩, shown⟩)
      · cases known.symm.trans there
        cases read.symm.trans failed
      · cases known.symm.trans there
        cases read.symm.trans again
        exact ⟨menu, shown⟩

end Manned

end EngineState

end ChestMenu
