import ChestMenu.Proofs.Interrupted
import ChestMenu.Proofs.OpenMenus
import ChestMenu.Proofs.Scanning

/-!
# The times of refreshes

When a tick or a host by force refreshes the menu that an actor has open, the tick is noted for the actor, and when
the menu is left the note goes with it. So what is noted belongs to the session that is open, and lies between the
tick on which it was opened and the present one.

Two operations are not to be trusted with this. A refresh that is forced for an actor with no menu open draws nothing
and is noted all the same, and the next session of the actor takes the note over. An engine that is stopped counts
from zero again before it closes the menus, and if it cannot close one, sessions stay that were opened on ticks that
are yet to come. Whatever else a host does, and these two where they do not go wrong, the notes are in order.
-/
namespace ChestMenu

open Engine

section

/-- The operations that leave the notes in order, whatever becomes of them. -/
def HostCall.SparesBooks : HostCall → Prop
  | forceRefresh _ | stop => False
  | _ => True

/-- The operations that refresh no menu by the clock or by force. -/
def HostCall.Unscheduled : HostCall → Prop
  | tick | forceRefresh _ | forceRefreshAll => False
  | _ => True

namespace Engine

variable {s t : EngineState}

/-- Stopping the time breaks off before the ticks are set back, or sets them back and forgets what was noted. In
neither case is a session looked at. -/
theorem stopTime_cases (s : EngineState) :
    (∃ cause, outcome stopTime s = (.error cause, { s with running := false })) ∨
      outcome stopTime s = (.ok (), { s with running := false, tick := 0, lastRefresh := [] }) := by
  unfold stopTime
  rw [outcome_bind_ok _ (outcome_get s), outcome_bind_ok _ (outcome_set _ s)]
  dsimp only
  split
  · exact Or.inl ⟨_, rfl⟩
  · exact Or.inr rfl

/-- Once the time was stopped, stopping the engine is closing all menus. The closing goes through the sessions that
there are then. -/
theorem outcome_stop_halted (halted : outcome stopTime s = (.ok (), t)) :
    outcome stop s = outcome (closeAll (fun _ => true) t.sessions) t := by
  unfold stop closeAll
  rw [outcome_bind_ok _ halted, outcome_bind_ok _ (outcome_get t)]
  rfl

/-- Closing the menus of all sessions leaves none. Each is found under the key that it is filed under, and the list
has all of them. -/
theorem sessions_closeAll (filed : Filed s s) (closed : outcome (closeAll (fun _ => true) s.sessions) s = (.ok (), t)) :
    t.sessions = [] := by
  have start : Sweeping s (fun _ => true) s.sessions s := by
    refine ⟨rfl, rfl, fun pair => filed.filed pair.1 pair.2, fun key session there => ⟨there, fun _ => ?_⟩⟩
    exact OrderedMap.mem_of_get? there
  refine OrderedMap.eq_nil_of_get? fun key => ?_
  cases opened : t.sessions.get? key with
  | none => rfl
  | some session => cases ((start.done closed).sessions key session opened).2 rfl

/-- Closing a menu does not count ticks, and notes nothing. So behind a stop everything stays at zero. -/
theorem keeps_cleared_close {ref : Nat} : Keeps (fun t => t.tick = 0 ∧ t.lastRefresh = []) (close ref) := by
  refine keeps_close fun t session _ _ ⟨tick, lastRefresh⟩ => ?_
  have left : ∀ key, t.lastRefresh.erase key = [] := fun key => by rw [lastRefresh, OrderedMap.erase]
  rcases tearDown_cases session { t with sessions := t.sessions.erase (t.actor ref).key } with
    ⟨cause, done⟩ | ⟨cause, done⟩ | done | done
  all_goals rw [done]
  · exact ⟨tick, lastRefresh⟩
  all_goals exact ⟨tick, left _⟩

end Engine

namespace EngineState

/-- Sessions were opened on ticks that have passed, and what is noted belongs to a session and lies between the tick on
which that was opened and the present one. -/
structure Booked (s : EngineState) : Prop extends s.Seated where
  opened : ∀ key session, s.sessions.get? key = some session → session.openedTick ≤ s.tick
  noted : ∀ key number, s.lastRefresh.get? key = some number →
    ∃ session, s.sessions.get? key = some session ∧ session.openedTick ≤ number ∧ number ≤ s.tick

namespace Booked

variable {s t : EngineState} {key : ActorKey} {session : Session} {ref : Nat}

/-- A change elsewhere keeps the books, as sessions, ticks and notes are the same. -/
theorem elsewhere (booked : s.Booked) (actors : t.actors = s.actors) (sessions : t.sessions = s.sessions)
    (tick : t.tick = s.tick) (lastRefresh : t.lastRefresh = s.lastRefresh) : t.Booked where
  toSeated := booked.toSeated.congr actors sessions
  opened key session there := by
    rw [tick]
    rw [sessions] at there
    exact booked.opened key session there
  noted key number there := by
    rw [lastRefresh] at there
    rw [sessions, tick]
    exact booked.noted key number there

/-- Without a session nothing is noted, because a note belongs to one. -/
theorem unnoted (booked : s.Booked) (absent : s.sessions.get? key = none) : s.lastRefresh.get? key = none := by
  cases noted : s.lastRefresh.get? key with
  | none => rfl
  | some number =>
    obtain ⟨session, opened, -⟩ := booked.noted key number noted
    cases absent.symm.trans opened

/-- A session may change in all but its actor and the tick on which it was opened, and the books are kept. -/
theorem adjusting (booked : s.Booked) (key : ActorKey) (change : Session → Session)
    (actor : ∀ session, (change session).actor = session.actor)
    (openedTick : ∀ session, (change session).openedTick = session.openedTick) :
    { s with sessions := s.sessions.adjust key change }.Booked where
  toSeated := booked.toSeated.adjusting key change actor
  opened other session there := by
    rcases OrderedMap.of_get?_adjust there with ⟨-, before, found, rfl⟩ | ⟨-, found⟩
    · exact Nat.le_trans (Nat.le_of_eq (openedTick before)) (booked.opened other before found)
    · exact booked.opened other session found
  noted other number there := by
    obtain ⟨session, opened, early, late⟩ := booked.noted other number there
    change ∃ session, (s.sessions.adjust key change).get? other = some session ∧ _
    rw [OrderedMap.get?_adjust, opened]
    split
    · exact ⟨change session, rfl, Nat.le_trans (Nat.le_of_eq (openedTick session)) early, late⟩
    · exact ⟨session, rfl, early, late⟩

/-- When a note is taken away, what is left is as it was. -/
theorem forgetting (booked : s.Booked) (key : ActorKey) : { s with lastRefresh := s.lastRefresh.erase key }.Booked where
  toSeated := booked.toSeated.congr rfl rfl
  opened := booked.opened
  noted other number there := booked.noted other number (OrderedMap.of_get?_erase there).2

/-- When a session ends its note is taken away with it, so no note is left without a session. -/
theorem closing (booked : s.Booked) (key : ActorKey) :
    { s with sessions := s.sessions.erase key, lastRefresh := s.lastRefresh.erase key }.Booked where
  toSeated := (booked.toSeated.erasing key).congr rfl rfl
  opened other session there := booked.opened other session (OrderedMap.of_get?_erase there).2
  noted other number there := by
    change ∃ session, (s.sessions.erase key).get? other = some session ∧ _
    obtain ⟨apart, found⟩ := OrderedMap.of_get?_erase there
    rw [OrderedMap.get?_erase, if_neg apart]
    exact booked.noted other number found

/-- A session begins on the present tick, and nothing is noted for it yet. -/
theorem entering (booked : s.Booked) (keyed : s.Keyed ref) (unnoted : s.lastRefresh.get? (s.actor ref).key = none)
    (menu : Menu) (context : Value) : (s.entering (s.actor ref).key ref menu context).Booked where
  toSeated := booked.toSeated.entering keyed menu context
  opened key session there := by
    rw [entering_sessions] at there
    split at there
    · cases there
      exact Nat.le_refl s.tick
    · exact booked.opened key session there
  noted key number there := by
    obtain ⟨session, opened, bounds⟩ := booked.noted key number there
    rw [entering_sessions]
    split
    · rename_i isKey
      subst isKey
      cases unnoted.symm.trans there
    · exact ⟨session, opened, bounds⟩

/-- The present tick is noted for a session that is open. It lies between the opening and now, as it is now. -/
theorem marking (booked : s.Booked) (opened : s.sessions.get? key = some session) :
    { s with lastRefresh := s.lastRefresh.put key s.tick }.Booked where
  toSeated := booked.toSeated.congr rfl rfl
  opened := booked.opened
  noted other number there := by
    change (s.lastRefresh.put key s.tick).get? other = some number at there
    rw [OrderedMap.get?_put] at there
    split at there
    · rename_i isKey
      subst isKey
      cases there
      exact ⟨session, opened, booked.opened _ session opened, Nat.le_refl s.tick⟩
    · exact booked.noted other number there

/-- A tick is counted, and what lay in the past lies there still. -/
theorem counting (booked : s.Booked) : s.counted.Booked where
  toSeated := booked.toSeated.congr rfl rfl
  opened key session there := Nat.le_succ_of_le (booked.opened key session there)
  noted key number there := by
    obtain ⟨session, opened, early, late⟩ := booked.noted key number there
    exact ⟨session, opened, early, Nat.le_succ_of_le late⟩

/-- Drawing keeps the books, as it writes to the ledger and to a surface. -/
theorem keeps_render [Machine] {menu : Menu} {slots : Option (List SlotName)} : Keeps Booked
    (render session menu slots) :=
  Engine.keeps_render (fun _ _ booked => booked.elsewhere rfl rfl rfl rfl)
    fun _ _ _ _ booked => booked.elsewhere rfl rfl rfl rfl

/-- Leaving a menu keeps the books: the note goes, or everything stays. -/
theorem keeps_tearDown : Keeps Booked (tearDown session) := by
  intro s booked
  have left : (s.leaving (s.actor session.actor).key).Booked := (booked.forgetting _).elsewhere rfl rfl rfl rfl
  rcases tearDown_cases session s with ⟨cause, done⟩ | ⟨cause, done⟩ | done | done
  · rw [done]
    exact booked
  · rw [done]
    exact left
  · rw [done]
    exact left
  · rw [done]
    exact left.elsewhere rfl rfl rfl rfl

/-- Entering a menu keeps the books, if nothing is noted yet under the key of the actor. -/
theorem enter [Machine] {menu : Menu} {context : Value} (booked : s.Booked) (keyed : s.Keyed ref)
    (unnoted : s.lastRefresh.get? (s.actor ref).key = none) : (outcome (enter ref menu context) s).2.Booked := by
  rw [outcome_enter keyed]
  exact keeps_render _ (booked.entering keyed unnoted menu context)

/-- Opening a menu keeps the books. If one was open before, its note has gone when the new session begins. -/
theorem keeps_openMenu [Machine] {name : String} {context : Value} {keep : Bool} :
    Keeps Booked (openMenu ref name context keep) := by
  refine Engine.keeps_openMenu (fun _ _ booked => booked.elsewhere rfl rfl rfl rfl) ?_ ?_
  · exact fun s menu context keyed _ absent booked => booked.enter keyed (booked.unnoted absent)
  · intro s menu session context keyed _ opened booked
    have left : (outcome (tearDown session) s).2.Booked := keeps_tearDown s booked
    obtain ⟨result, legacyHandlers, done⟩ := outcome_tearDown_keyed session (booked.keyed_of_session opened)
    rw [done] at left
    rcases result with cause | _
    · rw [outcome_bind_error _ done]
      exact left
    · rw [outcome_bind_ok _ done]
      refine left.enter keyed ?_
      rw [booked.key_of_session opened]
      exact (OrderedMap.get?_erase _ _ _).trans (if_pos rfl)

/-- Closing a menu keeps the books, with or without a session. -/
theorem keeps_close : Keeps Booked (close ref) := by
  apply Engine.keeps_close
  intro s session _ opened booked
  have keyed : { s with sessions := s.sessions.erase (s.actor ref).key }.Keyed session.actor :=
    booked.keyed_of_session opened
  obtain ⟨result, legacyHandlers, done⟩ := outcome_tearDown_keyed session keyed
  rw [done, ← booked.key_of_session opened]
  exact (booked.closing (s.actor session.actor).key).elsewhere rfl rfl rfl rfl

/-- Drawing a menu again keeps the books, as a drawing is not noted by itself. -/
theorem keeps_redraw [Machine] {slots : Option (List SlotName)} : Keeps Booked (redraw ref slots) :=
  Engine.keeps_redraw fun s _ _ _ _ _ booked => keeps_render s booked

/-- Whatever is done for one actor at a time keeps the books. -/
theorem watched [Machine] : Watched Booked fun _ => True where
  unmoved _ _ unmoved booked := booked.elsewhere unmoved.actors unmoved.sessions unmoved.tick unmoved.lastRefresh
  opened _ _ _ _ _ := keeps_openMenu
  closed _ := keeps_close
  turned _ _ := Engine.keeps_setPage fun _ _ _ _ _ _ _ booked =>
    keeps_render _ (booked.adjusting _ _ (fun _ => rfl) fun _ => rfl)
  redrawn _ _ := keeps_redraw
  updated _ _ := Engine.keeps_updateContext fun _ _ booked => booked.adjusting _ _ (fun _ => rfl) fun _ => rfl

/-- While menus are refreshed, the notes for actors who had one open before are in order. The session may have changed
in the meantime, but it has not been closed by a drawing. -/
theorem keeps_markRefreshed (opened : s.session? ref = some session) :
    Keeps (fun t => t.Booked ∧ Redrawn s t) (markRefreshed ref s.tick) := by
  refine Engine.keeps_markRefreshed fun t _ ⟨booked, redrawn⟩ => ?_
  refine ⟨?_, redrawn.trans ⟨_, _, _, _, rfl⟩⟩
  obtain ⟨screen, lastRefresh, ledger, journal, rfl⟩ := redrawn
  exact booked.marking opened

/-- While menus are drawn again, all notes are in order, and the sessions are those of before. -/
theorem keeps_redrawing [Machine] {slots : Option (List SlotName)} :
    Keeps (fun t => t.Booked ∧ Redrawn s t) (redraw ref slots) := by
  refine Engine.keeps_redraw fun t session menu _ _ _ both => ?_
  have drawing : Keeps (fun t => t.Booked ∧ Redrawn s t) (render session menu slots) := by
    refine Engine.keeps_render (fun t ledger ⟨booked, redrawn⟩ => ?_) fun t title grid _ ⟨booked, redrawn⟩ => ?_
    · exact ⟨booked.elsewhere rfl rfl rfl rfl, redrawn.trans ⟨_, _, ledger, _, rfl⟩⟩
    · exact ⟨booked.elsewhere rfl rfl rfl rfl, redrawn.trans ⟨_, _, _, _, rfl⟩⟩
  exact drawing t both

/-- A tick keeps the books. It is counted first, and what it draws is noted with the new number. -/
theorem keeps_tick [Machine] : Keeps Booked Engine.tick := by
  intro s booked
  have kept : Keeps (fun t => t.Booked ∧ Redrawn s.counted t) (eachSession (tickTurn s.counted) s.sessions) := by
    refine keeps_eachSession fun pair member => keeps_tryCatch ?_ fun _ t ⟨booked, redrawn⟩ => ?_
    · have opened : s.counted.session? pair.2.actor = some pair.2 := booked.session?_of_mem member
      exact keeps_refreshDue (fun _ => keeps_redrawing) (keeps_markRefreshed opened)
    · exact ⟨booked.elsewhere rfl rfl rfl rfl, redrawn.trans ⟨_, _, _, _, rfl⟩⟩
  rw [outcome_tick, outcome_bind_answer]
  exact (kept s.counted ⟨booked.counting, .refl _⟩).1

/-- Forcing a refresh keeps the books for an actor who had a menu open before. For anyone else it would make a note
without a session. -/
theorem keeps_forceRefresh [Machine] (opened : s.session? ref = some session) :
    Keeps (fun t => t.Booked ∧ Redrawn s t) (forceRefresh ref) := by
  refine keeps_bind keeps_redrawing fun _ => keeps_get_bind fun t both => ?_
  have now : t.tick = s.tick := by
    obtain ⟨-, _, _, _, _, rfl⟩ := both
    rfl
  rw [now]
  exact keeps_markRefreshed opened t both

/-- Forcing all refreshes keeps the books, since it is done for actors with sessions only. -/
theorem keeps_forceRefreshAll [Machine] : Keeps Booked forceRefreshAll := by
  intro s booked
  have kept : Keeps (fun t => t.Booked ∧ Redrawn s t)
      (eachSession (fun session => forceRefresh session.actor) s.sessions) :=
    keeps_eachSession fun pair member => keeps_forceRefresh (booked.session?_of_mem member)
  exact (kept s ⟨booked, .refl s⟩).1

/-- Forcing a refresh for an actor keeps the books, unless it is found that there is nothing to be refreshed. -/
theorem forced [Machine] (booked : s.Booked) (shown : (outcome (refresh ref) s).1.toOption ≠ some false) :
    (outcome (forceRefresh ref) s).2.Booked := by
  rcases keyOf_cases ref s with ⟨cause, failed⟩ | ⟨keyed, -⟩
  · have fails : outcome (refresh ref) s = (.error cause, s) := outcome_bind_error _ (outcome_sessionOf_error failed)
    rw [forceRefresh, outcome_bind_error _ fails]
    exact booked
  · rcases redraw_cases keyed none with nothing | ⟨session, menu, opened, -⟩
    · rw [refresh, nothing] at shown
      exact absurd rfl shown
    · exact (keeps_forceRefresh opened s ⟨booked, .refl s⟩).1

/-- Every operation keeps the books but the two that are not to be trusted: a refresh by force and the stopping. -/
theorem keeps_run [Machine] {c : HostCall} {calling : Calling} (spares : c.SparesBooks)
    (answers : ∀ ref, c.actor? = some ref → ∀ info callback, Keeps Booked (calling ref info callback)) :
    Keeps Booked (c.run calling) := by
  refine watched.run c calling (fun _ _ => trivial) (fun _ _ booked => booked.elsewhere rfl rfl rfl rfl)
    (fun isWide => ?_) answers
  have replaced (s : EngineState) (menus : OrderedMap String Menu) (booked : s.Booked) : { s with menus }.Booked :=
    booked.elsewhere rfl rfl rfl rfl
  have reset (s : EngineState) (key : ActorKey) (booked : s.Booked) :
      { s with sessions := s.sessions.setPage key 0 }.Booked :=
    booked.adjusting _ _ (fun _ => rfl) fun _ => rfl
  cases c with
  | registerMenu | unregisterMenu | loadMenus | reloadMenus =>
    exact watched.run_menus replaced reset fun spares => spares
  | tick => exact keeps_tick
  | forceRefreshAll => exact keeps_forceRefreshAll
  | forceRefresh | stop => exact spares.elim
  | _ => exact isWide.elim

/-- All code of a host that asks for no others keeps the books. -/
theorem keeps_code [Machine] {α : Type} {x : Engine α} (code : HostCode HostCall.SparesBooks x) : Keeps Booked x :=
  code.keeps (fun _ _ booked => booked.elsewhere rfl rfl rfl rfl) fun _ _ => keeps_run

/-- Stopping the engine keeps the books, if it comes to its end or the ticks were at zero. Otherwise a session could
be left that was opened in the future. -/
theorem stopped [Machine] (booked : s.Booked) (ended : (outcome stop s).1 = .ok () ∨ (outcome stop s).2.tick = s.tick) :
    (outcome stop s).2.Booked := by
  rcases stopTime_cases s with ⟨cause, failed⟩ | halted
  · rw [stop, outcome_bind_error _ failed]
    exact booked.elsewhere rfl rfl rfl rfl
  · have closing := outcome_stop_halted halted
    have cleared : Keeps (fun t => t.tick = 0 ∧ t.lastRefresh = []) (closeAll (fun _ => true) s.sessions) :=
      keeps_closeAll fun _ => keeps_cleared_close
    have after := cleared { s with running := false, tick := 0, lastRefresh := [] } ⟨rfl, rfl⟩
    have seated : (outcome stop s).2.Seated := Seated.upheld.stopped s booked.toSeated
    rw [← closing] at after
    rcases ended with done | same
    · have timeless : { s with running := false, tick := 0, lastRefresh := [] }.Seated :=
        booked.toSeated.congr rfl rfl
      have ends : outcome stop s = (.ok (), (outcome stop s).2) := Prod.ext done rfl
      have empty : (outcome stop s).2.sessions = [] :=
        sessions_closeAll timeless.isFiled (closing.symm.trans ends)
      refine ⟨seated, fun key session there => ?_, fun key number there => ?_⟩
      · rw [empty] at there
        cases there
      · rw [after.2] at there
        cases there
    · have start : { s with running := false, tick := 0, lastRefresh := [] }.Booked := by
        refine ⟨booked.toSeated.congr rfl rfl, fun key session there => ?_, fun key number there => ?_⟩
        · have early := booked.opened key session there
          rwa [← same, after.1] at early
        · cases there
      rw [closing]
      exact keeps_closeAll (fun _ => keeps_close) _ start

end Booked

/-- Nothing is noted under a key. -/
def Unnoted (key : ActorKey) (s : EngineState) : Prop :=
  s.lastRefresh.get? key = none

namespace Unnoted

variable {key : ActorKey} {s : EngineState} {session : Session} {ref : Nat}

/-- Drawing notes nothing, as a refresh is noted by whoever asks for the drawing. -/
theorem keeps_render [Machine] {menu : Menu} {slots : Option (List SlotName)} :
    Keeps (Unnoted key) (render session menu slots) :=
  Engine.keeps_render (fun _ _ unnoted => unnoted) fun _ _ _ _ unnoted => unnoted

/-- Leaving a menu notes nothing, and takes notes away at most. -/
theorem keeps_tearDown : Keeps (Unnoted key) (tearDown session) := by
  intro s unnoted
  have left : (s.leaving (s.actor session.actor).key).Unnoted key := by
    change (s.lastRefresh.erase _).get? key = none
    rw [OrderedMap.get?_erase]
    split
    · rfl
    · exact unnoted
  rcases tearDown_cases session s with ⟨cause, done⟩ | ⟨cause, done⟩ | done | done
  all_goals rw [done]
  · exact unnoted
  all_goals exact left

/-- Entering a menu notes nothing, so a session begins without a note. -/
theorem keeps_enter [Machine] {menu : Menu} {context : Value} : Keeps (Unnoted key) (enter ref menu context) := by
  unfold enter
  apply keeps_keyOf_bind
  intro s _ unnoted
  rw [outcome_bind_ok _ (outcome_get s), outcome_bind_ok _ (outcome_set _ s)]
  exact keeps_render _ unnoted

/-- Drawing a menu again notes nothing, if no tick asks for it. -/
theorem keeps_redraw [Machine] {slots : Option (List SlotName)} : Keeps (Unnoted key) (redraw ref slots) :=
  Engine.keeps_redraw fun s _ _ _ _ _ unnoted => keeps_render s unnoted

/-- Whatever else is done for one actor notes nothing. -/
theorem watched [Machine] : Watched (Unnoted key) fun _ => True where
  unmoved _ _ unmoved unnoted := by
    rw [Unnoted, unmoved.lastRefresh]
    exact unnoted
  opened _ _ _ _ _ := Engine.keeps_openMenu (fun _ _ unnoted => unnoted)
    (fun s _ _ _ _ _ unnoted => keeps_enter s unnoted)
    fun s _ _ _ _ _ _ unnoted => keeps_bind keeps_tearDown (fun _ => keeps_enter) s unnoted
  closed _ := Engine.keeps_close fun _ _ _ _ unnoted => keeps_tearDown _ unnoted
  turned _ _ := Engine.keeps_setPage fun _ _ _ _ _ _ _ unnoted => keeps_render _ unnoted
  redrawn _ _ := keeps_redraw
  updated _ _ := Engine.keeps_updateContext fun _ _ unnoted => unnoted

/-- Nothing is noted by code of a host that asks for no ticks and no refreshes by force. -/
theorem keeps_code [Machine] {α : Type} {x : Engine α} (code : HostCode HostCall.Unscheduled x) : Keeps
    (Unnoted key) x := by
  refine code.keeps (fun _ _ unnoted => unnoted) fun c calling unscheduled answers => ?_
  refine watched.run c calling (fun _ _ => trivial) (fun _ _ unnoted => unnoted) (fun isWide => ?_) answers
  cases c with
  | registerMenu | unregisterMenu | loadMenus | reloadMenus =>
    exact watched.run_menus (fun _ _ unnoted => unnoted) (fun _ _ unnoted => unnoted) fun spares => spares
  | stop => exact keeps_stop (fun _ unnoted => unnoted) (fun _ _ => rfl) watched.closed
  | tick | forceRefresh | forceRefreshAll => exact unscheduled.elim
  | _ => exact isWide.elim

/-- A refresh that is forced for another actor, or that fails, notes nothing for an actor. It is noted under the key
of the actor for whom it is forced, and only once it has answered. -/
theorem forced [Machine] {other : Nat} (filed : Filed s s) (unnoted : s.Unnoted (s.actor ref).key)
    (failed : (s.actor other).key = (s.actor ref).key → (outcome (refresh other) s).1.toOption = none) :
    (outcome (forceRefresh other) s).2.Unnoted (s.actor ref).key := by
  by_cases same : (s.actor other).key = (s.actor ref).key
  case pos =>
    have still : (outcome (refresh other) s).2.Unnoted (s.actor ref).key := keeps_redraw s unnoted
    rcases done : outcome (refresh other) s with ⟨cause | drawn, t⟩
    · rw [forceRefresh, outcome_bind_error _ done]
      rwa [done] at still
    · have fails := failed same
      rw [done] at fails
      cases fails
  case neg =>
    have beside := Beside.keeps_forceRefresh s ⟨filed, same, .refl ref s⟩
    exact beside.untouched.lastRefresh.trans unnoted

end Unnoted

end EngineState

/-- The states that are reached from one in such a way that the menu of an actor is not refreshed by the clock or by
force. Ticks pass it over or fail to draw it, and refreshes that are forced are for other actors or fail. -/
inductive Unrefreshed [Machine] (ref : Nat) (first : EngineState) : EngineState → Prop where
  | here : Unrefreshed ref first first
  | called {s : EngineState} (before : Unrefreshed ref first s) (c : HostCall) (calling : Calling)
      (code : HostCode HostCall.Unscheduled (c.run calling)) : Unrefreshed ref first (outcome (c.run calling) s).2
  | ticked {s : EngineState} (before : Unrefreshed ref first s)
      (passed : ∀ session, s.session? ref = some session →
        ∀ menu title grid, ¬s.Refreshes (s.actor ref).key session menu title grid) :
      Unrefreshed ref first (outcome tick s).2
  | forced {s : EngineState} (before : Unrefreshed ref first s) (other : Nat)
      (failed : (s.actor other).key = (s.actor ref).key → (outcome (refresh other) s).1.toOption = none) :
      Unrefreshed ref first (outcome (forceRefresh other) s).2
  | forcedAll {s : EngineState} (before : Unrefreshed ref first s)
      (failed : ∀ early pair late m, s.sessions = early ++ pair :: late →
        outcome (eachSession (fun session => forceRefresh session.actor) early) s = (.ok (), m) →
        pair.1 = (s.actor ref).key → (outcome (refresh pair.2.actor) m).1.toOption = none) :
      Unrefreshed ref first (outcome forceRefreshAll s).2

namespace Unrefreshed

variable {ref : Nat} {first s : EngineState}

/-- The states of such a run are among those that a host can reach. -/
theorem reaches [Machine] (run : Unrefreshed ref first s) : Reaches (fun _ => True) first s := by
  induction run with
  | here => exact .here
  | called _ c calling code reached => exact reached.after c calling (code.mono fun _ _ => trivial)
  | ticked _ _ reached => exact reached.after .tick call (.scripted _ trivial fun _ _ _ _ => trivial)
  | forced _ other _ reached =>
    exact reached.after (.forceRefresh other) call (.scripted _ trivial fun _ _ _ _ => trivial)
  | forcedAll _ _ reached => exact reached.after .forceRefreshAll call (.scripted _ trivial fun _ _ _ _ => trivial)

/-- A refresh that is forced touches no other actor than the one of the session. -/
theorem forceRefresh_own [Machine] : ForItsActor fun session => forceRefresh session.actor := fun _ _ _ =>
  Beside.keeps_forceRefresh

/-- Forcing all refreshes notes nothing for an actor in whose turn, if it comes, the refresh fails. The turns of the
others note under other keys. -/
theorem unnoted_forceRefreshAll [Machine] (seated : s.Seated) (unnoted : s.Unnoted (s.actor ref).key)
    (failed : ∀ early pair late m, s.sessions = early ++ pair :: late →
      outcome (eachSession (fun session => forceRefresh session.actor) early) s = (.ok (), m) →
      pair.1 = (s.actor ref).key → (outcome (refresh pair.2.actor) m).1.toOption = none) :
    (outcome forceRefreshAll s).2.Unnoted (s.actor ref).key := by
  -- Sessions that had their turns without a failure are not that of the actor.
  have apart {before after : Sessions} {m : EngineState} (split : s.sessions = before ++ after)
      (had : outcome (eachSession (fun session => forceRefresh session.actor) before) s = (.ok (), m)) :
      Untouched ref s m := by
    have others : ∀ pair ∈ before, (s.actor pair.2.actor).key ≠ (s.actor ref).key := by
      intro pair member same
      obtain ⟨early, late, rfl⟩ := List.append_of_mem member
      rw [List.append_assoc, List.cons_append] at split
      obtain ⟨u, v, first, turn⟩ := turn_of_ok had
      have isKey : pair.1 = (s.actor ref).key := by
        rw [← same]
        exact (seated.filed pair (by simp [split])).symm
      have fails := failed early pair (late ++ after) u split first isKey
      obtain ⟨drawn, w, done, -⟩ := ok_of_outcome_bind turn
      rw [done] at fails
      cases fails
    have untouched := untouched_eachSession forceRefresh_own seated.isFiled others
    rwa [had] at untouched
  rcases eachSession_cases (fun session => forceRefresh session.actor) s.sessions s with
    ⟨t, done⟩ | ⟨before, stuck, waiting, m, cause, t, split, had, failedTurn⟩
  · have all : outcome forceRefreshAll s = (.ok (), t) := done
    rw [all]
    exact (apart (List.append_nil _).symm done).lastRefresh.trans unnoted
  · have all : outcome forceRefreshAll s = (.error cause, t) := by
      have whole : outcome (eachSession _ (before ++ stuck :: waiting)) s = (.error cause, t) :=
        outcome_eachSession_failed had failedTurn
      rw [← split] at whole
      exact whole
    have untouched := apart split had
    have filed : Filed s m := by
      have kept : Keeps (Filed s) (eachSession (fun session => forceRefresh session.actor) before) :=
        keeps_eachSession fun _ _ => Filed.upheld.forced _
      exact kept.after seated.isFiled had
    have same (other : Nat) : m.actor other = s.actor other := filed.actor other
    have turn : (outcome (forceRefresh stuck.2.actor) m).2.Unnoted (m.actor ref).key := by
      refine EngineState.Unnoted.forced ⟨rfl, filed.filed⟩ ?_ fun isKey => ?_
      · rw [same]
        exact untouched.lastRefresh.trans unnoted
      · rw [same, same] at isKey
        refine failed before stuck waiting m split had ?_
        rw [← isKey]
        exact (seated.filed stuck (by simp [split])).symm
    rw [all, ← same]
    rwa [failedTurn] at turn

/-- Nothing is noted for the actor in the states of such a run, if nothing was at its beginning. -/
theorem unnoted [Machine] (seated : first.Seated) (start : first.Unnoted (first.actor ref).key)
    (run : Unrefreshed ref first s) :
    s.Unnoted (s.actor ref).key := by
  have seatedThere {t : EngineState} (run : Unrefreshed ref first t) : t.Seated :=
    run.reaches.holds EngineState.Seated.keeps_code seated
  have same {t : EngineState} (run : Unrefreshed ref first t) : t.actor ref = first.actor ref :=
    (run.reaches.holds Filed.keeps_code seated.isFiled).actor ref
  suffices unnoted : s.Unnoted (first.actor ref).key by rwa [same run]
  induction run with
  | here => exact start
  | called _ c calling code unnoted => exact EngineState.Unnoted.keeps_code code _ unnoted
  | @ticked s before passed unnoted =>
    obtain ⟨t, done, -, -, scanned, untouched⟩ := tick_scans (seatedThere before)
    rw [done]
    rw [← same before] at unnoted ⊢
    cases opened : s.session? ref with
    | none => exact (untouched ref opened).lastRefresh.trans unnoted
    | some session =>
      have turn := scanned _ (OrderedMap.mem_of_get? opened)
      exact (turn.passed (passed session opened)).2.trans unnoted
  | forced before other failed unnoted =>
    rw [← same before] at unnoted ⊢
    exact unnoted.forced (seatedThere before).isFiled failed
  | forcedAll before failed unnoted =>
    rw [← same before] at unnoted ⊢
    exact unnoted_forceRefreshAll (seatedThere before) unnoted failed

end Unrefreshed

/-- The states that are reached without any of the operations going wrong that are not to be trusted: a refresh is not
forced for an actor who turns out to have nothing open, and an engine that is stopped can close all menus or had its
ticks at zero. -/
inductive BookRun [Machine] (first : EngineState) : EngineState → Prop where
  | here : BookRun first first
  | called {s : EngineState} (before : BookRun first s) (c : HostCall) (calling : Calling)
      (code : HostCode HostCall.SparesBooks (c.run calling)) : BookRun first (outcome (c.run calling) s).2
  | forced {s : EngineState} (before : BookRun first s) (ref : Nat)
      (shown : (outcome (refresh ref) s).1.toOption ≠ some false) : BookRun first (outcome (forceRefresh ref) s).2
  | stopped {s : EngineState} (before : BookRun first s)
      (ended : (outcome stop s).1 = .ok () ∨ (outcome stop s).2.tick = s.tick) : BookRun first (outcome stop s).2

/-- In all states of a run of this kind the notes are in order. The induction is on the run, whose two special steps
say what they need. -/
theorem BookRun.booked [Machine] {first s : EngineState} (start : first.Booked) (run : BookRun first s) : s.Booked := by
  induction run with
  | here => exact start
  | called _ c calling code booked => exact EngineState.Booked.keeps_code code _ booked
  | forced _ ref shown booked => exact booked.forced shown
  | stopped _ ended booked => exact booked.stopped ended

/-- Nothing is noted for an actor who has just opened a menu, if the notes were in order before. If a menu was open
before, its note went when it was left. -/
theorem EngineState.Booked.unnoted_openMenu [Machine] {s : EngineState} (booked : s.Booked) {ref : Nat} {name : String}
    {menu : Menu} {context : Value} {keep : Bool} (keyed : s.Keyed ref) (known : s.menu? name = some menu) :
    (outcome (openMenu ref name context keep) s).2.Unnoted (s.actor ref).key := by
  unfold openMenu
  rw [outcome_bind_ok _ (outcome_get s), known]
  dsimp only
  rw [outcome_bind_ok _ (outcome_sessionOf keyed)]
  cases opened : s.session? ref with
  | none =>
    dsimp only
    rw [outcome_bind_answer]
    exact Unnoted.keeps_enter s (booked.unnoted opened)
  | some session =>
    obtain ⟨result, legacyHandlers, done⟩ := outcome_tearDown_keyed session (booked.keyed_of_session opened)
    have left : { s.leaving (s.actor session.actor).key with legacyHandlers }.Unnoted (s.actor ref).key :=
      (OrderedMap.get?_erase _ _ _).trans (if_pos (booked.key_of_session opened))
    dsimp only
    rcases result with cause | _
    · rw [outcome_bind_error _ done]
      exact left
    · rw [outcome_bind_ok _ done, outcome_bind_answer]
      exact Unnoted.keeps_enter _ left

/-- A refresh that is forced is noted if it does not fail, whether anything was drawn or not. The tick that is noted
is the present one. -/
theorem noted_forceRefresh [Machine] {s t : EngineState} {ref : Nat}
    (done : outcome (forceRefresh ref) s = (.ok (), t)) :
    t.sessions = s.sessions ∧ t.lastRefresh.get? (t.actor ref).key = some t.tick := by
  obtain ⟨drawn, u, redrawn, marked⟩ := ok_of_outcome_bind done
  obtain ⟨-, sessions, -⟩ := redraw_same ref none s
  rw [show outcome (redraw ref none) s = (.ok drawn, u) from redrawn] at sessions
  rw [outcome_bind_ok _ (outcome_get u), markRefreshed] at marked
  rcases keyOf_cases ref u with ⟨cause, failed⟩ | ⟨-, found⟩
  · rw [outcome_bind_error _ failed] at marked
    cases marked
  · rw [outcome_bind_ok _ found] at marked
    cases marked
    exact ⟨sessions, (OrderedMap.get?_put _ _ _ _).trans (if_pos rfl)⟩

/-- As long as no refresh is forced for an actor with nothing open, and no menu stays open when the engine is stopped,
what is noted for an actor belongs to the session that the actor has, and lies between the tick on which that was
opened and the present one. So nothing is noted for an actor who has opened a menu until that is refreshed. A refresh
that is forced without a failure is noted in any case, be there a session or not.

Proof: the first part is the invariant `Booked`, which holds at the beginning and is carried through a run by
`BookRun.booked`. An opened menu has no note, as the note went with the menu that was left, and nothing behind it that
does not refresh can make one (`Unrefreshed.unnoted`). The last part is read off the operation. -/
theorem noted_of_bookRun [Machine] {first : EngineState} (idle : first.sessions = []) (blank : first.lastRefresh = []) :
    (∀ s, BookRun first s → ∀ ref number, s.lastRefresh.get? (s.actor ref).key = some number →
      ∃ session, s.session? ref = some session ∧ session.openedTick ≤ number ∧ number ≤ s.tick) ∧
    (∀ s, BookRun first s → ∀ ref name menu context keep, s.Keyed ref → s.menu? name = some menu →
      ∀ t, Unrefreshed ref (outcome (openMenu ref name context keep) s).2 t →
        t.lastRefresh.get? (t.actor ref).key = none) ∧
    ∀ s ref t, outcome (forceRefresh ref) s = (.ok (), t) →
      t.sessions = s.sessions ∧ t.lastRefresh.get? (t.actor ref).key = some t.tick := by
  have start : first.Booked := by
    refine ⟨.of_idle idle, fun key session there => ?_, fun key number there => ?_⟩
    · rw [idle] at there
      cases there
    · rw [blank] at there
      cases there
  refine ⟨fun s run ref number there => ?_, fun s run ref name menu context keep keyed known t later => ?_,
    fun s ref t done => noted_forceRefresh done⟩
  · exact (run.booked start).noted _ number there
  · have booked := run.booked start
    have opened : (outcome (openMenu ref name context keep) s).2.Booked := EngineState.Booked.keeps_openMenu s booked
    have filed : Filed s (outcome (openMenu ref name context keep) s).2 :=
      Filed.upheld.opened ref trivial name context keep s booked.toSeated.isFiled
    refine later.unnoted opened.toSeated ?_
    rw [filed.actor]
    exact booked.unnoted_openMenu keyed known

/-- The small shop when the first actor has opened the menu, a tick has passed, and the menu was refreshed by force. -/
def bookedShop [Machine] : EngineState :=
  (outcome (forceRefresh 0) (outcome tick (outcome (openMenu 0 "shop" .null false) smallShop).2).2).2

end

/-- In the booked shop the refresh is noted for the first actor. If the second opens the menu, which no tick
refreshes, nothing is noted when another tick has passed. If the second opens nothing, a refresh that is forced is
noted all the same. -/
theorem noted_bookedShop :
    (∃ session, bookedShop.session? 0 = some session ∧ session.openedTick ≤ 1 ∧ 1 ≤ bookedShop.tick) ∧
      (outcome tick (outcome (openMenu 1 "shop" .null false) bookedShop).2).2.lastRefresh.get? (.text "ben") = none ∧
      ∃ t, outcome (forceRefresh 1) bookedShop = (.ok (), t) ∧ t.sessions = bookedShop.sessions ∧
        t.lastRefresh.get? (t.actor 1).key = some t.tick := by
  have may (c : HostCall) (spares : c.SparesBooks) : HostCode HostCall.SparesBooks (c.run call) :=
    .scripted c spares fun _ _ other own => by cases other <;> first | exact trivial | exact own
  have opened : BookRun smallShop _ := .called .here (.openMenu 0 "shop" .null false) call (may _ trivial)
  have ticked : BookRun smallShop _ := opened.called .tick call (may _ trivial)
  have run : BookRun smallShop bookedShop := ticked.forced 0 (by decide +kernel)
  have idle : smallShop.sessions = [] := rfl
  obtain ⟨belongs, begins, forced⟩ := noted_of_bookRun idle rfl
  refine ⟨?_, ?_, ?_⟩
  · have noted : bookedShop.lastRefresh.get? (bookedShop.actor 0).key = some 1 := by decide +kernel
    exact belongs bookedShop run 0 1 noted
  · have there : (bookedShop.menu? "shop").isSome = true := by decide +kernel
    obtain ⟨menu, known⟩ := Option.isSome_iff_exists.mp there
    have keyed : bookedShop.Keyed 1 := by
      have isKey : (ActorKey.ofValue? (bookedShop.actor 1).id).toOption = some (bookedShop.actor 1).key := by
        decide +kernel
      rcases found : ActorKey.ofValue? (bookedShop.actor 1).id with cause | key
      · rw [found] at isKey
        cases isKey
      · rw [found] at isKey
        rw [EngineState.Keyed, found, Option.some.inj isKey]
    have passed : Unrefreshed 1 (outcome (openMenu 1 "shop" .null false) bookedShop).2 _ :=
      .ticked .here fun session opened menu title grid refreshes => ?_
    · have unnoted := begins bookedShop run 1 "shop" menu .null false keyed known _ passed
      have isBen : ((outcome tick (outcome (openMenu 1 "shop" .null false) bookedShop).2).2.actor 1).key =
          .text "ben" := by
        decide +kernel
      rw [isBen] at unnoted
      exact unnoted
    · have silent : (((outcome (openMenu 1 "shop" .null false) bookedShop).2.session? 1).bind fun session =>
          (outcome (openMenu 1 "shop" .null false) bookedShop).2.menu? session.menu).all
            (fun menu => !((outcome (openMenu 1 "shop" .null false) bookedShop).2.policyFor menu).enabled) = true := by
        decide +kernel
      rw [opened, Option.bind_some, refreshes.known, Option.all_some, refreshes.due.enabled] at silent
      cases silent
  · have answers : (outcome (forceRefresh 1) bookedShop).1.toOption.isSome = true := by decide +kernel
    rcases done : outcome (forceRefresh 1) bookedShop with ⟨cause | _, t⟩
    · rw [done] at answers
      cases answers
    · exact ⟨t, rfl, forced bookedShop 1 t done⟩

section

/-- The small shop when a refresh was forced for the first actor, who then had nothing open, a tick has passed, and the
actor has opened the menu. -/
def strayShop [Machine] : EngineState :=
  (outcome (openMenu 0 "shop" .null false) (outcome tick (outcome (forceRefresh 0) smallShop).2).2).2

end

/-- The refresh is noted without a session, and the session that was opened later has the note of one that was before
it. -/
theorem stray_note :
    (outcome (forceRefresh 0) smallShop).2.sessions.length = 0 ∧
      (outcome (forceRefresh 0) smallShop).2.lastRefresh.get? (.text "ann") = some 0 ∧
      (strayShop.session? 0).map (·.openedTick) = some 1 ∧ strayShop.lastRefresh.get? (.text "ann") = some 0 := by
  decide +kernel

end ChestMenu
