import ChestMenu.Proofs.Upkeep

/-!
# Sessions and surfaces come and go together

An actor has a session if and only if there is a surface for the actor on the screen, and the session knows the very
surface that is there.

Opening a menu passes through states in which this does not hold, and drawing may break off in the middle. Still it
holds whenever an operation of the engine has ended, with an answer or with a failure, as long as no actor has an
empty id: nobody can be kept from leaving a menu then.
-/
namespace ChestMenu

open Engine

section

/-- What is kept under a key among the sessions and on the screen belongs together. The number of a
surface tells it from all others that are or were on the screen. -/
structure Paired (s : EngineState) (key : ActorKey) : Prop where
  both : s.sessions.has key = s.screen.has key
  held : ∀ session surface, s.sessions.get? key = some session → s.screen.get? key = some surface →
    surface.actor = (s.actor session.actor).id ∧ session.surface = some surface.number
  numbered : ∀ surface, s.screen.get? key = some surface → surface.number < s.openedSurfaces
  apart : ∀ other surface another, s.screen.get? key = some surface →
    s.screen.get? other = some another → surface.number = another.number → key = other

/-- Every session is kept under the key of its own actor, and sessions and surfaces belong together. -/
structure Lockstep (s : EngineState) : Prop where
  filed : ∀ key session, (key, session) ∈ s.sessions → (s.actor session.actor).key = key
  paired : ∀ key, Paired s key

/-- No menu is open, and nothing is on the screen. -/
structure EngineState.Idle (s : EngineState) : Prop where
  sessions : s.sessions = []
  screen : s.screen = []

/-- An engine in which no menu is open is in lockstep. There is neither a session nor a surface in it. -/
theorem EngineState.Idle.lockstep {s : EngineState} (idle : s.Idle) : Lockstep s where
  filed key session member := by simp [idle.sessions] at member
  paired key := {
    both := by simp [idle.sessions, idle.screen, OrderedMap.has, OrderedMap.get?]
    held := by simp [idle.sessions, OrderedMap.get?]
    numbered := by simp [idle.screen, OrderedMap.get?]
    apart := by simp [idle.screen, OrderedMap.get?] }

section

variable {s : EngineState} {key : ActorKey}

/-- Only the actors, the sessions and what concerns the screen matter. A key is paired or not by what lies under it,
so all else may be different. -/
theorem Paired.congr {t : EngineState} (paired : Paired s key) (alike : Alike s t) :
    Paired t key := by
  obtain ⟨actors, -, -, sessions, screen, opened⟩ := alike
  cases s
  cases t
  cases actors
  cases sessions
  cases screen
  cases opened
  exact ⟨paired.both, paired.held, paired.numbered, paired.apart⟩

/-- A drawing changes nothing about which surface is for whom. A surface that is drawn on keeps its number, and none
is opened by a drawing. -/
theorem Paired.drawn (paired : ∀ key, Paired s key) (title : String) (grid : Grid)
    (slots : Option (List SlotName)) (drawnKey : ActorKey) :
    ∀ key, Paired (s.drawn drawnKey title grid slots) key := by
  have before : ∀ k surface, (s.drawn drawnKey title grid slots).screen.get? k = some surface →
      ∃ old, s.screen.get? k = some old ∧ surface.number = old.number ∧ surface.actor = old.actor := by
    intro k surface found
    rw [EngineState.drawn_screen] at found
    split at found
    · obtain ⟨old, there, rfl⟩ := Option.map_eq_some_iff.mp found
      exact ⟨old, there, by simp, by simp⟩
    · exact ⟨surface, found, rfl, rfl⟩
  intro k
  constructor
  case both => exact (paired k).both.trans (OrderedMap.has_adjust drawnKey k _ s.screen).symm
  case held =>
    intro session surface opened found
    obtain ⟨old, there, number, actor⟩ := before k surface found
    obtain ⟨same, known⟩ := (paired k).held session old opened there
    exact ⟨actor.trans same, by rw [known, number]⟩
  case numbered =>
    intro surface found
    obtain ⟨old, there, number, -⟩ := before k surface found
    rw [number]
    exact (paired k).numbered old there
  case apart =>
    intro other surface another found found' same
    obtain ⟨old, there, number, -⟩ := before k surface found
    obtain ⟨old', there', number', -⟩ := before other another found'
    exact (paired k).apart other old old' there there' (by rw [← number, ← number', same])

/-- Leaving a menu concerns one key only. The surface under that key is gone while the session may still be there, so
the key itself is left out. -/
theorem Paired.leaving (paired : ∀ key, Paired s key) (gone : ActorKey) :
    ∀ key, key ≠ gone → Paired (s.leaving gone) key := by
  have before : ∀ k surface, (s.leaving gone).screen.get? k = some surface →
      s.screen.get? k = some surface := by
    intro k surface found
    rw [EngineState.leaving_screen] at found
    split at found
    · cases found
    · exact found
  intro k other
  constructor
  case both =>
    have kept : (s.screen.erase gone).has k = s.screen.has k := by
      rw [OrderedMap.has_erase]
      simp [Ne.symm other]
    exact (paired k).both.trans kept.symm
  case held =>
    intro session surface opened found
    exact (paired k).held session surface opened (before k surface found)
  case numbered =>
    intro surface found
    exact (paired k).numbered surface (before k surface found)
  case apart =>
    intro other surface another found found'
    exact (paired k).apart other surface another (before k surface found) (before other another found')

/-- Without the session the key that was left has nothing more to it. So all keys are paired again, that one by having
neither. -/
theorem Paired.closing (paired : ∀ key, Paired s key) (gone : ActorKey) :
    ∀ key, Paired ({ s with sessions := s.sessions.erase gone }.leaving gone) key := by
  have fewer : ∀ k, k ≠ gone → (s.sessions.erase gone).get? k = s.sessions.get? k := by
    intro k other
    rw [OrderedMap.get?_erase, if_neg (Ne.symm other)]
  intro k
  by_cases same : k = gone
  · subst same
    have absent : (s.screen.erase k).get? k = none := by
      rw [OrderedMap.get?_erase, if_pos rfl]
    constructor
    case both =>
      change (s.sessions.erase k).has k = (s.screen.erase k).has k
      rw [OrderedMap.has_erase, OrderedMap.has_erase]
      simp
    case held =>
      intro session surface _ found
      exact absurd (absent.symm.trans found) (by simp)
    case numbered =>
      intro surface found
      exact absurd (absent.symm.trans found) (by simp)
    case apart =>
      intro other surface another found
      exact absurd (absent.symm.trans found) (by simp)
  · have rest := Paired.leaving paired gone k same
    refine ⟨?_, ?_, rest.numbered, rest.apart⟩
    · have sessions : (s.sessions.erase gone).has k = s.sessions.has k := by
        rw [OrderedMap.has, fewer k same, OrderedMap.has]
      exact sessions.trans rest.both
    · intro session surface opened found
      exact rest.held session surface ((fewer k same).symm.trans opened) found

/-- Who enters a menu has a session with a surface of its own, whatever was there under the key. The number is new,
and the session is the first to know it. -/
theorem Paired.entering_own {ref : Nat} (elsewhere : ∀ key, key ≠ (s.actor ref).key → Paired s key)
    (menu : Menu) (context : Value) :
    Paired (s.entering (s.actor ref).key ref menu context) (s.actor ref).key := by
  have session := s.entering_sessions ref menu context
  have surface := s.entering_screen ref menu context
  constructor
  case both => simp [OrderedMap.has, session, surface]
  case held =>
    intro opened found isSession isSurface
    rw [session, if_pos rfl] at isSession
    rw [surface, if_pos rfl] at isSurface
    cases isSession
    cases isSurface
    exact ⟨rfl, rfl⟩
  case numbered =>
    intro found isSurface
    rw [surface, if_pos rfl] at isSurface
    cases isSurface
    exact Nat.lt_succ_self _
  case apart =>
    intro other found another isSurface isAnother equal
    rw [surface, if_pos rfl] at isSurface
    cases isSurface
    rw [surface] at isAnother
    split at isAnother
    · assumption
    -- The surface of another actor has a smaller number than the new one.
    · rename_i different
      have less := (elsewhere other (Ne.symm different)).numbered another isAnother
      exact absurd equal (Nat.ne_of_gt less)

/-- For all other keys nothing changes when a menu is entered. Their surfaces have numbers that were given before. -/
theorem Paired.entering_other {ref : Nat} (rest : Paired s key) (different : (s.actor ref).key ≠ key)
    (menu : Menu) (context : Value) : Paired (s.entering (s.actor ref).key ref menu context) key := by
  have session := s.entering_sessions ref menu context
  have surface := s.entering_screen ref menu context
  constructor
  case both =>
    have both := rest.both
    simpa [OrderedMap.has, session, surface, different] using both
  case held =>
    intro opened found isSession isSurface
    rw [session, if_neg different] at isSession
    rw [surface, if_neg different] at isSurface
    exact rest.held opened found isSession isSurface
  case numbered =>
    intro found isSurface
    rw [surface, if_neg different] at isSurface
    exact Nat.lt_succ_of_lt (rest.numbered found isSurface)
  case apart =>
    intro other found another isSurface isAnother equal
    rw [surface, if_neg different] at isSurface
    rw [surface] at isAnother
    split at isAnother
    · cases isAnother
      exact absurd equal (Nat.ne_of_lt (rest.numbered found isSurface))
    · exact rest.apart other found another isSurface isAnother equal

/-- Entering a menu brings a session and a surface together. It need not be known what lies under the key of the actor
before, and just this is the case when one menu is left for another. -/
theorem Paired.entering {ref : Nat} (elsewhere : ∀ key, key ≠ (s.actor ref).key → Paired s key)
    (menu : Menu) (context : Value) (key : ActorKey) :
    Paired (s.entering (s.actor ref).key ref menu context) key := by
  by_cases own : (s.actor ref).key = key
  · subst own
    exact Paired.entering_own elsewhere menu context
  · exact (elsewhere key (Ne.symm own)).entering_other own menu context

end

/-- What holds after every operation of a host whose actors have names: the engine is in lockstep, the
actors are those of the beginning, those with a session have names, and time passes only if a tick has
a length. -/
structure Orderly (first s : EngineState) : Prop where
  actors : s.actors = first.actors
  config : s.config = first.config
  timed : s.running = true → s.config.hasTickLength = true
  named : ∀ pair ∈ s.sessions, s.Named pair.2.actor
  lockstep : Lockstep s

namespace Orderly

variable {first s t : EngineState}

/-- Changes elsewhere do no harm. An operation that keeps what is alike has nothing to show. -/
theorem congr (orderly : Orderly first s) (alike : Alike s t) : Orderly first t where
  actors := alike.actors.trans orderly.actors
  config := alike.config.trans orderly.config
  timed running := by
    rw [alike.config]
    exact orderly.timed (alike.running running)
  named pair member := by
    rw [alike.sessions] at member
    have named := orderly.named pair member
    rwa [EngineState.Named, EngineState.actor, ← alike.actors] at named
  lockstep := {
    filed := by
      intro key session member
      rw [alike.sessions] at member
      have filed := orderly.lockstep.filed key session member
      rwa [EngineState.actor, ← alike.actors] at filed
    paired := fun key => (orderly.lockstep.paired key).congr alike }

/-- An actor with a session has a name. Sessions are for actors in question only, and these have names. -/
theorem named_of_session (orderly : Orderly first s) {ref : Nat} {session : Session}
    (opened : s.session? ref = some session) : s.Named session.actor :=
  orderly.named _ (OrderedMap.mem_of_get? opened)

/-- The session of an actor is for an actor with the same key. It may be another actor, as two can have ids that are
the same key. -/
theorem key_of_session (orderly : Orderly first s) {ref : Nat} {session : Session}
    (opened : s.session? ref = some session) : (s.actor session.actor).key = (s.actor ref).key :=
  orderly.lockstep.filed _ _ (OrderedMap.mem_of_get? opened)

/-- A drawing does no harm, on whatever surface it is and also if it is lost. -/
theorem drawn (orderly : Orderly first s) (key : ActorKey) (title : String) (grid : Grid)
    (slots : Option (List SlotName)) : Orderly first (s.drawn key title grid slots) where
  actors := orderly.actors
  config := orderly.config
  timed := orderly.timed
  named := orderly.named
  lockstep := ⟨orderly.lockstep.filed, Paired.drawn orderly.lockstep.paired title grid slots key⟩

/-- Closing a session does no harm: the session and the surface go under one key. -/
theorem closing (orderly : Orderly first s) (key : ActorKey) :
    Orderly first ({ s with sessions := s.sessions.erase key }.leaving key) where
  actors := orderly.actors
  config := orderly.config
  timed := orderly.timed
  named pair member := orderly.named pair (OrderedMap.mem_erase member).1
  lockstep := {
    filed := fun key session member => orderly.lockstep.filed key session (OrderedMap.mem_erase member).1
    paired := Paired.closing orderly.lockstep.paired key }

/-- Changing a session does no harm as long as it is for the same actor and has the same surface. Its page and its
context may be others. -/
theorem adjusting (orderly : Orderly first s) (key : ActorKey) (change : Session → Session)
    (actor : ∀ session, (change session).actor = session.actor)
    (surface : ∀ session, (change session).surface = session.surface) :
    Orderly first { s with sessions := s.sessions.adjust key change } where
  actors := orderly.actors
  config := orderly.config
  timed := orderly.timed
  named pair member := by
    rcases OrderedMap.mem_adjust member with there | ⟨session, there, changed⟩
    · exact orderly.named pair there
    · rw [changed, actor]
      exact orderly.named _ there
  lockstep := {
    filed := by
      intro k session member
      rcases OrderedMap.mem_adjust member with there | ⟨before, there, changed⟩
      · exact orderly.lockstep.filed k session there
      · cases changed
        rw [actor]
        exact orderly.lockstep.filed key before there
    paired := by
      intro k
      have paired := orderly.lockstep.paired k
      refine ⟨?_, ?_, paired.numbered, paired.apart⟩
      · exact (OrderedMap.has_adjust key k change s.sessions).trans paired.both
      · intro session found opened isSurface
        rcases OrderedMap.of_get?_adjust opened with ⟨-, before, there, rfl⟩ | ⟨-, there⟩
        · rw [actor, surface]
          exact paired.held before found there isSurface
        · exact paired.held session found there isSurface }

/-- Starting the time does no harm if a tick has a length. It is asked for at the stopping, where time that has no
tick length could not be stopped. -/
theorem started (orderly : Orderly first s) (ticks : first.config.hasTickLength = true) :
    Orderly first { s with running := true } where
  actors := orderly.actors
  config := orderly.config
  timed _ := by
    rw [orderly.config]
    exact ticks
  named := orderly.named
  lockstep := {
    filed := orderly.lockstep.filed
    paired := by
      intro key
      have paired := orderly.lockstep.paired key
      exact ⟨paired.both, paired.held, paired.numbered, paired.apart⟩ }

/-- Entering a menu does no harm, even where leaving the menu before has taken the surface away. The screen, the times
and the handlers are those behind the leaving, which are other than in the state before. -/
theorem entering {ref : Nat} {screen : Screen} {lastRefresh : OrderedMap ActorKey Nat}
    {legacyHandlers : HandlerRegistry} (orderly : Orderly first s) (named : s.Named ref)
    (elsewhere : ∀ key, key ≠ (s.actor ref).key →
      Paired { s with screen, lastRefresh, legacyHandlers } key)
    (menu : Menu) (context : Value) :
    Orderly first ({ s with screen, lastRefresh, legacyHandlers }.entering
      (s.actor ref).key ref menu context) where
  actors := orderly.actors
  config := orderly.config
  timed := orderly.timed
  named pair member := by
    rcases OrderedMap.mem_put member with there | new
    · exact orderly.named pair there
    · rw [new]
      exact named
  lockstep := {
    filed := by
      intro key session member
      rcases OrderedMap.mem_put member with there | new
      · exact orderly.lockstep.filed key session there
      · cases new
        rfl
    paired := Paired.entering elsewhere menu context }

/-- Drawing keeps the order, with an answer and with a failure, since all that it changes is the ledger and one
surface. -/
theorem keeps_render [Machine] {session : Session} {menu : Menu} {slots : Option (List SlotName)} :
    Keeps (Orderly first) (render session menu slots) :=
  Engine.keeps_render (fun _ _ orderly => orderly.congr ⟨rfl, rfl, id, rfl, rfl, rfl⟩)
    fun _ title grid _ orderly => orderly.drawn _ title grid slots

/-- Opening a menu for an actor with a name keeps the order. Leaving the menu before may break the pairing for the one
key; the entering puts it right. -/
theorem keeps_openMenu [Machine] {ref : Nat} {name : String} {context : Value} {keep : Bool}
    (named : first.Named ref) : Keeps (Orderly first) (openMenu ref name context keep) := by
  have namedIn : ∀ s, Orderly first s → s.Named ref := by
    intro s orderly
    rwa [EngineState.Named, EngineState.actor, orderly.actors]
  apply Engine.keeps_openMenu
  · exact fun _ _ orderly => orderly.congr ⟨rfl, rfl, id, rfl, rfl, rfl⟩
  · intro s menu context keyed known closed orderly
    rw [outcome_enter keyed]
    exact keeps_render _ (orderly.entering (namedIn s orderly)
      (fun key _ => orderly.lockstep.paired key) menu context)
  · intro s menu session context keyed known opened orderly
    have same := orderly.key_of_session opened
    have left := outcome_tearDown (orderly.named_of_session opened).canLeave
    rw [outcome_bind_ok _ left, outcome_enter (s := s.left session.actor) keyed]
    have elsewhere : ∀ key, key ≠ (s.actor ref).key → Paired (s.left session.actor) key := by
      intro key other
      rw [← same] at other
      exact (Paired.leaving orderly.lockstep.paired _ key other).congr ⟨rfl, rfl, id, rfl, rfl, rfl⟩
    exact keeps_render _ (orderly.entering (namedIn s orderly) elsewhere menu context)

/-- The menu of an actor with a name is closed without a failure; the session is gone then. Of the ticks nothing is
changed by it. -/
theorem outcome_close {ref : Nat} (orderly : Orderly first s) (keyed : s.Keyed ref) :
    ∃ answer t, outcome (close ref) s = (.ok answer, t) ∧ Orderly first t ∧
      t.sessions = s.sessions.erase (s.actor ref).key ∧ t.tick = s.tick := by
  cases opened : s.session? ref with
  | none => exact ⟨false, s, outcome_close_none keyed opened, orderly,
      (OrderedMap.erase_eq_self opened).symm, rfl⟩
  | some session =>
    have same := orderly.key_of_session opened
    have left := outcome_tearDown (s := { s with sessions := s.sessions.erase (s.actor ref).key })
      (orderly.named_of_session opened).canLeave
    refine ⟨true, _, (outcome_close_some keyed opened).trans (outcome_bind_ok _ left), ?_, rfl, rfl⟩
    rw [← same]
    exact (orderly.closing _).congr ⟨rfl, rfl, id, rfl, rfl, rfl⟩

/-- Closing a menu keeps the order. Without a key nothing is closed, and with one it does not fail. -/
theorem keeps_close {ref : Nat} : Keeps (Orderly first) (close ref) := by
  intro s orderly
  rcases keyOf_cases ref s with ⟨cause, failed⟩ | ⟨keyed, -⟩
  · rw [close, outcome_bind_error _ failed]
    exact orderly
  · obtain ⟨answer, t, closed, order, -⟩ := outcome_close orderly keyed
    rw [closed]
    exact order

/-- The order is upheld as long as menus are opened for actors with names. With this every operation is dealt with. -/
theorem upheld [Machine] : Upheld (Orderly first) first.Named where
  alike _ _ alike orderly := orderly.congr alike
  adjusted _ key change actor surface orderly := orderly.adjusting key change actor surface
  opened _ named _ _ _ := keeps_openMenu named
  closed _ := keeps_close
  drawn _ _ _ := keeps_render

end Orderly

/-- An operation that a host asks for with actors who have names only. Time is started only if a tick
has a length. -/
def HostCall.Fits (first : EngineState) (c : HostCall) : Prop :=
  (∀ ref, c.actor? = some ref → first.Named ref) ∧
    (c = .start → first.config.hasTickLength = true)

/-- All code of a host that asks for such operations keeps the order. The induction on the code is that of
`HostCode.keeps`. -/
theorem HostCode.keeps_orderly [Machine] {first : EngineState} {α : Type} {x : Engine α}
    (code : HostCode (HostCall.Fits first) x) : Keeps (Orderly first) x := by
  refine code.keeps ?_ ?_
  · exact fun _ _ orderly => orderly.congr ⟨rfl, rfl, id, rfl, rfl, rfl⟩
  · intro c calling fits answers
    refine Orderly.upheld.run c calling fits.1 ?_ answers
    exact fun isStart s orderly => orderly.started (fits.2 isStart)

/-- Closing the sessions of a list, those of all open menus among them, closes every menu. The induction is on the
list: the first is closed without a failure, and what is left open is among the rest. -/
theorem Orderly.outcome_closeAll {first : EngineState} (sessions : Sessions) :
    ∀ s, Orderly first s → (∀ pair ∈ sessions, s.Keyed pair.2.actor) →
      (∀ key, s.sessions.has key = true → ∃ pair ∈ sessions, (s.actor pair.2.actor).key = key) →
      ∃ t, outcome (forIn sessions PUnit.unit fun pair _ => do
          let _ ← close pair.2.actor
          return ForInStep.yield PUnit.unit) s = (.ok PUnit.unit, t) ∧
        Orderly first t ∧ t.sessions = [] ∧ t.tick = s.tick := by
  -- The sessions of the list are the only ones that can still be open; closing one takes it off the list.
  induction sessions with
  | nil =>
    intro s orderly _ covered
    have empty : s.sessions = [] := by
      cases present : s.sessions with
      | nil => rfl
      | cons pair rest =>
        have has : s.sessions.has pair.1 = true :=
          OrderedMap.has_of_mem (by rw [present]; exact List.mem_cons_self)
        obtain ⟨_, member, -⟩ := covered pair.1 has
        simp at member
    exact ⟨s, rfl, orderly, empty, rfl⟩
  | cons pair rest ih =>
    intro s orderly keyed covered
    obtain ⟨answer, t, closed, order, gone, tick⟩ :=
      orderly.outcome_close (keyed pair List.mem_cons_self)
    have actor : ∀ ref, t.actor ref = s.actor ref := by
      intro ref
      rw [EngineState.actor, EngineState.actor, order.actors, orderly.actors]
    have keyed' : ∀ pair ∈ rest, t.Keyed pair.2.actor := by
      intro other member
      rw [EngineState.Keyed, actor]
      exact keyed other (List.mem_cons_of_mem _ member)
    have covered' : ∀ key, t.sessions.has key = true →
        ∃ pair ∈ rest, (t.actor pair.2.actor).key = key := by
      intro key has
      rw [gone, OrderedMap.has_erase, Bool.and_eq_true] at has
      obtain ⟨other, member, same⟩ := covered key has.2
      rcases List.mem_cons.mp member with first | later
      · rw [first] at same
        simp [same] at has
      · exact ⟨other, later, by rw [actor]; exact same⟩
    obtain ⟨u, rested, order', empty, tick'⟩ := ih t order keyed' covered'
    refine ⟨u, ?_, order', empty, tick'.trans tick⟩
    rw [List.forIn_cons]
    have once := outcome_bind_ok (fun _ => pure (ForInStep.yield PUnit.unit)) closed
    rw [outcome_bind_ok _ (once.trans (outcome_pure _ t))]
    exact rested

/-- Stopping the engine closes every menu and sets the ticks back. It does not fail. All sessions are for actors with
names, so each of them can be closed. -/
theorem Orderly.outcome_stop {first s : EngineState} (orderly : Orderly first s) :
    ∃ t, outcome stop s = (.ok (), t) ∧ t.sessions = [] ∧ t.screen = [] ∧ t.tick = 0 := by
  have halted : outcome stopTime s =
      (.ok (), { s with running := false, tick := 0, lastRefresh := [] }) := by
    unfold stopTime
    rw [outcome_bind_ok _ (outcome_get s), outcome_bind_ok _ (outcome_set _ s)]
    cases running : s.running with
    | false => rfl
    | true =>
      rw [orderly.timed running]
      rfl
  have order : Orderly first { s with running := false, tick := 0, lastRefresh := [] } :=
    orderly.congr ⟨rfl, rfl, fun running => absurd running Bool.false_ne_true, rfl, rfl, rfl⟩
  have keyed : ∀ pair ∈ s.sessions, s.Keyed pair.2.actor := fun pair member =>
    (orderly.named pair member).canLeave.keyed
  have covered : ∀ key, s.sessions.has key = true →
      ∃ pair ∈ s.sessions, (s.actor pair.2.actor).key = key := by
    intro key has
    obtain ⟨session, found⟩ := Option.isSome_iff_exists.mp has
    have member := OrderedMap.mem_of_get? found
    exact ⟨_, member, orderly.lockstep.filed key session member⟩
  obtain ⟨t, closed, after, empty, tick⟩ := outcome_closeAll s.sessions _ order keyed covered
  have clear : t.screen = [] := by
    apply OrderedMap.eq_nil_of_get?
    intro key
    have both := (after.lockstep.paired key).both
    rw [empty] at both
    simpa [OrderedMap.has, OrderedMap.get?] using both.symm
  refine ⟨t, ?_, empty, clear, tick⟩
  unfold stop
  rw [outcome_bind_ok _ halted, outcome_bind_ok _ (outcome_get _), outcome_bind_ok _ closed]
  rfl

/-- Whatever a host asks for, with actors who have names, sessions and surfaces belong together whenever an operation
has ended, with an answer or with a failure; and stopping the engine closes every menu then, clears the screen and
sets the ticks back.

Proof: the invariant `Orderly` holds at the beginning and is kept by all code of a host, since the three operations
that sessions are changed by keep it: a session is entered with its surface, and leaves with it, also where one of
them fails in the middle. -/
theorem lockstep_of_reaches [Machine] {first s : EngineState} (idle : first.Idle)
    (timed : first.running = true → first.config.hasTickLength = true)
    (run : Reaches (HostCall.Fits first) first s) :
    Lockstep s ∧
      ∃ t, outcome stop s = (.ok (), t) ∧ t.sessions = [] ∧ t.screen = [] ∧ t.tick = 0 := by
  have start : Orderly first first := {
    actors := rfl
    config := rfl
    timed
    named := by simp [idle.sessions]
    lockstep := idle.lockstep }
  have orderly : Orderly first s := run.holds (fun code => code.keeps_orderly) start
  exact ⟨orderly.lockstep, orderly.outcome_stop⟩

/-- What scripts ask for on behalf of an actor with a name fits. So scripts are among the code that the order is kept
by. -/
theorem HostCall.IsOwn.fits {first : EngineState} {ref : Nat} (named : first.Named ref) {c : HostCall}
    (own : c.IsOwn ref) : c.Fits first := by
  refine ⟨fun other found => ?_, fun isStart => ?_⟩
  · rw [own.actor?] at found
    cases found
    exact named
  · rw [isStart] at own
    exact own.elim

end

/-- In the small shop the first actor opens the menu and clicks on the door. Behind the click the two are in lockstep,
and the engine can be stopped. -/
theorem lockstep_smallShop :
    Lockstep (outcome (click 0 0 .left) (outcome (openMenu 0 "shop" .null false) smallShop).2).2 ∧
      ∃ t, outcome stop
          (outcome (click 0 0 .left) (outcome (openMenu 0 "shop" .null false) smallShop).2).2 =
        (.ok (), t) ∧ t.sessions = [] ∧ t.screen = [] ∧ t.tick = 0 := by
  have named : smallShop.Named 0 := ⟨"ann", rfl, by decide⟩
  have code (c : HostCall) (forFirst : c.actor? = some 0) :
      HostCode (HostCall.Fits smallShop) (c.run call) := by
    refine .scripted c ⟨fun ref found => ?_, fun isStart => ?_⟩ fun ref found other own => ?_
    · rw [forFirst] at found
      cases found
      exact named
    · rw [isStart] at forFirst
      cases forFirst
    · rw [forFirst] at found
      cases found
      exact own.fits named
  have opened : Reaches (HostCall.Fits smallShop) smallShop _ :=
    .after .here (.openMenu 0 "shop" .null false) call (code _ rfl)
  exact lockstep_of_reaches ⟨rfl, rfl⟩ (fun running => absurd running Bool.false_ne_true)
    (.after opened (.click 0 0 .left) call (code _ rfl))

end ChestMenu
