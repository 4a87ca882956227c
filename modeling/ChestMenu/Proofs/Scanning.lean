import ChestMenu.Proofs.Reloading
import ChestMenu.Proofs.Turns

/-!
# What a tick does

A tick is counted, and every session whose menu is there and whose policy fires on the number of the tick is drawn
again, all slots or those of the policy, and the number is noted as the time of its last refresh. A drawing that fails
leaves a notice and nothing else, so the sessions behind it have their turns all the same, and the tick itself never
fails.

Whether a drawing fails may depend on what resolvers have left behind, so it is looked at in the turn of the session.
A session that is there whenever a tick passes, under a policy with the same interval each time, is drawn on every
tick that the interval divides. There are as many of these as the quotient of the counter has grown.
-/
namespace ChestMenu

open Engine

section

/-- A policy asks for a drawing on a tick: it is enabled, and its interval is positive and divides the number. -/
structure RefreshPolicy.Due (policy : RefreshPolicy) (number : Nat) : Prop where
  enabled : policy.enabled = true
  positive : 0 < policy.interval
  divides : policy.interval ∣ number

/-- What a policy has drawn: its slots, or everything if it has none. -/
def RefreshPolicy.scope (policy : RefreshPolicy) : Option (List SlotName) :=
  match policy.slots with
  | [] => none
  | slots => some slots

/-- A policy fires on the ticks that it is due on. It has to be enabled and to have an interval that divides the
number of the tick. -/
theorem RefreshPolicy.firesOn_iff (policy : RefreshPolicy) (number : Nat) :
    policy.firesOn number = true ↔ policy.Due number := by
  simp only [firesOn, Bool.and_eq_true, decide_eq_true_eq, beq_iff_eq, ← Int.dvd_iff_emod_eq_zero]
  constructor
  · rintro ⟨⟨enabled, positive⟩, divides⟩
    exact ⟨enabled, positive, divides⟩
  · rintro ⟨enabled, positive, divides⟩
    exact ⟨⟨enabled, positive⟩, divides⟩

/-- Everything is refreshed, or the slots of the policy are. A drawing of no slots in particular is one of all of
them. -/
theorem RefreshPolicy.scope_eq (policy : RefreshPolicy) :
    (if policy.refreshesAll then none else some policy.slots) = policy.scope := by
  unfold refreshesAll scope
  cases policy.slots <;> rfl

/-- A policy that was registered under a name counts for the menus whose ids differ from what the name stands for in
case at most. For all other menus nothing has changed. -/
theorem policyFor_registerPolicy (name : String) (policy : RefreshPolicy) (s : EngineState) (menu : Menu) :
    (outcome (registerPolicy name policy) s).2.policyFor menu =
      if MenuName.key (MenuName.toId name) = MenuName.key menu.id then policy else s.policyFor menu := by
  change ((s.policies.put _ policy).get? _).getD menu.refresh = _
  rw [OrderedMap.get?_put]
  split <;> rfl

variable [Machine]

/-- What a session has on a tick: it is refreshed if it is due, and a failure is noted. -/
def Engine.tickTurn (s : EngineState) (session : Session) : Engine Unit :=
  tryCatch (refreshDue s.tick session) fun cause =>
    note (.refreshFailed (s.actor session.actor).label cause)

/-- The state in which a tick has been counted. -/
def EngineState.counted (s : EngineState) : EngineState :=
  { s with tick := s.tick + 1 }

/-- The state has changed in what is on the screen at most, in what resolvers and refreshes leave behind, and in what
the outside got to see. -/
def Redrawn (s t : EngineState) : Prop :=
  ∃ screen lastRefresh ledger journal, t = { s with screen, lastRefresh, ledger, journal }

/-- What resolvers have left behind when a session has its turn on the next tick. Those before it have had theirs. -/
def EngineState.ledgerInTurn (s : EngineState) (key : ActorKey) : Ledger :=
  openLedger (outcome (eachSession (tickTurn s.counted) (s.sessions.takeWhile (·.1 ≠ key))) s.counted).2

/-- What becomes of the drawing of a session in its turn on the next tick. -/
def EngineState.attempt (s : EngineState) (key : ActorKey) (session : Session) (menu : Menu)
    (slots : Option (List SlotName)) : Except Failure (String × Grid) :=
  ((s.drawing session menu slots).run.run (s.ledgerInTurn key)).1

/-- The next tick has a session drawn again: its menu is there, the policy for the menu asks for it, and the drawing
does not fail. -/
structure EngineState.Refreshes (s : EngineState) (key : ActorKey) (session : Session) (menu : Menu)
    (title : String) (grid : Grid) : Prop where
  known : s.menu? session.menu = some menu
  due : (s.policyFor menu).Due (s.tick + 1)
  drawn : s.attempt key session menu (s.policyFor menu).scope = .ok (title, grid)

/-- What has become of a session when a tick has passed. If it had to be drawn again, its surface was drawn on once,
all of it or the slots of the policy, and the tick is noted; otherwise neither the surface nor the time of the last
refresh has changed. -/
structure Scanned (s : EngineState) (key : ActorKey) (session : Session) (t : EngineState) : Prop where
  refreshed : ∀ menu title grid, s.Refreshes key session menu title grid →
    t.screen.get? key = (s.screen.get? key).map (·.draw title grid (s.policyFor menu).scope) ∧
      t.lastRefresh.get? key = some (s.tick + 1)
  passed : (∀ menu title grid, ¬s.Refreshes key session menu title grid) →
    t.screen.get? key = s.screen.get? key ∧ t.lastRefresh.get? key = s.lastRefresh.get? key

namespace Redrawn

variable {s t u : EngineState}

omit [Machine] in
theorem refl (s : EngineState) : Redrawn s s :=
  ⟨_, _, _, _, rfl⟩

omit [Machine] in
theorem trans (first : Redrawn s t) (second : Redrawn t u) : Redrawn s u := by
  obtain ⟨screen, lastRefresh, ledger, journal, rfl⟩ := first
  obtain ⟨screen', lastRefresh', ledger', journal', rfl⟩ := second
  exact ⟨screen', lastRefresh', ledger', journal', rfl⟩

omit [Machine] in
/-- What is looked up for a session is found as before, as drawings and notes change neither actors nor menus nor
sessions. -/
theorem actor (redrawn : Redrawn s t) (ref : Nat) : t.actor ref = s.actor ref := by
  obtain ⟨_, _, _, _, rfl⟩ := redrawn
  rfl

omit [Machine] in
/-- The session of an actor is the one from before. -/
theorem session? (redrawn : Redrawn s t) (ref : Nat) : t.session? ref = s.session? ref := by
  obtain ⟨_, _, _, _, rfl⟩ := redrawn
  rfl

omit [Machine] in
/-- A name stands for the menu from before. -/
theorem menu? (redrawn : Redrawn s t) (name : String) : t.menu? name = s.menu? name := by
  obtain ⟨_, _, _, _, rfl⟩ := redrawn
  rfl

omit [Machine] in
/-- The policy for a menu is the one from before, be it registered or the menu's own. -/
theorem policyFor (redrawn : Redrawn s t) (menu : Menu) : t.policyFor menu = s.policyFor menu := by
  obtain ⟨_, _, _, _, rfl⟩ := redrawn
  rfl

/-- A session is therefore drawn as before, but for what resolvers have left behind. -/
theorem drawing (redrawn : Redrawn s t) (session : Session) (menu : Menu) (slots : Option (List SlotName)) :
    t.drawing session menu slots = s.drawing session menu slots := by
  obtain ⟨_, _, _, _, rfl⟩ := redrawn
  rfl

/-- A turn changes nothing but surfaces, notes and the ledger. -/
theorem keeps_tickTurn {counted : EngineState} {session : Session} :
    Keeps (Redrawn s) (tickTurn counted session) := by
  refine keeps_tryCatch (keeps_refreshDue (fun slots => ?_) ?_) fun cause t redrawn => ?_
  · refine keeps_redraw fun t _ _ _ _ _ redrawn => keeps_render ?_ ?_ t redrawn
    · exact fun t ledger redrawn => redrawn.trans ⟨_, _, ledger, _, rfl⟩
    · exact fun t title grid _ redrawn => redrawn.trans ⟨_, _, _, _, rfl⟩
  · exact keeps_markRefreshed fun t _ redrawn => redrawn.trans ⟨_, _, _, _, rfl⟩
  · exact redrawn.trans ⟨_, _, _, _, rfl⟩

/-- Several turns change nothing else either, however many sessions there are. -/
theorem keeps_tickTurns {counted : EngineState} {sessions : Sessions} :
    Keeps (Redrawn s) (eachSession (tickTurn counted) sessions) :=
  keeps_eachSession fun _ _ => keeps_tickTurn

end Redrawn

namespace Engine

variable {s m : EngineState} {session : Session} {menu : Menu}

/-- A turn touches no other actor. It draws on that actor's surface and notes the tick under that actor's key. -/
theorem tickTurn_own (s : EngineState) : ForItsActor (tickTurn s) := fun _ _ _ =>
  keeps_tryCatch Beside.keeps_refreshDue fun _ _ beside => beside.elsewhere rfl rfl rfl rfl rfl

/-- If there is no menu whose policy is due, the turn passes. The number that counts is the one of the tick that is
passing. -/
theorem outcome_tickTurn_passed
    (idle : ∀ menu, m.menu? session.menu = some menu → ¬(m.policyFor menu).Due s.tick) :
    outcome (tickTurn s session) m = (.ok (), m) := by
  have nothing : outcome (refreshDue s.tick session) m = (.ok (), m) := by
    unfold refreshDue
    rw [outcome_bind_ok _ (outcome_get m)]
    cases known : m.menu? session.menu with
    | none => rfl
    | some menu =>
      have silent : ¬(m.policyFor menu).firesOn s.tick = true := by
        rw [RefreshPolicy.firesOn_iff]
        exact idle menu known
      dsimp only
      rw [if_neg silent]
      rfl
  unfold tickTurn
  rw [outcome_tryCatch, nothing]

section

variable (keyed : m.Keyed session.actor) (opened : m.session? session.actor = some session)
  (known : m.menu? session.menu = some menu) (due : (m.policyFor menu).Due s.tick)

include keyed opened known due

/-- If there is one, the menu is drawn again and the tick is noted. The scope is that of the policy, so some slots may
be drawn or all. -/
theorem outcome_refreshDue :
    outcome (refreshDue s.tick session) m =
      outcome (render session menu (m.policyFor menu).scope >>= fun _ => markRefreshed session.actor s.tick) m := by
  have fires : (m.policyFor menu).firesOn s.tick = true := (RefreshPolicy.firesOn_iff _ _).mpr due
  unfold refreshDue
  rw [outcome_bind_ok _ (outcome_get m), known]
  dsimp only
  rw [if_pos fires, RefreshPolicy.scope_eq, outcome_bind, outcome_redraw keyed opened known, ← outcome_bind,
    bind_assoc]
  simp only [pure_bind]

/-- A drawing that cannot be made leaves the surface as it is. It is noted among the notices, and the tick is not
noted as a refresh. -/
theorem outcome_tickTurn_failed {cause : Failure} {ledger : Ledger}
    (failed : (m.drawing session menu (m.policyFor menu).scope).run.run (openLedger m) = (.error cause, ledger)) :
    ∃ after, outcome (tickTurn s session) m = (.ok (), { m with ledger := after }) := by
  unfold tickTurn
  rw [outcome_tryCatch, outcome_refreshDue keyed opened known due,
    outcome_bind_error _ (outcome_render_error failed)]
  exact ⟨_, rfl⟩

/-- A drawing that can be made is put on the surface. Then the tick is noted under the key of the actor. -/
theorem outcome_tickTurn_drawn {title : String} {grid : Grid} {ledger : Ledger}
    (answered : (m.drawing session menu (m.policyFor menu).scope).run.run (openLedger m) =
      (.ok (title, grid), ledger)) :
    outcome (tickTurn s session) m = (.ok (),
      { { m with ledger }.drawn (m.actor session.actor).key title grid (m.policyFor menu).scope with
        lastRefresh := m.lastRefresh.put (m.actor session.actor).key s.tick }) := by
  have marked : outcome (markRefreshed session.actor s.tick)
      ({ m with ledger }.drawn (m.actor session.actor).key title grid (m.policyFor menu).scope) = (.ok (), _) :=
    outcome_bind_ok _ (outcome_keyOf keyed)
  unfold tickTurn
  rw [outcome_tryCatch, outcome_refreshDue keyed opened known due,
    outcome_bind_ok _ (outcome_render_ok keyed answered), marked]
  rfl

end

/-- No turn fails. A drawing that cannot be made is caught where it is asked for. -/
theorem tickTurn_answers (s m : EngineState) (session : Session) :
    ∃ t, outcome (tickTurn s session) m = (.ok (), t) := by
  unfold tickTurn
  rw [outcome_tryCatch]
  rcases outcome (refreshDue s.tick session) m with ⟨cause | _, t⟩
  · exact ⟨_, rfl⟩
  · exact ⟨t, rfl⟩

/-- No turn of several fails either, so every session has its turn. The induction is on the sessions. -/
theorem tickTurns_answer (s m : EngineState) (sessions : Sessions) :
    ∃ t, outcome (eachSession (tickTurn s) sessions) m = (.ok (), t) := by
  rcases eachSession_cases (tickTurn s) sessions m with answered | ⟨_, stuck, _, u, cause, t, _, _, failed⟩
  · exact answered
  · obtain ⟨t', answered⟩ := tickTurn_answers s u stuck.2
    rw [answered] at failed
    cases failed

/-- A tick is counted, and then every session has its turn. The list of sessions is made before the first turn. -/
theorem outcome_tick (s : EngineState) :
    outcome tick s =
      outcome (eachSession (tickTurn s.counted) s.sessions >>= fun _ => pure (s.tick + 1)) s.counted := by
  unfold tick eachSession
  simp only [bind_assoc, pure_bind]
  rw [outcome_bind_ok _ (outcome_modify _ s), outcome_bind_ok _ (outcome_get _)]
  rfl

end Engine

omit [Machine] in
/-- A session that is found in its place is behind those with other keys. So a turn can be found in the list by its
key. -/
theorem OrderedMap.eq_takeWhile_append {α β : Type} [DecidableEq α] {m : OrderedMap α β} {pair : α × β}
    (once : m.keys.Nodup) (member : pair ∈ m) :
    ∃ after, m = m.takeWhile (·.1 ≠ pair.1) ++ pair :: after := by
  obtain ⟨before, after, rfl⟩ := List.append_of_mem member
  refine ⟨after, ?_⟩
  have others : ∀ other ∈ before, decide (other.1 ≠ pair.1) = true := fun other early =>
    decide_eq_true (OrderedMap.ne_of_mem_around once (List.mem_append_left after early))
  rw [List.takeWhile_append_of_pos others, List.takeWhile_cons_of_neg (by simp), List.append_nil]

section

variable {s m t u : EngineState} {pair : ActorKey × Session}

/-- The state in which a session has its turn on a tick. Nothing that the session depends on has changed since the tick
was counted, and the resolvers have left behind what they have by then. -/
structure InTurn (s : EngineState) (pair : ActorKey × Session) (m : EngineState) : Prop where
  redrawn : Redrawn s.counted m
  ledger : s.ledgerInTurn pair.1 = openLedger m
  surface : m.screen.get? pair.1 = s.screen.get? pair.1
  lastRefresh : m.lastRefresh.get? pair.1 = s.lastRefresh.get? pair.1

/-- What has become of a session is told by its surface and the time of its last refresh. Nothing else matters. -/
theorem Scanned.congr {key : ActorKey} {session : Session} (scanned : Scanned s key session t)
    (surface : u.screen.get? key = t.screen.get? key) (lastRefresh : u.lastRefresh.get? key = t.lastRefresh.get? key) :
    Scanned s key session u := by
  constructor
  · rw [surface, lastRefresh]
    exact scanned.refreshed
  · rw [surface, lastRefresh]
    exact scanned.passed

/-- In its turn a session is drawn again exactly if it has to be. The state in which it has its turn is the one behind
the turns before, which have left what is its own alone. -/
theorem InTurn.scanned (inTurn : InTurn s pair m) (seated : s.Seated) (member : pair ∈ s.sessions)
    (turn : outcome (tickTurn s.counted pair.2) m = (.ok (), u)) : Scanned s pair.1 pair.2 u := by
  obtain ⟨redrawn, inLedger, surface, refresh⟩ := inTurn
  have actor : m.actor pair.2.actor = s.actor pair.2.actor := redrawn.actor _
  have policy (menu : Menu) : m.policyFor menu = s.policyFor menu := redrawn.policyFor menu
  have drawing (menu : Menu) (slots : Option (List SlotName)) :
      m.drawing pair.2 menu slots = s.drawing pair.2 menu slots := redrawn.drawing _ _ _
  have isKey : (m.actor pair.2.actor).key = pair.1 := by rw [actor, seated.filed pair member]
  have keyed : m.Keyed pair.2.actor := by
    rw [EngineState.Keyed, actor]
    exact seated.keyed pair member
  have opened : m.session? pair.2.actor = some pair.2 :=
    (redrawn.session? _).trans (seated.session?_of_mem member)
  by_cases due : ∃ menu, m.menu? pair.2.menu = some menu ∧ (m.policyFor menu).Due s.counted.tick
  case neg =>
    have passed := outcome_tickTurn_passed fun menu known isDue => due ⟨menu, known, isDue⟩
    cases turn.symm.trans passed
    refine ⟨fun menu _ _ refreshes => absurd ⟨menu, ?_, ?_⟩ due, fun _ => ⟨surface, refresh⟩⟩
    · exact (redrawn.menu? _).trans refreshes.known
    · rw [policy]
      exact refreshes.due
  case pos =>
    obtain ⟨menu, known, isDue⟩ := due
    have isMenu : s.menu? pair.2.menu = some menu := (redrawn.menu? _).symm.trans known
    have attempt (slots : Option (List SlotName)) : s.attempt pair.1 pair.2 menu slots =
        ((m.drawing pair.2 menu slots).run.run (openLedger m)).1 := by
      rw [EngineState.attempt, inLedger, drawing]
    rcases answer : (m.drawing pair.2 menu (m.policyFor menu).scope).run.run (openLedger m) with
      ⟨cause | ⟨title, grid⟩, after⟩
    · obtain ⟨last, failed⟩ := outcome_tickTurn_failed keyed opened known isDue answer
      cases turn.symm.trans failed
      refine ⟨fun menu' title grid refreshes => ?_, fun _ => ⟨surface, refresh⟩⟩
      cases isMenu.symm.trans refreshes.known
      have drawn := refreshes.drawn
      rw [attempt, ← policy, answer] at drawn
      cases drawn
    · have drawn := outcome_tickTurn_drawn keyed opened known isDue answer
      cases turn.symm.trans drawn
      have answered : s.attempt pair.1 pair.2 menu (s.policyFor menu).scope = .ok (title, grid) := by
        rw [attempt, ← policy, answer]
      refine ⟨fun menu' title' grid' refreshes => ?_, fun none => absurd ⟨isMenu, ?_, answered⟩ (none _ _ _)⟩
      · cases isMenu.symm.trans refreshes.known
        cases answered.symm.trans refreshes.drawn
        rw [← policy, isKey]
        constructor
        · rw [← surface]
          exact (EngineState.drawn_screen _ _ _ _ _ _).trans (if_pos rfl)
        · exact (OrderedMap.get?_put _ _ _ _).trans (if_pos rfl)
      · rw [← policy]
        exact isDue

/-- When a tick has passed, every session was drawn again that had to be, and no other was. The turns behind it have
changed nothing of its own. -/
theorem scanned_of_turns (seated : s.Seated) (member : pair ∈ s.sessions)
    (done : outcome (eachSession (tickTurn s.counted) s.sessions) s.counted = (.ok (), t)) :
    Scanned s pair.1 pair.2 t := by
  have counted : s.counted.Seated := seated.congr rfl rfl
  have isKey : (s.actor pair.2.actor).key = pair.1 := seated.filed pair member
  obtain ⟨after, split⟩ := OrderedMap.eq_takeWhile_append seated.once member
  have once := seated.once
  have filed : ∀ other ∈ s.sessions, (s.counted.actor other.2.actor).key = other.1 := counted.filed
  rw [split] at done once filed
  have kept (session : Session) : Keeps (Filed s.counted) (tickTurn s.counted session) := by
    refine keeps_tryCatch ?_ fun _ _ filed => filed.of_subset rfl fun _ member => member
    exact keeps_refreshDue (Filed.upheld.redrawn _) (Filed.upheld.marked _ _)
  obtain ⟨m, u, first, turn⟩ := turn_of_ok done
  obtain ⟨early, late⟩ :=
    untouched_around_turn (tickTurn_own s.counted) kept filed counted.isFiled once first turn done
  have redrawn : Redrawn s.counted m := Redrawn.keeps_tickTurns.after (.refl _) first
  have inTurn : InTurn s pair m := by
    refine ⟨redrawn, by rw [EngineState.ledgerInTurn, first], ?_, ?_⟩
    · rw [← isKey]
      exact early.surface
    · rw [← isKey]
      exact early.lastRefresh
  have isKeyStill : (u.actor pair.2.actor).key = pair.1 := by
    rw [(Redrawn.keeps_tickTurn.after redrawn turn).actor]
    exact isKey
  refine (inTurn.scanned seated member turn).congr ?_ ?_
  · rw [← isKeyStill]
    exact late.surface
  · rw [← isKeyStill]
    exact late.lastRefresh

/-- A tick never fails. It is counted, changes no session, has every session scanned, and touches no actor without
one. This holds in every state where sessions are in their places. -/
theorem tick_scans (seated : s.Seated) :
    ∃ t, outcome tick s = (.ok (s.tick + 1), t) ∧ t.tick = s.tick + 1 ∧ t.sessions = s.sessions ∧
      (∀ pair ∈ s.sessions, Scanned s pair.1 pair.2 t) ∧
      ∀ ref, s.session? ref = none → Untouched ref s t := by
  obtain ⟨t, done⟩ := tickTurns_answer s.counted s.counted s.sessions
  have redrawn : Redrawn s.counted t := Redrawn.keeps_tickTurns.after (.refl _) done
  refine ⟨t, ?_, ?_, ?_, fun pair member => scanned_of_turns seated member done, fun ref absent => ?_⟩
  · rw [outcome_tick, outcome_bind_ok _ done]
    rfl
  · obtain ⟨_, _, _, _, rfl⟩ := redrawn
    rfl
  · obtain ⟨_, _, _, _, rfl⟩ := redrawn
    rfl
  · have apart : ∀ pair ∈ s.sessions, (s.counted.actor pair.2.actor).key ≠ (s.counted.actor ref).key := by
      intro pair member same
      have opened := seated.session?_of_mem member
      rw [EngineState.session?] at opened absent
      rw [show (s.actor pair.2.actor).key = (s.actor ref).key from same, absent] at opened
      cases opened
    have untouched := untouched_eachSession (tickTurn_own s.counted) (seated.congr rfl rfl : s.counted.Seated).isFiled
      apart
    rw [done] at untouched
    have counting : Untouched ref s s.counted := .of_same rfl rfl rfl rfl rfl
    exact counting.trans untouched

end

/-- Ticks have passed, so many since a state, and a session under a key was drawn on so many times by them. It was there
whenever a tick passed, with a surface, under an enabled policy with the same interval, and it could be drawn if it was
due. Between the ticks anything may have happened that leaves their counter alone. -/
inductive Ticking (key : ActorKey) (interval : Int) (s : EngineState) : Nat → Nat → EngineState → Prop where
  | start : Ticking key interval s 0 0 s
  | meanwhile {n drawn : Nat} {u v : EngineState} (before : Ticking key interval s n drawn u)
      (counter : v.tick = u.tick) : Ticking key interval s n drawn v
  | tick {n drawn more : Nat} {u : EngineState} {session : Session} {menu : Menu} {surface after : Surface}
      (before : Ticking key interval s n drawn u) (seated : u.Seated)
      (opened : u.sessions.get? key = some session) (known : u.menu? session.menu = some menu)
      (enabled : (u.policyFor menu).enabled = true) (same : (u.policyFor menu).interval = interval)
      (drawable : (u.policyFor menu).Due (u.tick + 1) →
        ∃ drawing, u.attempt key session menu (u.policyFor menu).scope = .ok drawing)
      (shown : u.screen.get? key = some surface) (shownAfter : (outcome tick u).2.screen.get? key = some after)
      (renders : after.renders = surface.renders + more) :
      Ticking key interval s (n + 1) (drawn + more) (outcome tick u).2

omit [Machine] in
/-- A drawing is counted on the surface. It is counted once, however many slots are drawn. -/
theorem Surface.renders_draw (surface : Surface) (title : String) (items : Grid) (slots : Option (List SlotName)) :
    (surface.draw title items slots).renders = surface.renders + 1 := rfl

omit [Machine] in
/-- The quotient of the next number is greater by one if the number is divided. Otherwise it is the same. This is what
makes the count of ticks that are due a quotient. -/
theorem ediv_succ {interval : Int} (positive : 0 < interval) (n : Nat) :
    ((n + 1 : Nat) : Int) / interval = n / interval + if interval ∣ (n + 1 : Nat) then 1 else 0 := by
  obtain ⟨k, rfl⟩ := Int.eq_ofNat_of_zero_le (Int.le_of_lt positive)
  have counted : (n + 1) / k = n / k + if k ∣ n + 1 then 1 else 0 := Nat.succ_div
  rw [← Int.natCast_ediv, counted, Int.natCast_add, Int.natCast_ediv]
  simp only [Int.natCast_dvd_natCast]
  split <;> rfl

/-- There were as many drawings as the quotient of the counter by the interval has grown. The induction is on the
ticks, and in each step `ediv_succ` says whether the quotient grows. -/
theorem Ticking.count {key : ActorKey} {interval : Int} {s u : EngineState} {n drawn : Nat} (positive : 0 < interval)
    (ticking : Ticking key interval s n drawn u) :
    u.tick = s.tick + n ∧ (drawn : Int) = (s.tick + n : Nat) / interval - s.tick / interval := by
  induction ticking with
  | start =>
    simp
  | meanwhile _ counter ih =>
    rw [counter]
    exact ih
  | @tick n drawn more u session menu surface after _ seated opened known enabled same drawable shown shownAfter
      renders ih =>
    obtain ⟨counter, counted⟩ := ih
    obtain ⟨t, done, number, -, scanned, -⟩ := tick_scans seated
    rw [done] at shownAfter ⊢
    have turn := scanned _ (OrderedMap.mem_of_get? opened)
    have step : (more : Int) = if interval ∣ (u.tick + 1 : Nat) then 1 else 0 := by
      split
      · rename_i divides
        have due : (u.policyFor menu).Due (u.tick + 1) := ⟨enabled, same ▸ positive, same ▸ divides⟩
        obtain ⟨⟨title, grid⟩, drawn⟩ := drawable due
        have drawnOn := (turn.refreshed menu title grid ⟨known, due, drawn⟩).1
        rw [shown, Option.map_some, shownAfter] at drawnOn
        cases drawnOn
        rw [Surface.renders_draw] at renders
        omega
      · rename_i other
        have passed : ∀ menu title grid, ¬u.Refreshes key session menu title grid := by
          intro menu' title grid refreshes
          cases known.symm.trans refreshes.known
          exact other (same ▸ refreshes.due.divides)
        have unchanged := (turn.passed passed).1
        rw [shownAfter, shown] at unchanged
        cases unchanged
        omega
    refine ⟨by rw [number, counter, Nat.add_assoc], ?_⟩
    rw [Int.natCast_add, counted, step, ← Nat.add_assoc, ediv_succ positive, counter]
    omega

/-- In every state that an engine is brought to, the sessions are in their places, and in every such state a tick is
counted, never fails, changes no session, draws again exactly the sessions whose menu is there, whose policy is due on
the number of the tick and whose drawing does not fail, notes the tick for them and leaves the others alone. So a
session that stays open under a policy with the same interval and can always be drawn is drawn as many times as the
quotient of the counter by the interval has grown. The policy of a menu is the one registered for its id, whatever the
case, and else its own.

Proof: a tick goes through a list of the sessions, and `scanned_of_turns` carries through the turns what each did for
its session. A run of ticks is then counted by induction: a tick draws exactly if the interval divides its number,
which is when the quotient grows by one (`ediv_succ`). -/
theorem sessions_scanned :
    (∀ (permitted : HostCall → Prop) (first s : EngineState), first.sessions = [] → Reaches permitted first s →
      s.Seated) ∧
    (∀ s : EngineState, s.Seated → ∃ t, outcome tick s = (.ok (s.tick + 1), t) ∧ t.tick = s.tick + 1 ∧
      t.sessions = s.sessions ∧ (∀ pair ∈ s.sessions, Scanned s pair.1 pair.2 t) ∧
      ∀ ref, s.session? ref = none → Untouched ref s t) ∧
    (∀ (key : ActorKey) (interval : Int) (s u : EngineState) (n drawn : Nat), 0 < interval →
      Ticking key interval s n drawn u → (drawn : Int) = (s.tick + n : Nat) / interval - s.tick / interval) ∧
    ∀ (s : EngineState) (menu : Menu),
      (s.policies.get? (MenuName.key menu.id) = none → s.policyFor menu = menu.refresh) ∧
      ∀ name policy, (outcome (registerPolicy name policy) s).2.policyFor menu =
        if MenuName.key (MenuName.toId name) = MenuName.key menu.id then policy else s.policyFor menu := by
  refine ⟨fun _ _ _ idle run => .of_reaches idle run, fun s seated => tick_scans seated,
    fun _ _ _ _ _ _ positive ticking => (ticking.count positive).2, fun s menu => ⟨fun absent => ?_, ?_⟩⟩
  · rw [EngineState.policyFor, absent]
    rfl
  · exact fun name policy => policyFor_registerPolicy name policy s menu

/-- The small shop open for both actors, where the first has a context that cannot be described, and a policy that draws
one slot again on every other tick. It is registered under the name of a file, in capitals. -/
def tickingShop : EngineState :=
  (outcome (registerPolicy "SHOP.yml" (.forSlots 2 [1])) (outcome (openMenu 1 "shop" .null false) muteShop).2).2

/-- The shop when the first tick has passed, on which nothing is due. -/
def tickedShop : EngineState :=
  (outcome tick tickingShop).2

/-- What a tick will make of what it finds under a key: whether the policy is enabled for every other tick, whether it
is due and whether the menu can be drawn, and how often it was drawn before. -/
def EngineState.outlook (s : EngineState) (key : ActorKey) : Option (Bool × Bool × Bool × Nat) := do
  let session ← s.sessions.get? key
  let menu ← s.menu? session.menu
  let surface ← s.screen.get? key
  let policy := s.policyFor menu
  return (policy.enabled && policy.interval == 2, policy.firesOn (s.tick + 1),
    (s.attempt key session menu policy.scope).toOption.isSome, surface.renders)

/-- What the outlook tells of a key is read off its session, its menu and its surface, which are all there if it tells
anything. -/
theorem EngineState.outlook_eq_some {s : EngineState} {key : ActorKey} {even fires drawable : Bool} {renders : Nat}
    (found : s.outlook key = some (even, fires, drawable, renders)) :
    ∃ session menu surface, s.sessions.get? key = some session ∧ s.menu? session.menu = some menu ∧
      s.screen.get? key = some surface ∧
      (even = true → (s.policyFor menu).enabled = true ∧ (s.policyFor menu).interval = 2) ∧
      (s.policyFor menu).firesOn (s.tick + 1 : Nat) = fires ∧
      (s.attempt key session menu (s.policyFor menu).scope).toOption.isSome = drawable ∧
      surface.renders = renders := by
  obtain ⟨session, opened, found⟩ := Option.bind_eq_some_iff.mp found
  obtain ⟨menu, known, found⟩ := Option.bind_eq_some_iff.mp found
  obtain ⟨surface, shown, found⟩ := Option.bind_eq_some_iff.mp found
  cases found
  exact ⟨session, menu, surface, opened, known, shown, by simp, rfl, rfl, rfl⟩

end

/-- On the second tick of the shop the first menu is due and cannot be drawn there, and the second is drawn all the
same: once, as is to be expected of two ticks. -/
theorem sessions_scanned_tickedShop :
    ∃ u, outcome tick tickedShop = (.ok 2, u) ∧
      (u.screen.get? (.text "ann")).map (·.renders) = some 1 ∧ u.lastRefresh.get? (.text "ann") = none ∧
      (u.screen.get? (.text "ben")).map (·.renders) = some 2 ∧ u.lastRefresh.get? (.text "ben") = some 2 ∧
      ((1 : Nat) : Int) = (tickingShop.tick + 2 : Nat) / 2 - tickingShop.tick / 2 := by
  have may (c : HostCall) : HostCode (fun _ => True) (c.run call) := .scripted c trivial fun _ _ _ _ => trivial
  have muted : Reaches (fun _ => True) _ muteShop :=
    (Reaches.here.after (.openMenu 0 "shop" .null false) call (may _)).after (.updateContext 0 mute) call (may _)
  have ticking : Reaches (fun _ => True) _ tickingShop :=
    (muted.after (.openMenu 1 "shop" .null false) call (may _)).after
      (.registerPolicy "SHOP.yml" (.forSlots 2 [1])) call (may _)
  have ticked : Reaches (fun _ => True) _ tickedShop := ticking.after .tick call (may _)
  obtain ⟨seats, scans, counts, -⟩ := sessions_scanned
  obtain ⟨u, done, -, -, scanned, -⟩ := scans tickedShop (seats _ _ _ rfl ticked)
  have second : tickedShop.tick = 1 := by decide +kernel
  have ann : tickedShop.outlook (.text "ann") = some (true, true, false, 1) := by decide +kernel
  have ben : tickedShop.outlook (.text "ben") = some (true, true, true, 1) := by decide +kernel
  have early : tickingShop.outlook (.text "ben") = some (true, false, true, 1) := by decide +kernel
  have unmarked : tickedShop.lastRefresh.get? (.text "ann") = none := by decide +kernel
  obtain ⟨annsSession, annsMenu, annsSurface, annsOpened, annsKnown, annsShown, -, -, broken, annsRenders⟩ :=
    EngineState.outlook_eq_some ann
  obtain ⟨bensSession, bensMenu, bensSurface, bensOpened, bensKnown, bensShown, policy, fires, drawable,
    bensRenders⟩ := EngineState.outlook_eq_some ben
  obtain ⟨session, menu, surface, opened, known, shown, policyBefore, rests, -, renders⟩ :=
    EngineState.outlook_eq_some early
  have annsTurn := scanned _ (OrderedMap.mem_of_get? annsOpened)
  have bensTurn := scanned _ (OrderedMap.mem_of_get? bensOpened)
  have passed : ∀ menu title grid, ¬tickedShop.Refreshes (.text "ann") annsSession menu title grid := by
    intro menu title grid refreshes
    cases annsKnown.symm.trans refreshes.known
    rw [refreshes.drawn] at broken
    cases broken
  obtain ⟨annsSame, annsUnmarked⟩ := annsTurn.passed passed
  have due := (RefreshPolicy.firesOn_iff _ _).mp fires
  obtain ⟨⟨title, grid⟩, drawn⟩ : ∃ drawing, tickedShop.attempt (.text "ben") bensSession bensMenu
      (tickedShop.policyFor bensMenu).scope = .ok drawing := by
    cases answer : tickedShop.attempt (.text "ben") bensSession bensMenu (tickedShop.policyFor bensMenu).scope with
    | error cause =>
      rw [answer] at drawable
      cases drawable
    | ok drawing => exact ⟨drawing, rfl⟩
  obtain ⟨bensDrawn, bensMarked⟩ := bensTurn.refreshed _ _ _ ⟨bensKnown, due, drawn⟩
  rw [bensShown, Option.map_some] at bensDrawn
  refine ⟨u, by rw [done, second], ?_, ?_, ?_, ?_, ?_⟩
  · rw [annsSame, annsShown, Option.map_some, annsRenders]
  · rw [annsUnmarked, unmarked]
  · rw [bensDrawn, Option.map_some, Surface.renders_draw, bensRenders]
  · rw [bensMarked, second]
  · have idle : ¬(tickingShop.policyFor menu).Due (tickingShop.tick + 1) := by
      rw [← RefreshPolicy.firesOn_iff]
      exact Bool.eq_false_iff.mp rests
    have isTicked : tickedShop = (outcome tick tickingShop).2 := rfl
    have shownThen := bensShown
    rw [isTicked] at shownThen
    have sameRenders : bensSurface.renders = surface.renders + 0 := by rw [bensRenders, renders]
    have once := (Ticking.start : Ticking (.text "ben") 2 tickingShop 0 0 tickingShop).tick (seats _ _ _ rfl ticking)
      opened known (policyBefore rfl).1 (policyBefore rfl).2 (fun due => absurd due idle) shown shownThen sameRenders
    have isLast : u = (outcome tick tickedShop).2 := by rw [done]
    rw [isLast] at bensDrawn
    rw [← isTicked] at once
    have twice := once.tick (seats _ _ _ rfl ticked) bensOpened bensKnown (policy rfl).1 (policy rfl).2
      (fun _ => ⟨_, drawn⟩) bensShown bensDrawn (Surface.renders_draw _ _ _ _)
    exact counts _ _ _ _ _ _ (by decide) twice

end ChestMenu
