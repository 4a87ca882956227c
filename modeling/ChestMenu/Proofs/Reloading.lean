import ChestMenu.Proofs.Loaded
import ChestMenu.Proofs.Paging

/-!
# Menus that are read again

Menus that are read again replace all menus at once, and the sessions are brought in line with them one after another:
a session whose menu is gone is closed, one whose page is gone goes to the first, and each that is left is drawn
again. Until then a session may be on a page that is gone, and if bringing one in line fails, those behind it stay as
they are.

It fails only if a menu cannot be drawn, or if an actor cannot leave a menu that is gone. Where neither happens, and
wherever the reading comes to its end at all, every session is on a page of its menu again.
-/
namespace ChestMenu

open Engine

section

/-- The state in which notices were left by reading documents. -/
def EngineState.noting (s : EngineState) (notices : List Notice) : EngineState :=
  { s with ledger := { s.ledger with notices := s.ledger.notices ++ notices } }

variable [Machine]

namespace Engine

/-- Brings sessions in line with the menus, one after another. -/
def reviveAll (sessions : Sessions) : Engine Unit := do
  for (_, session) in sessions do
    reviveSession session

/-- Replaces all menus, whatever they are, and brings the sessions in line with them. -/
def replaceMenus (menus : OrderedMap String Menu) : Engine Unit := do
  modify fun s => { s with menus }
  reviveAll (← get).sessions

variable {s t : EngineState} {menus : OrderedMap String Menu}

/-- Sessions are brought in line from the first to the last. The others have their turns only if the first is brought
in line. -/
theorem reviveAll_cons (pair : ActorKey × Session) (sessions : Sessions) :
    reviveAll (pair :: sessions) = (reviveSession pair.2 >>= fun _ => reviveAll sessions) := by
  unfold reviveAll
  simp only [List.forIn_cons, bind_assoc, pure_bind]

/-- What holds while sessions remain to be brought in line, and still holds of those behind the first when that one is
brought in line, holds in the end with none remaining. The property speaks of the sessions that remain, and loses one
of them with each turn. -/
theorem of_reviveAll {P : Sessions → EngineState → Prop} {remaining : Sessions}
    (step : ∀ pair rest s t, P (pair :: rest) s → outcome (reviveSession pair.2) s = (.ok (), t) → P rest t)
    (start : P remaining s) (revived : outcome (reviveAll remaining) s = (.ok (), t)) : P [] t := by
  induction remaining generalizing s with
  | nil =>
    cases revived
    exact start
  | cons pair rest ih =>
    rw [reviveAll_cons] at revived
    obtain ⟨_, u, one, others⟩ := ok_of_outcome_bind revived
    exact ih (step pair rest s u start one) others

/-- Bringing sessions in line keeps what bringing each of them in line keeps. The induction is on the sessions, with
answers and with failures. -/
theorem keeps_reviveAll {P : EngineState → Prop} {sessions : Sessions}
    (each : ∀ session, Keeps P (reviveSession session)) : Keeps P (reviveAll sessions) := by
  unfold reviveAll
  refine keeps_bind (keeps_forIn _ fun pair _ _ => ?_) fun _ => keeps_pure _
  exact keeps_bind (each pair.2) fun _ => keeps_pure _

/-- Replacing the menus is bringing all sessions in line with them. The list of sessions is that of before, so it is
not changed by the turns. -/
theorem outcome_replaceMenus (menus : OrderedMap String Menu) (s : EngineState) :
    outcome (replaceMenus menus) s = outcome (reviveAll s.sessions) { s with menus } := rfl

/-- What is done with menus that were read is to replace the menus by them. This names the part of the operation that
everything about it is shown for. -/
theorem replaceMenus_eq (menus : OrderedMap String Menu) :
    (do
      modify fun s => { s with menus }
      for (_, session) in (← get).sessions do
        reviveSession session
      return menus : Engine (OrderedMap String Menu)) = (replaceMenus menus >>= fun _ => pure menus) := by
  unfold replaceMenus reviveAll
  simp only [bind_assoc, pure_bind]

omit [Machine] in
/-- Reading documents leaves their notices, whatever becomes of it. Of the engine only the ledger is written to. -/
theorem outcome_loading {α : Type} {step : Loading α} {result : Except Failure α} {notices : List Notice}
    (read : step.run.run [] = (result, notices)) : outcome (loading step) s = (result, s.noting notices) := by
  unfold loading
  rw [read]
  rfl

/-- If the directory cannot be read again, that is all. The menus of before are still there, and the notices of the
reading are left. -/
theorem outcome_reloadMenus_error {listing : Option FileListing} {directory : String} {notices : List Notice}
    {cause : Failure} (known : s.directory = some directory)
    (read : (Menu.ofDirectory directory listing s.config.defaultSize).run.run [] = (.error cause, notices)) :
    outcome (reloadMenus listing) s = (.error cause, s.noting notices) := by
  unfold reloadMenus
  rw [outcome_bind_ok _ (outcome_get s), known]
  dsimp only
  rw [outcome_bind_ok _ (outcome_get s), outcome_bind_error _ (outcome_loading read)]

/-- If it can be read, the menus that were read replace all others, and the sessions are brought in line with them. -/
theorem outcome_reloadMenus_ok {listing : Option FileListing} {directory : String} {notices : List Notice}
    {loaded : OrderedMap String Menu} (known : s.directory = some directory)
    (read : (Menu.ofDirectory directory listing s.config.defaultSize).run.run [] = (.ok loaded, notices)) :
    outcome (reloadMenus listing) s =
      outcome (replaceMenus loaded >>= fun _ => pure loaded) (s.noting notices) := by
  unfold reloadMenus
  rw [outcome_bind_ok _ (outcome_get s), known]
  dsimp only
  rw [outcome_bind_ok _ (outcome_get s), outcome_bind_ok _ (outcome_loading read), replaceMenus_eq]

/-- Reading the menus again leaves notices and changes nothing else, or it replaces the menus by those that were read.
In the second case bringing the sessions in line may still break off. -/
theorem reloadMenus_cases (listing : Option FileListing) (s : EngineState) :
    (∃ ledger, (outcome (reloadMenus listing) s).2 = { s with ledger }) ∨
      ∃ loaded ledger, (∀ pair ∈ loaded, pair.2.LoadedAs pair.1) ∧ outcome (reloadMenus listing) s =
        outcome (replaceMenus loaded >>= fun _ => pure loaded) { s with ledger } := by
  rcases Option.eq_none_or_eq_some s.directory with known | ⟨directory, known⟩
  · have read : outcome (reloadMenus listing) s = outcome (note .reloadBeforeLoad >>= fun _ => pure []) s := by
      unfold reloadMenus
      rw [outcome_bind_ok _ (outcome_get s), known]
    exact Or.inl ⟨((Resolving.note .reloadBeforeLoad).run (openLedger s)).2, congrArg Prod.snd read⟩
  · rcases read : (Menu.ofDirectory directory listing s.config.defaultSize).run.run [] with
      ⟨cause | loaded, notices⟩
    · rw [outcome_reloadMenus_error known read]
      exact Or.inl ⟨(s.noting notices).ledger, rfl⟩
    · exact Or.inr ⟨loaded, _, Menu.loadedAs_ofDirectory read, outcome_reloadMenus_ok known read⟩

omit [Machine] in
/-- Closing a menu ends the session of the actor and changes no menu, no other session and no actor. If there was none
under the key, nothing has changed. -/
theorem ok_close {ref : Nat} {answer : Bool} (closed : outcome (close ref) s = (.ok answer, t)) :
    t.menus = s.menus ∧ t.sessions = s.sessions.erase (s.actor ref).key ∧ t.actors = s.actors := by
  rcases keyOf_cases ref s with ⟨cause, failed⟩ | ⟨keyed, -⟩
  · unfold close at closed
    rw [outcome_bind_error _ failed] at closed
    cases closed
  · cases opened : s.session? ref with
    | none =>
      rw [outcome_close_none keyed opened] at closed
      cases closed
      exact ⟨rfl, (OrderedMap.erase_eq_self opened).symm, rfl⟩
    | some session =>
      rw [outcome_close_some keyed opened] at closed
      have same := tearDown_same session { s with sessions := s.sessions.erase (s.actor ref).key }
      rw [← outcome_bind_answer _ true, closed] at same
      exact same

/-- Drawing a menu again changes no menu, no session and no actor. So the pages of sessions are what they were. -/
theorem redraw_same (ref : Nat) (slots : Option (List SlotName)) (s : EngineState) :
    let t := (outcome (redraw ref slots) s).2
    t.menus = s.menus ∧ t.sessions = s.sessions ∧ t.actors = s.actors := by
  have kept : Keeps (fun t => t.menus = s.menus ∧ t.sessions = s.sessions ∧ t.actors = s.actors)
      (redraw ref slots) := by
    apply keeps_redraw
    intro t session menu _ _ _ same
    have drawn := render_same session menu slots t
    exact ⟨drawn.1.trans same.1, drawn.2.1.trans same.2.1, drawn.2.2.1.trans same.2.2⟩
  exact kept s ⟨rfl, rfl, rfl⟩

/-- Bringing a session in line changes no menu. The menus it is brought in line with are there before. -/
theorem keeps_menus_reviveSession {session : Session} :
    Keeps (fun t => t.menus = menus) (reviveSession session) :=
  keeps_reviveSession
    (keeps_close fun _ _ _ _ same => (tearDown_same _ _).1.trans same)
    (fun _ _ same => same) fun _ same => (redraw_same _ _ _).1.trans same

/-- Bringing all sessions in line changes no menu either, also if it breaks off. -/
theorem reviveAll_menus (sessions : Sessions) (s : EngineState) :
    (outcome (reviveAll sessions) s).2.menus = s.menus := by
  have kept : Keeps (fun t => t.menus = s.menus) (reviveAll sessions) :=
    keeps_reviveAll fun _ => keeps_menus_reviveSession
  exact kept s rfl

/-- A session that is brought in line with the menus is closed, put on the first page or left as it is. Which of the
three depends on its menu, and whether that has the page. -/
theorem ok_reviveSession {session : Session} (revived : outcome (reviveSession session) s = (.ok (), t)) :
    t.menus = s.menus ∧ t.actors = s.actors ∧
      ((s.menu? session.menu = none ∧ t.sessions = s.sessions.erase (s.actor session.actor).key) ∨
        ∃ menu, s.menu? session.menu = some menu ∧
          (t.sessions = s.sessions.setPage (s.actor session.actor).key 0 ∨
            (session.page < menu.totalPages ∧ t.sessions = s.sessions))) := by
  unfold reviveSession at revived
  rw [outcome_bind_ok _ (outcome_get s)] at revived
  split at revived
  · rename_i gone
    obtain ⟨answer, u, closed, same⟩ := ok_of_outcome_bind revived
    cases same
    obtain ⟨menus, sessions, actors⟩ := ok_close closed
    exact ⟨menus, actors, Or.inl ⟨gone, sessions⟩⟩
  · rename_i menu known
    dsimp only at revived
    split at revived
    · rw [outcome_bind_ok _ (outcome_set _ s)] at revived
      obtain ⟨answer, u, drawn, same⟩ := ok_of_outcome_bind revived
      cases same
      have redrawn := redraw_same session.actor none (s.turning session.actor 0)
      rw [show outcome (redraw session.actor none) (s.turning session.actor 0) = _ from drawn] at redrawn
      exact ⟨redrawn.1, redrawn.2.2, Or.inr ⟨menu, known, Or.inl redrawn.2.1⟩⟩
    · rename_i inside
      obtain ⟨answer, u, drawn, same⟩ := ok_of_outcome_bind revived
      cases same
      have redrawn := redraw_same session.actor none s
      rw [show outcome (redraw session.actor none) s = _ from drawn] at redrawn
      exact ⟨redrawn.1, redrawn.2.2, Or.inr ⟨menu, known, Or.inr ⟨Int.not_le.mp inside, redrawn.2.1⟩⟩⟩

/-- A session that is there after a turn is another and was there before, or it is the one that had its turn. Then its
menu is known, and it is on the first page or as it was. -/
theorem session_of_reviveSession {pair : ActorKey × Session}
    (revived : outcome (reviveSession pair.2) s = (.ok (), t)) (isKey : (s.actor pair.2.actor).key = pair.1)
    {key : ActorKey} {session : Session} (opened : t.sessions.get? key = some session) :
    (s.sessions.get? key = some session ∧ key ≠ pair.1) ∨
      ∃ menu before, s.menu? pair.2.menu = some menu ∧ s.sessions.get? key = some before ∧
        (session = { before with page := 0 } ∨ (session = before ∧ pair.2.page < menu.totalPages)) := by
  obtain ⟨-, -, sessions⟩ := ok_reviveSession revived
  rw [isKey] at sessions
  rcases sessions with ⟨-, closed⟩ | ⟨menu, known, reset | ⟨inside, same⟩⟩
  · rw [closed] at opened
    obtain ⟨other, found⟩ := OrderedMap.of_get?_erase opened
    exact Or.inl ⟨found, Ne.symm other⟩
  · rw [reset, Sessions.setPage] at opened
    rcases OrderedMap.of_get?_adjust opened with ⟨-, before, found, changed⟩ | ⟨other, found⟩
    · exact Or.inr ⟨menu, before, known, found, Or.inl changed.symm⟩
    · exact Or.inl ⟨found, Ne.symm other⟩
  · rw [same] at opened
    exact Or.inr ⟨menu, session, known, opened, Or.inr ⟨rfl, inside⟩⟩

end Engine

/-- The sessions are being brought in line with menus that are new. Each session is on a page of its menu,
or is still among those that remain to be brought in line. -/
structure Reviving (first : EngineState) (menus : OrderedMap String Menu)
    (remaining : List (ActorKey × Session)) (s : EngineState) : Prop where
  actors : s.actors = first.actors
  menus : s.menus = menus
  filed : ∀ pair ∈ remaining, (first.actor pair.2.actor).key = pair.1
  pages : ∀ key session, s.sessions.get? key = some session →
    0 ≤ session.page ∧ ((key, session) ∈ remaining ∨ s.OnPage session)

namespace Reviving

variable {first s t : EngineState} {menus : OrderedMap String Menu}
  {remaining : List (ActorKey × Session)}

/-- Once the first of the sessions that remain is brought in line, the others remain. Those that are no longer among
them are on pages of their menus. -/
theorem step {pair : ActorKey × Session} (reviving : Reviving first menus (pair :: remaining) s)
    (revived : outcome (reviveSession pair.2) s = (.ok (), t)) : Reviving first menus remaining t := by
  obtain ⟨sameMenus, sameActors, -⟩ := ok_reviveSession revived
  have isKey : (s.actor pair.2.actor).key = pair.1 := by
    rw [EngineState.actor, reviving.actors]
    exact reviving.filed pair List.mem_cons_self
  refine ⟨sameActors.trans reviving.actors, sameMenus.trans reviving.menus,
    fun other member => reviving.filed other (List.mem_cons_of_mem _ member), ?_⟩
  intro key session opened
  -- A session that is found as it was remains, unless it is the one that was brought in line.
  have asBefore (found : s.sessions.get? key = some session) (other : (key, session) ≠ pair) :
      0 ≤ session.page ∧ ((key, session) ∈ remaining ∨ t.OnPage session) := by
    obtain ⟨notNegative, isRemaining | onPage⟩ := reviving.pages key session found
    · rcases List.mem_cons.mp isRemaining with same | later
      · exact absurd same other
      · exact ⟨notNegative, Or.inl later⟩
    · exact ⟨notNegative, Or.inr (onPage.congr sameMenus)⟩
  rcases session_of_reviveSession revived isKey opened with
    ⟨found, other⟩ | ⟨menu, before, known, found, rfl | ⟨rfl, inside⟩⟩
  · exact asBefore found fun same => other (congrArg Prod.fst same)
  · exact ⟨Int.le_refl 0, Or.inr (t.onPage_first rfl)⟩
  · by_cases isPair : (key, session) = pair
    · subst isPair
      obtain ⟨notNegative, -⟩ := reviving.pages key session found
      refine ⟨notNegative, Or.inr (EngineState.OnPage.congr sameMenus ⟨notNegative, ?_⟩)⟩
      intro other isMenu
      cases known.symm.trans isMenu
      exact inside
    · exact asBefore found isPair

/-- Once all of them are brought in line, every session is on a page of its menu, as none remains for which that need
not be so. -/
theorem done (reviving : Reviving first menus remaining s)
    (revived : outcome (reviveAll remaining) s = (.ok (), t)) : t.Paged menus := by
  have none := of_reviveAll (fun _ _ _ _ reviving one => reviving.step one) reviving revived
  refine ⟨none.menus, fun key session opened => ?_⟩
  obtain ⟨-, member | onPage⟩ := none.pages key session opened
  · cases member
  · exact onPage

end Reviving

/-- Every open session can be drawn with menus that are new, on whatever page. -/
def EngineState.Drawable (s : EngineState) (menus : OrderedMap String Menu) : Prop :=
  ∀ pair ∈ s.sessions, ∀ menu, { s with menus }.menu? pair.2.menu = some menu → ∀ page ledger,
    ∃ drawing after,
      (s.drawing { pair.2 with page } menu none).run.run ledger = (.ok drawing, after)

/-- Every actor who has a menu open can leave it. -/
def EngineState.Leavable (s : EngineState) : Prop :=
  ∀ pair ∈ s.sessions, s.CanLeave pair.2.actor

/-- A state that is passed through while the menus of another are replaced. The sessions that are still open
are those of the other, on other pages at most. -/
structure Replacing (s : EngineState) (menus : OrderedMap String Menu) (t : EngineState) : Prop where
  menus : t.menus = menus
  actors : t.actors = s.actors
  classes : t.classes = s.classes
  placeholders : t.placeholders = s.placeholders
  scopes : t.legacyHandlers.scopes = s.legacyHandlers.scopes
  sessions : ∀ key session, t.sessions.get? key = some session →
    ∃ before page, (key, before) ∈ s.sessions ∧ session = { before with page }

namespace Replacing

variable {s t : EngineState} {menus : OrderedMap String Menu}

omit [Machine] in
/-- At the beginning the menus are replaced, and no session is on another page yet. -/
theorem start (s : EngineState) (menus : OrderedMap String Menu) : Replacing s menus { s with menus } where
  menus := rfl
  actors := rfl
  classes := rfl
  placeholders := rfl
  scopes := rfl
  sessions _ session opened := ⟨session, session.page, OrderedMap.mem_of_get? opened, rfl⟩

omit [Machine] in
/-- An actor is the same throughout, as nobody becomes another by being shown something. -/
theorem actor (replacing : Replacing s menus t) (ref : Nat) : t.actor ref = s.actor ref := by
  rw [EngineState.actor, replacing.actors, EngineState.actor]

omit [Machine] in
/-- An actor who could leave can leave throughout. The scopes of the handlers do not change, and neither does the id. -/
theorem canLeave (replacing : Replacing s menus t) {ref : Nat} (can : s.CanLeave ref) :
    t.CanLeave ref := by
  obtain ⟨id, isText, notEmpty⟩ := can
  refine ⟨id, by rwa [replacing.actor], ?_⟩
  rwa [replacing.scopes]

omit [Machine] in
/-- A name stands for what it stands for among the new menus, in every turn. -/
theorem menu? (replacing : Replacing s menus t) (name : String) : t.menu? name = { s with menus }.menu? name := by
  unfold EngineState.menu?
  rw [replacing.menus]

/-- A session is drawn as it would have been before, with the new menus. Nothing that a drawing reads is changed by
the turns but the ledger. -/
theorem drawing (replacing : Replacing s menus t) (session : Session) (menu : Menu) :
    t.drawing session menu none = s.drawing session menu none := by
  unfold EngineState.drawing
  rw [replacing.actor, replacing.classes, replacing.placeholders]

/-- A session that is still open can be drawn, in whatever turn, if all of them can be drawn at the beginning. -/
theorem render_answers (replacing : Replacing s menus t) (drawable : s.Drawable menus)
    (leavable : s.Leavable) {key : ActorKey} {session : Session} {menu : Menu}
    (opened : t.sessions.get? key = some session) (known : t.menu? session.menu = some menu) :
    ∃ u, outcome (render session menu none) t = (.ok (), u) ∧ Replacing s menus u := by
  obtain ⟨before, page, member, rfl⟩ := replacing.sessions key session opened
  have keyed : t.Keyed before.actor := (replacing.canLeave (leavable _ member)).keyed
  have found : { s with menus }.menu? before.menu = some menu := (replacing.menu? _).symm.trans known
  obtain ⟨result, ledger, drawn, ⟨cause, failed, -⟩ | ⟨title, grid, -, -, done⟩⟩ :=
    render_cases { before with page } menu none t
  · obtain ⟨drawing, after, answered⟩ := drawable _ member menu found page (openLedger t)
    rw [replacing.drawing, answered] at drawn
    cases drawn
    cases failed keyed
  · exact ⟨_, done, replacing.menus, replacing.actors, replacing.classes, replacing.placeholders,
      replacing.scopes, replacing.sessions⟩

/-- The menu of an actor can therefore be drawn again, if one is open, and otherwise that is answered. -/
theorem redraw_answers (replacing : Replacing s menus t) (drawable : s.Drawable menus)
    (leavable : s.Leavable) {ref : Nat} (keyed : t.Keyed ref) :
    ∃ answer u, outcome (redraw ref none) t = (.ok answer, u) ∧ Replacing s menus u := by
  rcases redraw_cases keyed none with nothing | ⟨session, menu, opened, known, drawing⟩
  · exact ⟨false, t, nothing, replacing⟩
  · obtain ⟨u, drawn, after⟩ := replacing.render_answers drawable leavable opened known
    exact ⟨true, u, drawing.trans (outcome_bind_ok _ drawn), after⟩

omit [Machine] in
/-- When a session is gone, with what belongs to its actor, the replacing goes on with the others. -/
theorem closing (replacing : Replacing s menus t) (key : ActorKey) (ref : Nat) :
    Replacing s menus ({ t with sessions := t.sessions.erase key }.left ref) where
  menus := replacing.menus
  actors := replacing.actors
  classes := replacing.classes
  placeholders := replacing.placeholders
  scopes := (HandlerRegistry.scopes_withoutActor _ _).trans replacing.scopes
  sessions k session there := replacing.sessions k session (OrderedMap.of_get?_erase there).2

omit [Machine] in
/-- The menu of an actor can be closed in every turn, since every actor with a session can leave. -/
theorem close_answers (replacing : Replacing s menus t) (leavable : s.Leavable) {ref : Nat}
    (keyed : t.Keyed ref) :
    ∃ answer u, outcome (close ref) t = (.ok answer, u) ∧ Replacing s menus u := by
  cases opened : t.session? ref with
  | none => exact ⟨false, t, outcome_close_none keyed opened, replacing⟩
  | some session =>
    obtain ⟨before, page, member, rfl⟩ := replacing.sessions _ session opened
    have left := outcome_tearDown (s := { t with sessions := t.sessions.erase (t.actor ref).key })
      (replacing.canLeave (leavable _ member))
    exact ⟨true, _, (outcome_close_some keyed opened).trans (outcome_bind_ok _ left),
      replacing.closing (t.actor ref).key before.actor⟩

omit [Machine] in
/-- When a page is put into a session, it is still the session that it was in all else. -/
theorem turning (replacing : Replacing s menus t) (key : ActorKey) (page : Int) :
    Replacing s menus { t with sessions := t.sessions.setPage key page } where
  menus := replacing.menus
  actors := replacing.actors
  classes := replacing.classes
  placeholders := replacing.placeholders
  scopes := replacing.scopes
  sessions k session there := by
    rcases OrderedMap.of_get?_adjust there with ⟨-, now, found, rfl⟩ | ⟨-, found⟩
    · obtain ⟨before, _, member, rfl⟩ := replacing.sessions k now found
      exact ⟨before, page, member, rfl⟩
    · exact replacing.sessions k session found

/-- Each session can be brought in line in its turn, in whichever of the three ways it is done. -/
theorem revive_answers (replacing : Replacing s menus t) (drawable : s.Drawable menus)
    (leavable : s.Leavable) {pair : ActorKey × Session} (member : pair ∈ s.sessions) :
    ∃ u, outcome (reviveSession pair.2) t = (.ok (), u) ∧ Replacing s menus u := by
  have keyed {u : EngineState} (same : Replacing s menus u) : u.Keyed pair.2.actor :=
    (same.canLeave (leavable pair member)).keyed
  unfold reviveSession
  rw [outcome_bind_ok _ (outcome_get t)]
  split
  · obtain ⟨answer, u, closed, after⟩ := replacing.close_answers leavable (keyed replacing)
    exact ⟨u, outcome_bind_ok _ closed, after⟩
  · dsimp only
    split
    · rw [outcome_bind_ok _ (outcome_set _ t)]
      have reset := replacing.turning (t.actor pair.2.actor).key 0
      obtain ⟨answer, u, drawn, after⟩ := reset.redraw_answers drawable leavable (keyed reset)
      exact ⟨u, outcome_bind_ok _ drawn, after⟩
    · obtain ⟨answer, u, drawn, after⟩ := replacing.redraw_answers drawable leavable (keyed replacing)
      exact ⟨u, outcome_bind_ok _ drawn, after⟩

/-- All sessions can be brought in line, one after another. The induction is on those that remain. -/
theorem reviveAll_answers (drawable : s.Drawable menus) (leavable : s.Leavable) {sessions : Sessions}
    (subset : ∀ pair ∈ sessions, pair ∈ s.sessions) (replacing : Replacing s menus t) :
    ∃ u, outcome (reviveAll sessions) t = (.ok (), u) := by
  induction sessions generalizing t with
  | nil => exact ⟨t, rfl⟩
  | cons pair rest ih =>
    obtain ⟨u, revived, after⟩ :=
      replacing.revive_answers drawable leavable (subset pair List.mem_cons_self)
    rw [reviveAll_cons, outcome_bind_ok _ revived]
    exact ih (fun other member => subset other (List.mem_cons_of_mem _ member)) after

end Replacing

/-- Reading the menus again comes to its end or leaves the menus as they were, if every session that is open
can be drawn with the menus that there are then, and every actor who has a menu open can leave it. -/
theorem reloadMenus_settles {s : EngineState} {listing : Option FileListing}
    (drawable : s.Drawable (outcome (reloadMenus listing) s).2.menus) (leavable : s.Leavable) :
    (∃ loaded, (outcome (reloadMenus listing) s).1 = .ok loaded) ∨
      (outcome (reloadMenus listing) s).2.menus = s.menus := by
  rcases reloadMenus_cases listing s with ⟨ledger, read⟩ | ⟨loaded, ledger, -, replacing⟩
  · right
    rw [read]
  · left
    rw [replacing, outcome_bind_answer, outcome_replaceMenus] at drawable
    rw [replacing]
    rw [reviveAll_menus] at drawable
    obtain ⟨u, revived⟩ := Replacing.reviveAll_answers (s := { s with ledger }) drawable leavable
      (fun _ member => member) (Replacing.start _ loaded)
    have done : outcome (replaceMenus loaded) { s with ledger } = (.ok (), u) := revived
    exact ⟨loaded, congrArg Prod.fst (outcome_bind_ok _ done)⟩

/-- What holds in the course of a run: sessions are filed under the keys of their actors, and each is on a
page of its menu. -/
structure InPlace (first s : EngineState) : Prop where
  filed : Filed first s
  paged : s.Paged s.menus

namespace InPlace

variable {first s t : EngineState}

omit [Machine] in
/-- The sessions of an engine that were in place remain to be brought in line when the menus are
replaced. -/
theorem reviving (inPlace : InPlace first s) (menus : OrderedMap String Menu) :
    Reviving first menus s.sessions { s with menus } where
  actors := inPlace.filed.actors
  menus := rfl
  filed pair member := by
    have filed := inPlace.filed.filed pair.1 pair.2 member
    rwa [inPlace.filed.actor] at filed
  pages key session opened :=
    ⟨(inPlace.paged.pages key session opened).1, Or.inl (OrderedMap.mem_of_get? opened)⟩

omit [Machine] in
/-- A change that touches no menu, no session and no actor leaves all sessions in place. -/
theorem elsewhere (inPlace : InPlace first s) (menus : t.menus = s.menus)
    (sessions : t.sessions = s.sessions) (actors : t.actors = s.actors) : InPlace first t where
  filed := inPlace.filed.of_subset actors fun pair member => by rwa [sessions] at member
  paged := by
    rw [menus]
    exact inPlace.paged.elsewhere menus sessions

/-- Replacing the menus leaves all sessions in place, if it comes to its end. -/
theorem replaced (inPlace : InPlace first s) {menus : OrderedMap String Menu}
    (done : outcome (replaceMenus menus) s = (.ok (), t)) : InPlace first t := by
  rw [outcome_replaceMenus] at done
  have paged := (inPlace.reviving menus).done done
  have kept : Keeps (Filed first) (reviveAll s.sessions) := keeps_reviveAll Filed.upheld.revived
  have filed := kept { s with menus } (inPlace.filed.of_subset rfl fun _ member => member)
  rw [done] at filed
  exact ⟨filed, by rwa [paged.menus]⟩

/-- Reading the menus again leaves all sessions in place, if it comes to its end or leaves the menus as they
were. -/
theorem reloaded (inPlace : InPlace first s) {listing : Option FileListing}
    (settled : (∃ loaded, (outcome (reloadMenus listing) s).1 = .ok loaded) ∨
      (outcome (reloadMenus listing) s).2.menus = s.menus) :
    InPlace first (outcome (reloadMenus listing) s).2 := by
  rcases reloadMenus_cases listing s with ⟨ledger, read⟩ | ⟨loaded, ledger, -, replacing⟩
  · rw [read]
    exact inPlace.elsewhere rfl rfl rfl
  have before : InPlace first { s with ledger } := inPlace.elsewhere rfl rfl rfl
  have filed := Filed.upheld.reloaded listing s inPlace.filed
  rw [replacing] at filed settled ⊢
  rcases settled with ⟨answer, answered⟩ | same
  · obtain ⟨_, t, done, last⟩ := ok_of_outcome_bind (Prod.ext answered rfl)
    cases congrArg Prod.snd last
    exact before.replaced done
  · rw [outcome_bind_answer, outcome_replaceMenus] at filed same ⊢
    -- The menus are the same again, so no session was off its page at any time.
    have menus : loaded = s.menus := (reviveAll_menus s.sessions { s with ledger, menus := loaded }).symm.trans same
    have kept : Keeps (EngineState.Paged s.menus) (reviveAll s.sessions) :=
      keeps_reviveAll fun _ => EngineState.Paged.keeps_reviveSession
    have paged := kept { s with ledger, menus := loaded } (inPlace.paged.elsewhere menus rfl)
    exact ⟨filed, by rwa [same]⟩

/-- Operations that leave the menus alone leave all sessions in place. -/
theorem called (inPlace : InPlace first s) {α : Type} {x : Engine α}
    (code : HostCode HostCall.SparesMenus x) : InPlace first (outcome x s).2 where
  filed := Filed.keeps_code code s inPlace.filed
  paged := by
    have paged := EngineState.Paged.keeps_code code s inPlace.paged
    rwa [paged.menus]

end InPlace

/-- The states that a host brings an engine to that does not touch the menus but to replace them all, by a
step that comes to its end. A reading that fails may be among the calls if the menus are as before. -/
inductive PageRun (first : EngineState) : EngineState → Prop where
  | here : PageRun first first
  | called {s : EngineState} (before : PageRun first s) (c : HostCall) (calling : Calling)
      (code : HostCode HostCall.SparesMenus (c.run calling)) :
      PageRun first (outcome (c.run calling) s).2
  | replaced {s t : EngineState} (before : PageRun first s) (menus : OrderedMap String Menu)
      (done : outcome (replaceMenus menus) s = (.ok (), t)) : PageRun first t
  | reloaded {s : EngineState} (before : PageRun first s) (listing : Option FileListing)
      (settled : (∃ loaded, (outcome (reloadMenus listing) s).1 = .ok loaded) ∨
        (outcome (reloadMenus listing) s).2.menus = s.menus) :
      PageRun first (outcome (reloadMenus listing) s).2

/-- In the course of a run all sessions stay in place. -/
theorem PageRun.inPlace {first s : EngineState} (idle : first.sessions = []) (run : PageRun first s) :
    InPlace first s := by
  induction run with
  | here => exact ⟨⟨rfl, by simp [idle]⟩, rfl, by simp [idle, OrderedMap.get?]⟩
  | called _ c calling code before => exact before.called code
  | replaced _ menus done before => exact before.replaced done
  | reloaded _ listing settled before => exact before.reloaded settled

/-- In every state of a run that begins with no menu open, every session whose menu is there is on one of its pages,
and a reading of the menus goes on with the run if every session can be drawn with the menus that there are then and
every actor can leave. Wherever there is a session on a menu with pages, going to a page and an action that turns
pages put the session on the page exactly if the menu has it and otherwise change nothing at all; the action makes its
sound exactly if the page is drawn.

Proof: the first part is the invariant `InPlace`, kept by every operation of a run. A reading of the menus breaks it
for the time being, until each session has had its turn, and so the run goes on only if all turns come to their end.
The second part looks at the one operation that turns pages, which asks for the page before it does anything. -/
theorem pages_of_run {first : EngineState} (idle : first.sessions = []) :
    (∀ s, PageRun first s →
      (∀ key session menu, s.sessions.get? key = some session → s.menu? session.menu = some menu →
        0 ≤ session.page ∧ session.page < menu.totalPages) ∧
      ∀ listing, s.Drawable (outcome (reloadMenus listing) s).2.menus → s.Leavable →
        PageRun first (outcome (reloadMenus listing) s).2) ∧
    ∀ (s : EngineState) (click : ClickContext) (session : Session) (menu : Menu),
      s.Keyed click.actor → s.session? click.actor = some session →
      s.menu? session.menu = some menu → menu.isPaginated = true →
      ∀ page, PageTurn s click session menu page := by
  constructor
  · intro s run
    constructor
    · intro key session menu opened known
      obtain ⟨notNegative, before⟩ := (run.inPlace idle).paged.pages key session opened
      exact ⟨notNegative, before menu known⟩
    · intro listing drawable leavable
      exact run.reloaded listing (reloadMenus_settles drawable leavable)
  · intro s click session menu keyed opened known paginated page
    exact .of_session keyed opened known paginated page

omit [Machine] in
/-- What is asked for on behalf of an actor leaves the menus alone. So code of scripts is among the code that the
invariant is kept by. -/
theorem HostCall.IsOwn.sparesMenus {c : HostCall} {ref : Nat} (own : c.IsOwn ref) : c.SparesMenus := by
  cases c
  all_goals first | exact own.elim | trivial

/-- A shop with two menus, one of which will be gone when the menus are read again. The first actor has an id
of choice. -/
def shelfShop (id : String) : EngineState :=
  { smallShop with
    actors := [{ id := .text id, name := .text "Ann" }, { id := .text "ben", name := .text "Ben" }]
    menus := [("gone", { id := "gone" }), ("shop", smallMenu)]
    directory := some "menus" }

/-- The shop when the first actor has opened the menu that will be gone, and the second has turned to the
second page of the other. -/
def turnedShelf (id : String) : EngineState :=
  (outcome (setPage 1 1) (outcome (openMenu 1 "shop" .null false)
    (outcome (openMenu 0 "gone" .null false) (shelfShop id)).2).2).2

/-- That shop when the menus were read again, from a directory with one menu that has no pages. -/
def rereadShelf (id : String) : Except Failure (OrderedMap String Menu) × EngineState :=
  outcome (reloadMenus (some [("shop.json", .text ['\x7b', '\x7d'])])) (turnedShelf id)

end

/-- On the shelf that was read again the second actor is put back on the first page, and could have turned back to it
before. -/
theorem pages_rereadShelf :
    (∃ session menu, (rereadShelf "ann").2.session? 1 = some session ∧
        (rereadShelf "ann").2.menu? session.menu = some menu ∧
        0 ≤ session.page ∧ session.page < menu.totalPages) ∧
      ∃ session menu, (turnedShelf "ann").session? 1 = some session ∧ session.page = 1 ∧
        PageTurn (turnedShelf "ann") { actor := 1, menu := "shop", slot := 0 } session menu 0 := by
  have code (c : HostCall) (spares : c.SparesMenus) : HostCode HostCall.SparesMenus (c.run call) :=
    .scripted c spares fun _ _ _ own => own.sparesMenus
  have first : PageRun (shelfShop "ann") _ :=
    .called .here (.openMenu 0 "gone" .null false) call (code _ trivial)
  have second := first.called (.openMenu 1 "shop" .null false) call (code _ trivial)
  have turned : PageRun (shelfShop "ann") (turnedShelf "ann") :=
    second.called (.setPage 1 1) call (code _ trivial)
  have read : (rereadShelf "ann").1.toOption.isSome = true := by decide +kernel
  have reread : PageRun (shelfShop "ann") (rereadShelf "ann").2 := by
    refine turned.reloaded _ (Or.inl ?_)
    change ∃ loaded, (rereadShelf "ann").1 = .ok loaded
    cases answer : (rereadShelf "ann").1 with
    | error cause =>
      rw [answer] at read
      cases read
    | ok loaded => exact ⟨loaded, rfl⟩
  have idle : (shelfShop "ann").sessions = [] := rfl
  have pages := pages_of_run idle
  constructor
  · have there : (((rereadShelf "ann").2.session? 1).bind fun session =>
        (rereadShelf "ann").2.menu? session.menu).isSome = true := by
      decide +kernel
    obtain ⟨menu, found⟩ := Option.isSome_iff_exists.mp there
    obtain ⟨session, opened, known⟩ := Option.bind_eq_some_iff.mp found
    exact ⟨session, menu, opened, known, (pages.1 _ reread).1 _ session menu opened known⟩
  · have there : (((turnedShelf "ann").session? 1).bind fun session =>
        if session.page = 1 then
          ((turnedShelf "ann").menu? session.menu).filter (·.isPaginated)
        else none).isSome = true := by
      decide +kernel
    obtain ⟨menu, found⟩ := Option.isSome_iff_exists.mp there
    obtain ⟨session, opened, found⟩ := Option.bind_eq_some_iff.mp found
    split at found
    · rename_i onSecond
      obtain ⟨known, paginated⟩ := Option.filter_eq_some_iff.mp found
      have keyed : (turnedShelf "ann").Keyed 1 := by
        rw [EngineState.Keyed, (turned.inPlace idle).filed.actor]
        rfl
      exact ⟨session, menu, opened, onSecond, pages.2 _ _ session menu keyed opened known paginated 0⟩
    · cases found

section

variable [Machine]

/-- A context that breaks off when it is asked to describe its fields. -/
def mute : Value :=
  .record "Mute" .null [] {
    shown := .ok ""
    inner := .ok ""
    truth := .ok true
    integer := .error (.notNumeric "Mute")
    real := .error (.notNumeric "Mute")
    isCollection := false
    isCallable := false
    number := .ok none
    equalsText := fun _ => .ok false }

/-- The small shop when the first actor has opened the menu, and has been given that context since. -/
def muteShop : EngineState :=
  (outcome (updateContext 0 mute) (outcome (openMenu 0 "shop" .null false) { smallShop with
    classes := { declared := [{
      itself := { name := "Mute", describe := some (.reports "no fields") }
      lineage := ["Mute", "object"]
      layout := "object"
      isReferable := true }] } }).2).2

end

/-- If the first actor has an empty id, closing the menu that is gone fails, and the second actor stays on a
page that the menu does not have any more, although that menu can be drawn. And a page that cannot be drawn
is gone to without a sound. -/
theorem offPage_rereadShelf :
    ((match (rereadShelf "").1 with
        | .error (.scopeKeyMissing scope) => some scope
        | _ => none) = some "actor" ∧
      ((rereadShelf "").2.session? 1).map (·.page) = some 1 ∧
      (((rereadShelf "").2.session? 1).bind fun session =>
        (rereadShelf "").2.menu? session.menu).map (·.totalPages) = some 1 ∧
      (outcome (refresh 1) (rereadShelf "").2).1.toOption = some true) ∧
    let turn : ClickContext := { actor := 0, menu := "shop", slot := 1 }
    SimpleAction.targetPage "+1" 0 = .ok 1 ∧ 1 < smallMenu.totalPages ∧
      (muteShop.session? 0).map (·.page) = some 0 ∧
      ((outcome (changePage "+1" turn) muteShop).2.session? 0).map (·.page) = some 1 ∧
      (outcome (changePage "+1" turn) muteShop).2.effects = muteShop.effects := by
  refine ⟨⟨?_, ?_, ?_, ?_⟩, rfl, ?_, ?_, ?_, ?_⟩
  · decide +kernel
  · decide +kernel
  · decide +kernel
  · decide +kernel
  · decide
  · decide +kernel
  · decide +kernel
  · have silent : (outcome (changePage "+1" { actor := 0, menu := "shop", slot := 1 })
        muteShop).2.effects.length = 0 := by
      decide +kernel
    have before : muteShop.effects.length = 0 := by decide +kernel
    rw [List.eq_nil_of_length_eq_zero silent, List.eq_nil_of_length_eq_zero before]

end ChestMenu
