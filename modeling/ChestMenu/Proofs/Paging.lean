import ChestMenu.Proofs.Isolation

/-!
# Pages

A session is on a page of its menu, as long as the menu is there: menus are opened on their first page, and no
operation goes to a page that the menu does not have. Going to a page it has puts the session there before the page is
drawn; if it cannot be drawn, the session stays there all the same.

Here the menus do not change. What becomes of pages when they do is another matter.
-/
namespace ChestMenu

open Engine

/-- A menu has at least one page. One without items on its pages has an empty one. -/
theorem Menu.one_le_totalPages (menu : Menu) : 1 ≤ menu.totalPages := by
  unfold totalPages
  split
  · exact Pagination.one_le_totalPages _
  · exact Int.le_refl 1

namespace EngineState

/-- A session is on a page of its menu, if the menu is there. No page comes before the first. -/
def OnPage (s : EngineState) (session : Session) : Prop :=
  0 ≤ session.page ∧ ∀ menu, s.menu? session.menu = some menu → session.page < menu.totalPages

/-- The menus are those given, and every session is on a page of its menu. -/
structure Paged (menus : OrderedMap String Menu) (s : EngineState) : Prop where
  menus : s.menus = menus
  pages : ∀ key session, s.sessions.get? key = some session → s.OnPage session

variable {menus : OrderedMap String Menu} {s t : EngineState} {session : Session}

/-- Pages depend on the menus only. Of the session its menu and its page are looked at. -/
theorem OnPage.congr (same : t.menus = s.menus) (onPage : s.OnPage session) : t.OnPage session := by
  refine ⟨onPage.1, fun menu known => onPage.2 menu ?_⟩
  unfold menu? at known ⊢
  rwa [same] at known

/-- The first page is a page of every menu. It is one even if the menu is gone. -/
theorem onPage_first (s : EngineState) (first : session.page = 0) : s.OnPage session := by
  refine ⟨Int.le_of_eq first.symm, fun menu _ => ?_⟩
  have pages := menu.one_le_totalPages
  omega

namespace Paged

/-- A change elsewhere leaves the sessions and the menus as they are, and so all sessions on their pages. -/
theorem elsewhere (paged : s.Paged menus) (same : t.menus = s.menus) (sessions : t.sessions = s.sessions) :
    t.Paged menus where
  menus := same.trans paged.menus
  pages key session opened := by
    rw [sessions] at opened
    exact (paged.pages key session opened).congr same

/-- A session that is changed stays on a page, if it is put on one that its menu has. The others are not looked at. -/
theorem adjusting (paged : s.Paged menus) (key : ActorKey) (change : Session → Session)
    (onPage : ∀ session, s.sessions.get? key = some session → s.OnPage (change session)) :
    { s with sessions := s.sessions.adjust key change }.Paged menus where
  menus := paged.menus
  pages k session opened := by
    rcases OrderedMap.of_get?_adjust opened with ⟨rfl, before, found, rfl⟩ | ⟨-, found⟩
    · exact (onPage before found).congr rfl
    · exact (paged.pages k session found).congr rfl

/-- When a session ends, those that are left are on their pages. -/
theorem erasing (paged : s.Paged menus) (key : ActorKey) :
    { s with sessions := s.sessions.erase key }.Paged menus where
  menus := paged.menus
  pages k session opened := (paged.pages k session (OrderedMap.of_get?_erase opened).2).congr rfl

/-- A session begins on the first page, which every menu has. -/
theorem entering (paged : s.Paged menus) (ref : Nat) (menu : Menu) (context : Value) :
    (s.entering (s.actor ref).key ref menu context).Paged menus where
  menus := paged.menus
  pages k session opened := by
    rw [EngineState.entering_sessions] at opened
    split at opened
    · cases opened
      exact EngineState.onPage_first _ rfl
    · exact (paged.pages k session opened).congr rfl

end Paged

/-- The effects that the host was asked for, in order. -/
def effects (s : EngineState) : List Effect :=
  s.journal.filterMap fun
    | .effect e => some e
    | _ => none

/-- The state in which the host was asked for one effect more. -/
def asking (s : EngineState) (e : Effect) : EngineState :=
  { s with journal := s.journal ++ [.effect e] }

end EngineState

namespace Engine

variable {s : EngineState} {session : Session} {menu : Menu} {slots : Option (List SlotName)}

/-- Drawing changes no menu, no session and no actor, and asks for no effect. With that a page that was found before a
drawing is still one behind it. -/
theorem render_same [Machine] (session : Session) (menu : Menu) (slots : Option (List SlotName)) (s : EngineState) :
    let t := (outcome (render session menu slots) s).2
    t.menus = s.menus ∧ t.sessions = s.sessions ∧ t.actors = s.actors ∧ t.effects = s.effects := by
  intro t
  obtain ⟨result, ledger, -, ⟨cause, -, failed⟩ | ⟨title, grid, -, -, drawn⟩⟩ :=
    render_cases session menu slots s
  · have same : t = { s with ledger } := congrArg Prod.snd failed
    rw [same]
    exact ⟨rfl, rfl, rfl, rfl⟩
  · have same : t = _ := congrArg Prod.snd drawn
    rw [same]
    refine ⟨rfl, rfl, rfl, ?_⟩
    unfold EngineState.effects EngineState.drawn
    cases (s.screen.draw (s.actor session.actor).key title grid slots).get? (s.actor session.actor).key with
    | none => simp
    | some surface => simp

/-- Leaving a menu changes no menu, no session that is left, and no actor. It is of no importance here where it breaks
off. -/
theorem tearDown_same (session : Session) (s : EngineState) :
    let t := (outcome (tearDown session) s).2
    t.menus = s.menus ∧ t.sessions = s.sessions ∧ t.actors = s.actors := by
  intro t
  have same : t = (outcome (tearDown session) s).2 := rfl
  rcases tearDown_cases session s with ⟨cause, done⟩ | ⟨cause, done⟩ | done | done
  all_goals
    rw [same, done]
    exact ⟨rfl, rfl, rfl⟩

/-- An action that turns the page goes to the page that it leads to, and makes the sound if this answers that there is
such a page. The page is worked out from the page of the session and the text of the action. -/
theorem outcome_changePage [Machine] {click : ClickContext} {change : String} {page : Int}
    (keyed : s.Keyed click.actor) (opened : s.session? click.actor = some session)
    (known : s.menu? session.menu = some menu) (paginated : menu.isPaginated = true)
    (target : SimpleAction.targetPage change session.page = .ok page) :
    outcome (changePage change click) s =
      outcome (setPage click.actor page >>= fun turned =>
        if turned then effect (.sound (s.actor click.actor).id pageTurnSound 1.0 1.0) else pure ()) s := by
  unfold changePage
  rw [outcome_bind_ok _ (outcome_get s), outcome_bind_ok _ (outcome_sessionOf keyed), opened]
  dsimp only
  rw [known]
  dsimp only
  rw [if_pos paginated, target, outcome_bind_ok _ (outcome_ofExcept _ s)]

end Engine

namespace EngineState.Paged

variable {menus : OrderedMap String Menu}

/-- Drawing leaves all sessions on their pages. It changes neither menus nor sessions. -/
theorem keeps_render [Machine] {session : Session} {menu : Menu} {slots : Option (List SlotName)} :
    Keeps (Paged menus) (render session menu slots) := fun s paged =>
  have same := render_same session menu slots s
  paged.elsewhere same.1 same.2.1

/-- Leaving a menu leaves all sessions on their pages, as it changes none of them. -/
theorem keeps_tearDown {session : Session} : Keeps (Paged menus) (tearDown session) := fun s paged =>
  have same := tearDown_same session s
  paged.elsewhere same.1 same.2.1

/-- Entering a menu leaves all sessions on their pages, the new one on the first. -/
theorem keeps_enter [Machine] {ref : Nat} {menu : Menu} {context : Value} :
    Keeps (Paged menus) (enter ref menu context) := by
  intro s paged
  rcases keyOf_cases ref s with ⟨cause, failed⟩ | ⟨keyed, -⟩
  · rw [enter, outcome_bind_error _ failed]
    exact paged
  · rw [outcome_enter keyed]
    exact keeps_render _ (paged.entering ref menu context)

/-- Opening a menu leaves all sessions on their pages. The session that was there before goes, and the new one
begins. -/
theorem keeps_openMenu [Machine] {ref : Nat} {name : String} {context : Value} {keep : Bool} :
    Keeps (Paged menus) (openMenu ref name context keep) :=
  Engine.keeps_openMenu (fun _ _ paged => paged.elsewhere rfl rfl)
    (fun s _ _ _ _ _ paged => keeps_enter s paged)
    fun s _ _ _ _ _ _ paged => keeps_bind keeps_tearDown (fun _ => keeps_enter) s paged

/-- Closing a menu leaves all sessions on their pages that are left. -/
theorem keeps_close {ref : Nat} : Keeps (Paged menus) (close ref) :=
  Engine.keeps_close fun _ _ _ _ paged => keeps_tearDown _ (paged.erasing _)

/-- Drawing a menu again leaves all sessions on their pages, on whichever they are. -/
theorem keeps_redraw [Machine] {ref : Nat} {slots : Option (List SlotName)} :
    Keeps (Paged menus) (redraw ref slots) :=
  Engine.keeps_redraw fun s _ _ _ _ _ paged => keeps_render s paged

/-- Going to a page leaves all sessions on their pages, since the page is one of the menu of the session
that goes there. -/
theorem keeps_setPage [Machine] {ref : Nat} {page : Int} : Keeps (Paged menus) (setPage ref page) := by
  apply Engine.keeps_setPage
  intro s session menu _ opened known inside paged
  apply keeps_render
  refine paged.adjusting _ _ fun before found => ?_
  have same : session = before := Option.some.inj (opened.symm.trans found)
  subst same
  refine ⟨inside.2.1, fun other isMenu => ?_⟩
  cases known.symm.trans isMenu
  exact inside.2.2

/-- Changing a context leaves the page as it is. So it leaves all sessions on their pages. -/
theorem keeps_updateContext {ref : Nat} {context : Value} :
    Keeps (Paged menus) (updateContext ref context) :=
  Engine.keeps_updateContext fun _ _ paged => paged.adjusting _ _ fun session found =>
    paged.pages _ session found

/-- Whatever is done for one actor at a time leaves all sessions on their pages. -/
theorem watched [Machine] : Watched (Paged menus) fun _ => True where
  unmoved _ _ unmoved paged := paged.elsewhere unmoved.menus unmoved.sessions
  opened _ _ _ _ _ := keeps_openMenu
  closed _ := keeps_close
  turned _ _ := keeps_setPage
  redrawn _ _ := keeps_redraw
  updated _ _ := keeps_updateContext

/-- Every operation that leaves the menus alone leaves all sessions on their pages, if callbacks do. What the other
operations do besides is no matter to the pages. -/
theorem keeps_run [Machine] {c : HostCall} {calling : Calling} (spares : c.SparesMenus)
    (answers : ∀ ref, c.actor? = some ref → ∀ info callback,
      Keeps (Paged menus) (calling ref info callback)) : Keeps (Paged menus) (c.run calling) :=
  watched.run_sparing (fun _ _ _ _ paged => paged.elsewhere rfl rfl) spares (fun _ _ => trivial) answers

/-- All code of a host that asks for no other operations leaves all sessions on their pages, by induction on the
code. -/
theorem keeps_code [Machine] {α : Type} {x : Engine α} (code : HostCode HostCall.SparesMenus x) :
    Keeps (Paged menus) x :=
  code.keeps (fun _ _ paged => paged.elsewhere rfl rfl) fun _ _ spares answers => keeps_run spares answers

/-- Bringing a session in line with the menus leaves all sessions on their pages that are there already. One that is
not is put on the first page in its turn. -/
theorem keeps_reviveSession [Machine] {session : Session} : Keeps (Paged menus) (reviveSession session) :=
  Engine.keeps_reviveSession keeps_close
    (fun _ _ paged => paged.adjusting _ _ fun _ _ => EngineState.onPage_first _ rfl) keeps_redraw

end EngineState.Paged

/-- What becomes of turning the page of a session to a page of a menu that has pages. -/
structure PageTurn [Machine] (s : EngineState) (click : ClickContext) (session : Session) (menu : Menu)
    (page : Int) : Prop where
  /-- There is no such page, and nothing changes. -/
  outside : ¬(0 ≤ page ∧ page < menu.totalPages) →
    outcome (setPage click.actor page) s = (.ok false, s)
  /-- There is such a page, and the session is put on it, even if it cannot be drawn. -/
  inside : 0 ≤ page ∧ page < menu.totalPages → ∀ result t,
    outcome (render { session with page } menu none) (s.turning click.actor page) = (result, t) →
      outcome (setPage click.actor page) s = (result.map fun _ => true, t) ∧
        t.session? click.actor = some { session with page } ∧ t.effects = s.effects
  /-- An action that leads to no such page changes nothing. -/
  actionOutside : ¬(0 ≤ page ∧ page < menu.totalPages) → ∀ change,
    SimpleAction.targetPage change session.page = .ok page →
      outcome (changePage change click) s = (.ok (), s)
  /-- An action that leads to the page puts the session on it, and makes the sound once it is drawn. -/
  actionInside : 0 ≤ page ∧ page < menu.totalPages → ∀ change,
    SimpleAction.targetPage change session.page = .ok page → ∀ result t,
      outcome (render { session with page } menu none) (s.turning click.actor page) = (result, t) →
        outcome (changePage change click) s = (result, match result with
          | .ok _ => t.asking (.sound (s.actor click.actor).id pageTurnSound 1.0 1.0)
          | .error _ => t)

/-- Pages are turned in this way wherever there is a session on a menu with pages. The page is asked for before
anything is done, so a page that is not there changes nothing at all. -/
theorem PageTurn.of_session [Machine] {s : EngineState} {click : ClickContext} {session : Session} {menu : Menu}
    (keyed : s.Keyed click.actor) (opened : s.session? click.actor = some session)
    (known : s.menu? session.menu = some menu) (paginated : menu.isPaginated = true) (page : Int) :
    PageTurn s click session menu page where
  outside absent := outcome_setPage_outside keyed opened known fun has => absent has.2
  inside present result t drawn := by
    have turned := outcome_setPage_inside keyed opened known ⟨paginated, present⟩
    have same := render_same { session with page } menu none (s.turning click.actor page)
    rw [drawn] at same
    refine ⟨?_, ?_, same.2.2.2⟩
    · rw [turned, outcome_bind, drawn]
      cases result <;> rfl
    · rw [EngineState.session?, same.2.1, EngineState.actor, same.2.2.1]
      change (s.sessions.setPage (s.actor click.actor).key page).get? (s.actor click.actor).key = _
      rw [EngineState.session?] at opened
      rw [Sessions.setPage, OrderedMap.get?_adjust, if_pos rfl, opened]
      rfl
  actionOutside absent change target := by
    rw [outcome_changePage keyed opened known paginated target,
      outcome_bind_ok _ (outcome_setPage_outside keyed opened known fun has => absent has.2)]
    rfl
  actionInside present change target result t drawn := by
    have turned := outcome_setPage_inside keyed opened known ⟨paginated, present⟩
    rw [outcome_changePage keyed opened known paginated target, outcome_bind, turned, outcome_bind, drawn]
    cases result <;> rfl

end ChestMenu
