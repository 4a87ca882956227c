import ChestMenu.Proofs.Claimant
import ChestMenu.Proofs.Interrupted
import ChestMenu.Proofs.OpenMenus

/-!
# Surfaces and the sizes of menus

A surface is opened in the size of its menu, and nothing is drawn outside the menu. So every item lies inside the
surface as long as the menu that the session finds has the size that the surface was opened in.

Menus that are read again may have other sizes, and the surfaces that are open are drawn on, not opened anew. They
keep their sizes whatever is read, so they have those of their menus afterwards exactly if the menus that were read
have the sizes of the surfaces.
-/
namespace ChestMenu

open Engine

section

/-- Every item of a grid is in one of so many slots. -/
def Grid.Within (grid : Grid) (size : Int) : Prop :=
  ∀ slot item, grid.get? slot = some item → 0 ≤ slot ∧ slot < size

section

variable {classes : Classes} {actor : Actor} {view : Option View} {base : Placeholder.Table} {menu : Menu}
  {wanted : Option (List Int)} {grid placed : Grid} {before after : Ledger}

/-- A slot that an item of a menu is drawn in is inside the menu. This is asked of each slot before anything is placed
in it. -/
theorem Menu.inside_of_isTarget {slot : Int} (target : menu.isTarget wanted slot = true) :
    0 ≤ slot ∧ slot < menu.size := by
  simp only [isTarget, Bool.and_eq_true, decide_eq_true_eq] at target
  exact target.1

/-- Placing one item puts nothing outside the menu. An item that is hidden is not placed at all. -/
theorem Menu.within_of_place [Machine] {placement : String × Entry × List Int} (inside : grid.Within menu.size)
    (done : (menu.place classes actor view base wanted grid placement).run.run before = (.ok placed, after)) :
    placed.Within menu.size := by
  obtain ⟨key, entry, slots⟩ := placement
  rw [Menu.place_eq] at done
  dsimp only at done
  split at done
  · cases done
    exact inside
  · obtain ⟨shown, asked, -, same⟩ := run_bind_eq_ok_iff.mp done
    cases same
    intro slot item there
    cases shown with
    | none => exact inside slot item there
    | some drawn =>
      rw [Grid.get?_show] at there
      split at there
      · rename_i target
        exact Menu.inside_of_isTarget (List.mem_filter.mp target).2
      · exact inside slot item there

/-- Placing several items puts nothing outside the menu, by induction on the placements. -/
theorem Menu.within_of_placeAll [Machine] {placements : List (String × Entry × List Int)}
    (inside : grid.Within menu.size)
    (done : (placements.foldlM (fun grid placement =>
      menu.place classes actor view base wanted grid placement) grid).run.run before = (.ok placed, after)) :
    placed.Within menu.size := by
  induction placements generalizing grid before with
  | nil =>
    cases done
    exact inside
  | cons placement placements ih =>
    rw [List.foldlM_cons] at done
    obtain ⟨middle, asked, one, others⟩ := run_bind_eq_ok_iff.mp done
    exact ih (within_of_place inside one) others

/-- What is drawn for a session lies inside the menu. The grid of a drawing begins empty. -/
theorem EngineState.within_of_drawing [Machine] {s : EngineState} {session : Session} {slots : Option (List SlotName)}
    {title : String} (drawn : (s.drawing session menu slots).run.run before = (.ok (title, grid), after)) :
    grid.Within menu.size := by
  unfold drawing at drawn
  obtain ⟨_, _, -, drawn⟩ := run_bind_eq_ok_iff.mp drawn
  obtain ⟨_, _, -, drawn⟩ := run_bind_eq_ok_iff.mp drawn
  obtain ⟨_, _, laid, same⟩ := run_bind_eq_ok_iff.mp drawn
  cases same
  obtain ⟨_, _, -, placed⟩ := Menu.built_of_layout laid
  have empty : Grid.Within [] menu.size := by
    intro slot item there
    cases there
  exact Menu.within_of_placeAll empty placed

/-- Drawing slots with what lies inside leaves what is drawn inside. A slot that is drawn gets what lies inside, or is
emptied. -/
theorem Surface.within_drawSlots {size : Int} {slots : List SlotName} {surface : Surface} (drawn : grid.Within size)
    (inside : surface.items.Within size) : (slots.foldl (drawSlot grid) surface).items.Within size := by
  induction slots generalizing surface with
  | nil => exact inside
  | cons name slots ih =>
    refine ih fun slot item there => ?_
    unfold drawSlot at there
    dsimp only at there
    split at there
    · rename_i new found
      change (surface.items.put name.slot new).get? slot = some item at there
      rw [OrderedMap.get?_put] at there
      split at there
      · rename_i same
        exact same ▸ drawn _ new found
      · exact inside slot item there
    · exact inside slot item (OrderedMap.of_get?_erase there).2

/-- Drawing on a surface with what lies inside leaves what is drawn inside, also if only some slots are drawn. -/
theorem Surface.within_draw {surface : Surface} {title : String} {slots : Option (List SlotName)}
    (drawn : grid.Within surface.size) (inside : surface.items.Within surface.size) :
    (surface.draw title grid slots).items.Within (surface.draw title grid slots).size := by
  rw [draw_size]
  cases slots with
  | none => exact drawn
  | some slots => exact within_drawSlots drawn inside

end

namespace EngineState

/-- The surface of every open menu that is found has the size of the menu. -/
def Sized (s : EngineState) : Prop :=
  ∀ key session surface menu, s.sessions.get? key = some session → s.screen.get? key = some surface →
    s.menu? session.menu = some menu → surface.size = menu.size

/-- Every item that is drawn is in a slot of the surface that it is drawn on. -/
def Contained (s : EngineState) : Prop :=
  ∀ key surface, s.screen.get? key = some surface → surface.items.Within surface.size

/-- The id of a menu finds a menu of the same size: the menu itself, unless the id is not looked up as it stands. -/
def SelfSized (s : EngineState) : Prop :=
  ∀ pair ∈ s.menus, ∀ menu ∈ s.menu? pair.2.id, menu.size = pair.2.size

/-- Other menus have the sizes of those that are open: a menu that an open session would find among them is as large as
the one that it finds now. -/
structure SameSizes (s : EngineState) (menus : OrderedMap String Menu) : Prop where
  found : ∀ pair ∈ s.sessions, ∀ menu ∈ { s with menus }.menu? pair.2.menu,
    (s.menu? pair.2.menu).map (·.size) = some menu.size
  selfSized : { s with menus }.SelfSized

/-- The menus are those given, what is drawn fits, and menus that are opened will fit. -/
structure Fitting (menus : OrderedMap String Menu) (s : EngineState) : Prop extends s.Seated where
  menus : s.menus = menus
  sized : s.Sized
  contained : s.Contained
  selfSized : s.SelfSized

namespace Fitting

variable {menus : OrderedMap String Menu} {s t : EngineState} {session : Session} {menu : Menu} {ref : Nat}
  {slots : Option (List SlotName)}

/-- What is drawn goes on fitting when sessions and surfaces end, and when sessions change in all but their menus.
Most changes are of this kind. -/
theorem fewer (fitting : s.Fitting menus) (seated : t.Seated) (same : t.menus = s.menus)
    (sessions : ∀ key session, t.sessions.get? key = some session →
      ∃ before, s.sessions.get? key = some before ∧ before.menu = session.menu)
    (screen : ∀ key surface, t.screen.get? key = some surface → s.screen.get? key = some surface) :
    t.Fitting menus where
  toSeated := seated
  menus := same.trans fitting.menus
  sized key session surface menu opened shows known := by
    obtain ⟨before, found, name⟩ := sessions key session opened
    rw [menu?_congr same, ← name] at known
    exact fitting.sized key before surface menu found (screen key surface shows) known
  contained key surface shows := fitting.contained key surface (screen key surface shows)
  selfSized pair member menu known := by
    rw [menu?_congr same] at known
    exact fitting.selfSized pair (same ▸ member) menu known

/-- A change elsewhere leaves what is drawn fitting, as menus, sessions and surfaces are the same. -/
theorem elsewhere (fitting : s.Fitting menus) (actors : t.actors = s.actors) (same : t.menus = s.menus)
    (sessions : t.sessions = s.sessions) (screen : t.screen = s.screen) : t.Fitting menus :=
  fitting.fewer (fitting.toSeated.congr actors sessions) same
    (fun key session opened => ⟨session, by rwa [sessions] at opened, rfl⟩)
    fun key surface shows => by rwa [screen] at shows

/-- When a session changes, but not its menu, what is drawn goes on fitting. Its page and its context do not bear on
sizes. -/
theorem adjusting (fitting : s.Fitting menus) (key : ActorKey) (change : Session → Session)
    (actor : ∀ session, (change session).actor = session.actor)
    (menu : ∀ session, (change session).menu = session.menu) :
    { s with sessions := s.sessions.adjust key change }.Fitting menus := by
  refine fitting.fewer (fitting.toSeated.adjusting key change actor) rfl (fun other session opened => ?_)
    fun _ _ shows => shows
  rcases OrderedMap.of_get?_adjust opened with ⟨-, before, found, rfl⟩ | ⟨-, found⟩
  · exact ⟨before, found, (menu before).symm⟩
  · exact ⟨session, found, rfl⟩

/-- When a session ends, nothing is asked of its surface any more. -/
theorem erasing (fitting : s.Fitting menus) (key : ActorKey) :
    { s with sessions := s.sessions.erase key }.Fitting menus := by
  refine fitting.fewer (fitting.toSeated.erasing key) rfl (fun other session opened => ?_) fun _ _ shows => shows
  exact ⟨session, (OrderedMap.of_get?_erase opened).2, rfl⟩

/-- Leaving a menu takes a surface away at most. The size of none is changed. -/
theorem keeps_tearDown : Keeps (Fitting menus) (tearDown session) := by
  intro s fitting
  have fewer (key : ActorKey) (surface : Surface)
      (shows : (s.leaving (s.actor session.actor).key).screen.get? key = some surface) :
      s.screen.get? key = some surface := by
    rw [leaving_screen] at shows
    split at shows
    · cases shows
    · exact shows
  have seated : (outcome (tearDown session) s).2.Seated := Seated.keeps_tearDown s fitting.toSeated
  rcases tearDown_cases session s with ⟨cause, done⟩ | ⟨cause, done⟩ | done | done
  · rw [done]
    exact fitting
  all_goals
    rw [done] at seated ⊢
    exact fitting.fewer seated rfl (fun _ session opened => ⟨session, opened, rfl⟩) fewer

/-- What is inside a menu is drawn on a surface of its size, and then it is inside the surface. -/
theorem drawing (fitting : s.Fitting menus) {key : ActorKey} {title : String} {grid : Grid}
    (size : ∀ surface, s.screen.get? key = some surface → surface.size = menu.size)
    (inside : grid.Within menu.size) : (s.drawn key title grid slots).Fitting menus := by
  have shown (other : ActorKey) (surface : Surface)
      (shows : (s.drawn key title grid slots).screen.get? other = some surface) :
      s.screen.get? other = some surface ∨
        ∃ before, s.screen.get? other = some before ∧ before.size = menu.size ∧
          surface = before.draw title grid slots := by
    rw [drawn_screen] at shows
    split at shows
    · rename_i isKey
      obtain ⟨before, found, same⟩ := Option.map_eq_some_iff.mp shows
      exact Or.inr ⟨before, found, size before (isKey ▸ found), same.symm⟩
    · exact Or.inl shows
  refine ⟨fitting.toSeated.congr rfl rfl, fitting.menus, ?_, ?_, fitting.selfSized⟩
  · intro other session surface found opened shows known
    rcases shown other surface shows with before | ⟨before, there, -, rfl⟩
    · exact fitting.sized other session surface found opened before known
    · rw [Surface.draw_size]
      exact fitting.sized other session before found opened there known
  · intro other surface shows
    rcases shown other surface shows with before | ⟨before, there, same, rfl⟩
    · exact fitting.contained other surface before
    · exact Surface.within_draw (same ▸ inside) (fitting.contained other before there)

/-- Drawing a menu on a surface of its size leaves what is drawn fitting, whether the drawing fails or not. -/
theorem render [Machine] (fitting : s.Fitting menus)
    (size : ∀ surface, s.screen.get? (s.actor session.actor).key = some surface → surface.size = menu.size) :
    (outcome (render session menu slots) s).2.Fitting menus := by
  obtain ⟨result, ledger, answer, ⟨cause, -, done⟩ | ⟨title, grid, -, rfl, done⟩⟩ :=
    render_cases session menu slots s
  · rw [done]
    exact fitting.elsewhere rfl rfl rfl rfl
  · rw [done]
    have before : { s with ledger }.Fitting menus := fitting.elsewhere rfl rfl rfl rfl
    exact before.drawing size (within_of_drawing answer)

/-- The surface of an open menu has its size. It is what lies on the screen under the key of the session's actor. -/
theorem size_of_session (fitting : s.Fitting menus) (opened : s.session? ref = some session)
    (known : s.menu? session.menu = some menu) (surface : Surface)
    (shows : s.screen.get? (s.actor session.actor).key = some surface) : surface.size = menu.size := by
  rw [fitting.key_of_session opened] at shows
  exact fitting.sized _ session surface menu opened shows known

/-- Drawing an open menu again leaves what is drawn fitting, as its surface has the right size. -/
theorem keeps_redraw [Machine] : Keeps (Fitting menus) (redraw ref slots) :=
  Engine.keeps_redraw fun _ _ _ _ opened known fitting => fitting.render (fitting.size_of_session opened known)

/-- Going to a page leaves what is drawn fitting: a page has the size of its menu. -/
theorem keeps_setPage [Machine] {page : Int} : Keeps (Fitting menus) (setPage ref page) := by
  apply Engine.keeps_setPage
  intro s session menu _ opened known _ fitting
  have turned : (s.turning ref page).Fitting menus := fitting.adjusting _ _ (fun _ => rfl) fun _ => rfl
  exact turned.render fun surface shows => fitting.size_of_session opened known surface shows

/-- Entering a menu that was found opens a surface of its size, and what is then drawn is inside. -/
theorem enter [Machine] {name : String} {context : Value} (fitting : s.Fitting menus)
    (known : s.menu? name = some menu) :
    (outcome (enter ref menu context) s).2.Fitting menus := by
  rcases keyOf_cases ref s with ⟨cause, failed⟩ | ⟨keyed, -⟩
  · rw [Engine.enter, outcome_bind_error _ failed]
    exact fitting
  · obtain ⟨pair, member, rfl⟩ := mem_of_menu? known
    have entered : (s.entering (s.actor ref).key ref pair.2 context).Fitting menus := by
      refine ⟨fitting.toSeated.entering keyed pair.2 context, fitting.menus, ?_, ?_, fitting.selfSized⟩
      · intro key session surface menu opened shows found
        rw [entering_sessions] at opened
        rw [entering_screen] at shows
        split at opened
        · rename_i isKey
          rw [if_pos isKey] at shows
          cases opened
          cases shows
          exact (fitting.selfSized pair member menu found).symm
        · rename_i other
          rw [if_neg other] at shows
          exact fitting.sized key session surface menu opened shows found
      · intro key surface shows
        rw [entering_screen] at shows
        split at shows
        · cases shows
          intro slot item there
          cases there
        · exact fitting.contained key surface shows
    rw [outcome_enter keyed]
    refine entered.render fun surface shows => ?_
    change (s.entering (s.actor ref).key ref pair.2 context).screen.get? (s.actor ref).key = some surface at shows
    rw [entering_screen, if_pos rfl] at shows
    cases shows
    rfl

/-- Opening a menu leaves what is drawn fitting, whatever was open before. -/
theorem keeps_openMenu [Machine] {name : String} {context : Value} {keep : Bool} :
    Keeps (Fitting menus) (openMenu ref name context keep) := by
  refine Engine.keeps_openMenu (fun _ _ fitting => fitting.elsewhere rfl rfl rfl rfl)
    (fun _ _ _ _ known _ fitting => fitting.enter known) ?_
  intro s menu session context _ known _ fitting
  have left : (outcome (tearDown session) s).2.Fitting menus := keeps_tearDown s fitting
  have same := (tearDown_same session s).1
  rcases leaves : outcome (tearDown session) s with ⟨cause | _, t⟩
  · rw [outcome_bind_error _ leaves]
    rwa [leaves] at left
  · rw [leaves] at left same
    rw [outcome_bind_ok _ leaves]
    exact left.enter ((menu?_congr same name).trans known)

/-- Closing a menu leaves what is drawn fitting for all that are left open. -/
theorem keeps_close : Keeps (Fitting menus) (close ref) :=
  Engine.keeps_close fun _ _ _ _ fitting => keeps_tearDown _ (fitting.erasing _)

/-- Whatever is done for one actor leaves what is drawn fitting. So only the operations that change menus are left to
be looked at. -/
theorem watched [Machine] : Watched (Fitting menus) fun _ => True where
  unmoved _ _ unmoved fitting := fitting.elsewhere unmoved.actors unmoved.menus unmoved.sessions unmoved.screen
  opened _ _ _ _ _ := keeps_openMenu
  closed _ := keeps_close
  turned _ _ := keeps_setPage
  redrawn _ _ := keeps_redraw
  updated _ _ := Engine.keeps_updateContext fun _ _ fitting =>
    fitting.adjusting _ _ (fun _ => rfl) fun _ => rfl

/-- All code of a host that changes no menus leaves what is drawn fitting. -/
theorem keeps_code [Machine] {α : Type} {x : Engine α} (code : HostCode HostCall.SparesMenus x) : Keeps
    (Fitting menus) x :=
  code.keeps (fun _ _ fitting => fitting.elsewhere rfl rfl rfl rfl) fun _ _ spares answers =>
    watched.run_sparing (fun _ _ _ _ fitting => fitting.elsewhere rfl rfl rfl rfl) spares (fun _ _ => trivial) answers

/-- Bringing a session in line with the menus leaves what is drawn fitting, if the menus have the sizes that they
had. -/
theorem keeps_reviveSession [Machine] : Keeps (Fitting menus) (reviveSession session) :=
  Engine.keeps_reviveSession keeps_close (fun _ _ fitting => fitting.adjusting _ _ (fun _ => rfl) fun _ => rfl)
    keeps_redraw

/-- Menus of the same sizes can be put in the place of those that were there. That the sizes are the same need only be
known of menus that are open. -/
theorem replaced {others : OrderedMap String Menu} (fitting : s.Fitting menus) (same : s.SameSizes others) :
    { s with menus := others }.Fitting others where
  toSeated := fitting.toSeated.congr rfl rfl
  menus := rfl
  sized key session surface menu opened shows known := by
    have size := same.found (key, session) (OrderedMap.mem_of_get? opened) menu known
    obtain ⟨before, found, isSize⟩ := Option.map_eq_some_iff.mp size
    exact (fitting.sized key session surface before opened shows found).trans isSize
  contained := fitting.contained
  selfSized := same.selfSized

/-- Removing a menu leaves what is drawn fitting, unless its id comes to stand for a menu of another size. -/
theorem unregistered {name : String} (fitting : s.Fitting menus)
    (same : s.SameSizes (outcome (unregisterMenu name) s).2.menus) :
    (outcome (unregisterMenu name) s).2.Fitting (outcome (unregisterMenu name) s).2.menus := by
  obtain rfl := fitting.menus
  cases known : s.menu? name with
  | none =>
    rw [outcome_unregisterMenu_none known]
    exact fitting
  | some menu =>
    have spared : Keeps (fun t => t.menus = s.menus.erase menu.id) (closeAll (·.menu == menu.id) s.sessions) := by
      refine keeps_closeAll fun _ => Engine.keeps_close fun t session _ _ same => ?_
      exact (tearDown_same session _).1.trans same
    have menus := spared { s with menus := s.menus.erase menu.id } rfl
    rw [outcome_unregisterMenu_some known, outcome_bind_answer, menus] at same ⊢
    exact keeps_closeAll (fun _ => keeps_close) _ (fitting.replaced same)

/-- Loading menus leaves what is drawn fitting if the open ones among them have the sizes that they had. -/
theorem loaded [Machine] {directory : String} {listing : Option FileListing} (fitting : s.Fitting menus)
    (same : s.SameSizes (outcome (loadMenus directory listing) s).2.menus) :
    (outcome (loadMenus directory listing) s).2.Fitting (outcome (loadMenus directory listing) s).2.menus := by
  have spared : Keeps (fun t => t.actors = s.actors ∧ t.sessions = s.sessions ∧ t.screen = s.screen)
      (loadMenus directory listing) :=
    keeps_loadMenus (fun _ _ same => same) (fun _ _ same => same) (fun _ => keeps_modify fun _ same => same) _ _
  obtain ⟨actors, sessions, screen⟩ := spared s ⟨rfl, rfl, rfl⟩
  exact (fitting.replaced same).elsewhere actors rfl sessions screen

/-- Reading the menus again leaves what is drawn fitting under the same condition. The sessions are then drawn on the
surfaces that they have. -/
theorem reloaded [Machine] {listing : Option FileListing} (fitting : s.Fitting menus)
    (same : s.SameSizes (outcome (reloadMenus listing) s).2.menus) :
    (outcome (reloadMenus listing) s).2.Fitting (outcome (reloadMenus listing) s).2.menus := by
  obtain rfl := fitting.menus
  rcases reloadMenus_cases listing s with ⟨ledger, read⟩ | ⟨loaded, ledger, -, replacing⟩
  · rw [read]
    exact fitting.elsewhere rfl rfl rfl rfl
  · rw [replacing, outcome_bind_answer, outcome_replaceMenus, reviveAll_menus] at same ⊢
    have before : { s with ledger }.Fitting s.menus := fitting.elsewhere rfl rfl rfl rfl
    have after : { s with ledger, menus := loaded }.Fitting loaded := before.replaced ⟨same.found, same.selfSized⟩
    exact keeps_reviveAll (fun _ => keeps_reviveSession) _ after

/-- Every operation that changes the menus leaves what is drawn fitting, if those that there are afterwards have the
same sizes. -/
theorem changed [Machine] (fitting : s.Fitting menus) {c : HostCall} {calling : Calling} (changes : ¬c.SparesMenus)
    (same : s.SameSizes (outcome (c.run calling) s).2.menus) :
    (outcome (c.run calling) s).2.Fitting (outcome (c.run calling) s).2.menus := by
  cases c with
  | registerMenu menu => exact fitting.replaced same
  | unregisterMenu name => exact fitting.unregistered same
  | loadMenus directory listing => exact fitting.loaded same
  | reloadMenus listing => exact fitting.reloaded same
  | _ => exact absurd trivial changes

end Fitting

end EngineState

section

variable {s t : EngineState} {menus : OrderedMap String Menu} {pair : ActorKey × Session} {menu : Menu}
  {result : Except Failure Unit}

/-- When menus were replaced, the sessions whose menus are among the new ones are still open, on surfaces of the same
sizes, whatever has become of the others. A session that has had its turn was drawn on the surface that it had, and
one that has not was not touched. -/
theorem Revived.still [Machine] (revived : Revived s menus t result) (seated : s.Seated) (member : pair ∈ s.sessions)
    (known : { s with menus }.menu? pair.2.menu = some menu) :
    ∃ session, t.sessions.get? pair.1 = some session ∧ session.menu = pair.2.menu ∧
      (t.screen.get? pair.1).map (·.size) = (s.screen.get? pair.1).map (·.size) := by
  have ofAligned (aligned : Aligned s menus pair t) : ∃ session, t.sessions.get? pair.1 = some session ∧
      session.menu = pair.2.menu ∧ (t.screen.get? pair.1).map (·.size) = (s.screen.get? pair.1).map (·.size) := by
    obtain ⟨opened, ledger, title, grid, -, shows⟩ := aligned.redrawn menu known
    refine ⟨_, opened, rfl, ?_⟩
    rw [shows, Option.map_map]
    exact congrArg (Option.map · _) (funext fun surface => surface.draw_size title grid none)
  cases revived with
  | finished aligned => exact ofAligned (aligned pair member)
  | @interrupted before waiting pair' cause split aligned stuck untouched =>
    rw [split] at member
    rcases List.mem_append.mp member with isBefore | rest
    · exact ofAligned (aligned pair isBefore)
    · rcases List.mem_cons.mp rest with rfl | behind
      · obtain ⟨opened, same, -⟩ := stuck.undrawn menu known
        exact ⟨_, opened, rfl, by rw [same]⟩
      · have isKey := seated.filed pair (split ▸ member)
        have opened := (untouched pair behind).session
        have surface := (untouched pair behind).surface
        rw [isKey] at opened surface
        refine ⟨pair.2, opened.trans ?_, rfl, by rw [surface]⟩
        exact OrderedMap.get?_of_mem seated.once (split ▸ member)

/-- When menus were replaced, the surfaces have the sizes of their menus exactly if the surfaces that there were have
the sizes of the new menus. The sessions that are gone had menus that are gone, and nothing is asked of them on either
side. -/
theorem Revived.sized_iff [Machine] (revived : Revived s menus t result) (seated : s.Seated)
    (replacing : Replacing s menus t) :
    t.Sized ↔ { s with menus }.Sized := by
  constructor
  case mp =>
    intro sized key session surface menu opened shows known
    obtain ⟨now, still, name, size⟩ := revived.still seated (OrderedMap.mem_of_get? opened) known
    rw [show s.screen.get? key = some surface from shows] at size
    obtain ⟨after, there, same⟩ := Option.map_eq_some_iff.mp size
    have found : t.menu? now.menu = some menu := by
      rw [name, replacing.menu?]
      exact known
    exact same.symm.trans (sized key now after menu still there found)
  case mpr =>
    intro sized key session surface menu opened shows known
    obtain ⟨before, page, member, rfl⟩ := replacing.sessions key session opened
    rw [replacing.menu?] at known
    obtain ⟨-, -, -, size⟩ := revived.still seated member known
    rw [shows] at size
    obtain ⟨earlier, there, same⟩ := Option.map_eq_some_iff.mp size.symm
    have opened := OrderedMap.get?_of_mem seated.once member
    exact same.symm.trans (sized key before earlier menu opened there known)

end

/-- When the menus are read again, the surfaces have the sizes of their menus afterwards exactly if the surfaces that
there were have the sizes of the menus that there are then. If the menus cannot be read they are those of before, and
nothing has changed. -/
theorem EngineState.Seated.sized_reloadMenus_iff [Machine] {s : EngineState} (seated : s.Seated)
    (listing : Option FileListing) :
    (outcome (reloadMenus listing) s).2.Sized ↔
      { s with menus := (outcome (reloadMenus listing) s).2.menus }.Sized := by
  rcases reloadMenus_cases listing s with ⟨ledger, read⟩ | ⟨loaded, ledger, -, replaced⟩
  · rw [read]
    exact Iff.rfl
  · have before : { s with ledger }.Seated := seated.congr rfl rfl
    obtain ⟨result, t, done, replacing, revived⟩ := revived_of_replaceMenus before loaded
    rw [replaced, outcome_bind_answer, done, replacing.menus]
    exact revived.sized_iff before replacing

/-- The states that are reached by operations of which those that change the menus leave the sizes of open menus as
they are. -/
inductive FitRun [Machine] (first : EngineState) : EngineState → Prop where
  | here : FitRun first first
  | called {s : EngineState} (before : FitRun first s) (c : HostCall) (calling : Calling)
      (code : HostCode HostCall.SparesMenus (c.run calling)) : FitRun first (outcome (c.run calling) s).2
  | changed {s : EngineState} (before : FitRun first s) (c : HostCall) (calling : Calling)
      (changes : ¬c.SparesMenus) (same : s.SameSizes (outcome (c.run calling) s).2.menus) :
      FitRun first (outcome (c.run calling) s).2

/-- In all states of a run that changes no sizes what is drawn fits. The induction is on the run. -/
theorem FitRun.fitting [Machine] {first s : EngineState} (idle : first.sessions = []) (blank : first.screen = [])
    (own : first.SelfSized) (run : FitRun first s) : s.Fitting s.menus := by
  induction run with
  | here =>
    refine ⟨.of_idle idle, rfl, fun key session surface menu opened => ?_, fun key surface shows => ?_, own⟩
    · rw [idle] at opened
      cases opened
    · rw [blank] at shows
      cases shows
  | called _ c calling code fitting =>
    have after := EngineState.Fitting.keeps_code code _ fitting
    rw [after.menus]
    exact after
  | changed _ c calling changes same fitting => exact fitting.changed changes same

/-- As long as no operation changes the size of an open menu, every surface has the size of its menu, and every item
that is drawn is in a slot of its surface. Surfaces are never resized: in whatever state the menus are read again, the
surfaces have the sizes of their menus afterwards exactly if the surfaces that there were have the sizes of the menus
that there are then.

Proof: by the invariant `Fitting`. A surface is opened in the size of its menu and keeps it, and a drawing has items
in slots of the menu only. A reading of the menus leaves a surface as large as it was, so afterwards its size is right
exactly if it was that of the menu that is there now. -/
theorem surfaces_fit [Machine] {first : EngineState} (idle : first.sessions = []) (blank : first.screen = [])
    (own : first.SelfSized) :
    (∀ s, FitRun first s → s.Sized ∧ s.Contained) ∧
      ∀ permitted s, Reaches permitted first s → ∀ listing,
        (outcome (reloadMenus listing) s).2.Sized ↔
          { s with menus := (outcome (reloadMenus listing) s).2.menus }.Sized := by
  constructor
  · intro s run
    have fitting := run.fitting idle blank own
    exact ⟨fitting.sized, fitting.contained⟩
  · intro permitted s run listing
    have seated : s.Seated := .of_reaches idle run
    exact seated.sized_reloadMenus_iff listing

/-- An engine with one actor and no menus. -/
def stall : EngineState where
  config := {}
  actors := [{ id := .text "ann", name := .text "Ann" }]
  legacyHandlers := { name := "legacy", scopes := [.actor, .menu, .everywhere] }
  contextHandlers := { name := "context", scopes := [.menu, .everywhere] }

/-- A directory with one menu. -/
def stallListing (document : String) : Option FileListing :=
  some [("shop.json", .text document.toList)]

/-- The stall with the menu that a document describes. -/
def stallWith [Machine] (document : String) : EngineState :=
  (outcome (loadMenus "menus" (stallListing document)) stall).2

/-- The stall when the actor has opened a menu of one row. -/
def openStall [Machine] : EngineState :=
  (outcome (openMenu 0 "shop" .null false) (stallWith "\x7b\"size\": 9\x7d")).2

/-- The menu of one row is read again, now with a door in it. -/
def furnishedStall [Machine] : EngineState :=
  (outcome (reloadMenus (stallListing
    "\x7b\"size\": 9, \"items\": \x7b\"door\": \x7b\"material\": \"DOOR\", \"slot\": 2\x7d\x7d\x7d")) openStall).2

/-- The menu is read again with six rows, and with the door in the third. -/
def outgrownStall [Machine] : EngineState :=
  (outcome (reloadMenus (stallListing
    "\x7b\"size\": 54, \"items\": \x7b\"door\": \x7b\"material\": \"DOOR\", \"slot\": 20\x7d\x7d\x7d")) openStall).2

end

/-- The door that was read again for the menu of one row is in one of its slots. Whether the one for six rows is in one
of those that there are is a matter of the surface that was open before. -/
theorem fits_furnishedStall :
    furnishedStall.Sized ∧ furnishedStall.Contained ∧
      (furnishedStall.screen.get? (.text "ann")).map (fun surface => (surface.size, surface.items.map (·.1))) =
        some (9, [2]) ∧
      (outgrownStall.Sized ↔ { openStall with menus := outgrownStall.menus }.Sized) := by
  have loaded : FitRun stall (stallWith "\x7b\"size\": 9\x7d") := by
    refine .changed .here (.loadMenus "menus" (stallListing "\x7b\"size\": 9\x7d")) call (fun spares => spares) ?_
    constructor
    · intro pair member
      cases member
    · unfold EngineState.SelfSized
      decide +kernel
  have opened : FitRun stall openStall :=
    loaded.called (.openMenu 0 "shop" .null false) call (.scripted _ trivial fun _ _ c own => own.sparesMenus)
  have furnished : FitRun stall furnishedStall := by
    refine opened.changed (.reloadMenus (stallListing _)) call (fun spares => spares) ?_
    constructor
    · decide +kernel
    · unfold EngineState.SelfSized
      decide +kernel
  have may (c : HostCall) : HostCode (fun _ => True) (c.run call) := .scripted c trivial fun _ _ _ _ => trivial
  have stocked : Reaches (fun _ => True) stall (stallWith "\x7b\"size\": 9\x7d") :=
    .after .here (.loadMenus "menus" (stallListing "\x7b\"size\": 9\x7d")) call (may _)
  have entered : Reaches (fun _ => True) stall openStall :=
    stocked.after (.openMenu 0 "shop" .null false) call (may _)
  have own : stall.SelfSized := fun pair member => by cases member
  obtain ⟨fits, sized_iff⟩ := surfaces_fit rfl rfl own
  obtain ⟨sized, contained⟩ := fits furnishedStall furnished
  exact ⟨sized, contained, by decide +kernel, sized_iff _ openStall entered _⟩

/-- With six rows the door is drawn beside the surface, which still has one. So a size that changes while a menu is
open does spoil what is drawn. -/
theorem outside_outgrownStall :
    (outgrownStall.screen.get? (.text "ann")).map (fun surface => (surface.size, surface.items.map (·.1))) =
        some (9, [20]) ∧
      ((outgrownStall.session? 0).bind fun session => outgrownStall.menu? session.menu).map (·.size) = some 54 := by
  decide +kernel

end ChestMenu
