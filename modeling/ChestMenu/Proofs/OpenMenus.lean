import ChestMenu.Proofs.Isolation
import ChestMenu.Proofs.Naming
import ChestMenu.Proofs.Reloading

/-!
# Open menus and registered ones

A session keeps the id of its menu and not the menu itself, so whatever is done for the session begins by looking the
id up again, as a name. That finds the menu that was opened exactly if the id is not itself the name of a menu file:
of such an id the ending is cut off, and another menu is found or none.

Menus that are registered or loaded take nothing away. A reading that comes to its end closes every session whose menu
is gone. A menu that is removed has those sessions closed that have its very id; one that differs in case, as a
session may after a reading, is left behind, and so are those behind a session that cannot be closed.
-/
namespace ChestMenu

open Engine

section

namespace EngineState

variable {s t : EngineState} {name : String} {menu : Menu}

/-- Which menu a name stands for depends on the menus only. It is found by the key of the name, in the order in which
the menus are kept. -/
theorem menu?_congr (same : t.menus = s.menus) (name : String) : t.menu? name = s.menu? name := by
  unfold menu?
  rw [same]

/-- A menu that a name finds is registered, under its own id. The id may differ from the name in its case, and by the
ending of a file. -/
theorem get?_of_menu? (own : s.OwnIds) (known : s.menu? name = some menu) :
    s.menus.get? menu.id = some menu := by
  rcases (menu?_eq_some_iff own).mp known with exact | ⟨absent, before, after, split, isKey, apart⟩
  · rwa [own _ _ exact]
  · have others : ∀ pair ∈ before, pair.1 ≠ menu.id := by
      intro pair member same
      apply apart pair member
      rw [same, isKey]
    rw [split, OrderedMap.get?_append others]
    exact if_pos rfl

/-- The id of a menu finds the menu exactly if it is not the name of a menu file. An id that looks like a file has its
ending cut off when it is asked for, and so stands for another id. -/
theorem menu?_id_iff (own : s.OwnIds) (registered : s.menus.get? menu.id = some menu) :
    s.menu? menu.id = some menu ↔ MenuName.isMenuFile menu.id = false := by
  constructor
  · intro known
    rw [← Bool.not_eq_true]
    intro isFile
    have sameKey := key_of_menu? own known
    exact absurd sameKey.symm (MenuName.key_toId_ne isFile)
  · intro isId
    have same : MenuName.toId menu.id = menu.id := by simp [MenuName.toId, isId]
    refine (menu?_eq_some_iff own).mpr (Or.inl ?_)
    rw [same]
    exact registered

/-- A menu that is found under a name is found under it still if a menu is put under an id. It may be another menu
then, as two ids can have one key. -/
theorem isSome_menu?_put {id : String} (known : (s.menu? name).isSome = true) :
    ({ s with menus := s.menus.put id menu }.menu? name).isSome = true := by
  obtain ⟨pair, member, same⟩ := isSome_menu?_iff.mp known
  have has : (s.menus.put id menu).has pair.1 = true := by
    rw [OrderedMap.has, OrderedMap.get?_put]
    split
    · rfl
    · exact OrderedMap.has_of_mem member
  obtain ⟨value, found⟩ := Option.isSome_iff_exists.mp has
  exact isSome_menu?_iff.mpr ⟨(pair.1, value), OrderedMap.mem_of_get? found, same⟩

/-- It is found still if another menu is removed than the one that it stands for. The other may have an id with the
same key, and then it is of importance which of them the name stands for. -/
theorem isSome_menu?_erase (own : s.OwnIds) {other : Menu} (known : s.menu? name = some menu)
    (removed : s.menus.get? other.id = some other) (apart : menu ≠ other) :
    ({ s with menus := s.menus.erase other.id }.menu? name).isSome = true := by
  have registered := get?_of_menu? own known
  have different : other.id ≠ menu.id := by
    intro same
    rw [← same, removed] at registered
    exact apart (Option.some.inj registered).symm
  have stays : (s.menus.erase other.id).get? menu.id = some menu := by
    rwa [OrderedMap.get?_erase, if_neg different]
  exact isSome_menu?_iff.mpr ⟨(menu.id, menu), OrderedMap.mem_of_get? stays, key_of_menu? own known⟩

end EngineState

/-- Sessions are filed under the keys of their actors, menus under their own ids, and the menu of every session is
found. -/
structure InTouch (first s : EngineState) : Prop where
  filed : Filed first s
  own : s.OwnIds
  known : ∀ key session, s.sessions.get? key = some session → (s.menu? session.menu).isSome = true

namespace InTouch

variable {first s t : EngineState}

/-- Sessions for the menus of those that were there are in touch with them still. So sessions may end, and may change
in all but their menus. -/
theorem of_sessions (inTouch : InTouch first s) (filed : Filed first t) (menus : t.menus = s.menus)
    (sessions : ∀ key session, t.sessions.get? key = some session →
      ∃ before, s.sessions.get? key = some before ∧ before.menu = session.menu) : InTouch first t where
  filed
  own := by
    unfold EngineState.OwnIds
    rw [menus]
    exact inTouch.own
  known key session opened := by
    obtain ⟨before, found, same⟩ := sessions key session opened
    rw [EngineState.menu?_congr menus, ← same]
    exact inTouch.known key before found

/-- A change elsewhere leaves every session in touch with its menu. -/
theorem elsewhere (inTouch : InTouch first s) (actors : t.actors = s.actors) (menus : t.menus = s.menus)
    (sessions : t.sessions = s.sessions) : InTouch first t :=
  inTouch.of_sessions (inTouch.filed.of_subset actors fun pair member => by rwa [sessions] at member) menus
    fun key session opened => ⟨session, by rwa [sessions] at opened, rfl⟩

/-- Registering a menu leaves every session in touch, as no menu goes by it. -/
theorem keeps_registerMenu {menu : Menu} : Keeps (InTouch first) (registerMenu menu) := by
  refine keeps_modify fun s inTouch => ⟨inTouch.filed.of_subset rfl fun _ member => member, ?_, ?_⟩
  · intro id other found
    change (s.menus.put menu.id menu).get? id = some other at found
    rw [OrderedMap.get?_put] at found
    split at found
    · rename_i same
      cases found
      exact same
    · exact inTouch.own id other found
  · exact fun key session opened => EngineState.isSome_menu?_put (inTouch.known key session opened)

/-- Loading menus leaves every session in touch, as they are registered one after another. -/
theorem keeps_loadMenus [Machine] (directory : String) (listing : Option FileListing) :
    Keeps (InTouch first) (loadMenus directory listing) :=
  Engine.keeps_loadMenus (fun _ _ inTouch => inTouch.elsewhere rfl rfl rfl)
    (fun _ _ inTouch => inTouch.elsewhere rfl rfl rfl) (fun _ => keeps_registerMenu) directory listing

/-- Closing a menu leaves every session in touch that is left. -/
theorem keeps_close {ref : Nat} : Keeps (InTouch first) (close ref) := by
  apply Engine.keeps_close
  intro s session keyed opened inTouch
  have same := tearDown_same session { s with sessions := s.sessions.erase (s.actor ref).key }
  have filed : Filed first { s with sessions := s.sessions.erase (s.actor ref).key } :=
    inTouch.filed.of_subset rfl fun _ member => (OrderedMap.mem_erase member).1
  refine inTouch.of_sessions (Filed.keeps_tearDown _ filed) same.1 fun key other there => ?_
  rw [same.2.1] at there
  exact ⟨other, (OrderedMap.of_get?_erase there).2, rfl⟩

/-- Drawing a menu again leaves every session in touch, also if the drawing fails. -/
theorem keeps_redraw [Machine] {ref : Nat} {slots : Option (List SlotName)} : Keeps (InTouch first)
    (redraw ref slots) := by
  intro s inTouch
  obtain ⟨menus, sessions, actors⟩ := redraw_same ref slots s
  exact inTouch.elsewhere actors menus sessions

/-- Bringing a session in line with the menus that are there leaves every session in touch. -/
theorem keeps_reviveSession [Machine] {session : Session} : Keeps (InTouch first) (reviveSession session) := by
  refine Engine.keeps_reviveSession keeps_close (fun s key inTouch => ?_) keeps_redraw
  refine inTouch.of_sessions (inTouch.filed.adjusting key _ fun _ => rfl) rfl fun other session there => ?_
  rcases OrderedMap.of_get?_adjust there with ⟨-, before, found, rfl⟩ | ⟨-, found⟩
  · exact ⟨before, found, rfl⟩
  · exact ⟨session, found, rfl⟩

/-- Entering a menu whose id finds it makes a session that is in touch. -/
theorem keeps_enter [Machine] {menus : OrderedMap String Menu} {ref : Nat} {menu : Menu} {context : Value}
    (isId : MenuName.isMenuFile menu.id = false) (registered : menus.get? menu.id = some menu) :
    Keeps (fun t => InTouch first t ∧ t.menus = menus) (enter ref menu context) := by
  unfold enter
  apply keeps_keyOf_bind
  rintro s keyed ⟨inTouch, rfl⟩
  rw [outcome_bind_ok _ (outcome_get s), outcome_bind_ok _ (outcome_set _ s)]
  obtain ⟨sameMenus, sameSessions, sameActors, -⟩ := render_same (s.newSession ref menu context) menu none
    (s.entering (s.actor ref).key ref menu context)
  refine ⟨InTouch.elsewhere (s := s.entering (s.actor ref).key ref menu context)
    ⟨inTouch.filed.entering ref menu context, inTouch.own, fun key session there => ?_⟩
    sameActors sameMenus sameSessions, sameMenus⟩
  rw [s.entering_sessions] at there
  split at there
  · cases there
    have known := (EngineState.menu?_id_iff inTouch.own registered).mpr isId
    exact Option.isSome_iff_exists.mpr ⟨menu, known⟩
  · exact inTouch.known key session there

/-- Opening a menu leaves every session in touch, if the id of the menu finds it. Otherwise the new session would not
be. -/
theorem openMenu [Machine] {ref : Nat} {name : String} {context : Value} {keep : Bool} (inTouch : InTouch first s)
    (isId : ∀ menu, s.menu? name = some menu → MenuName.isMenuFile menu.id = false) :
    InTouch first (outcome (Engine.openMenu ref name context keep) s).2 := by
  have kept : Keeps (fun t => InTouch first t ∧ t.menus = s.menus) (Engine.openMenu ref name context keep) := by
    have entered (t : EngineState) (menu : Menu) (context : Value) (known : t.menu? name = some menu)
        (holds : InTouch first t ∧ t.menus = s.menus) :
        Keeps (fun t => InTouch first t ∧ t.menus = s.menus) (enter ref menu context) := by
      have registered := EngineState.get?_of_menu? holds.1.own known
      rw [holds.2] at registered
      rw [EngineState.menu?_congr holds.2] at known
      exact keeps_enter (isId menu known) registered
    apply Engine.keeps_openMenu
    · exact fun _ _ holds => ⟨holds.1.elsewhere rfl rfl rfl, holds.2⟩
    · exact fun t menu context _ known _ holds => entered t menu context known holds t holds
    · intro t menu session context _ known _ holds
      refine keeps_bind (fun u before => ?_) (fun _ => entered t menu context known holds) t holds
      obtain ⟨menus, sessions, actors⟩ := tearDown_same session u
      exact ⟨before.1.elsewhere actors menus sessions, menus.trans before.2⟩
  exact (kept s ⟨inTouch, rfl⟩).1

end InTouch

/-- Sessions are being brought in line with menus that are new. The menu of each session is found, or the session is
still among those that remain, on another page at most. -/
structure Aligning (first : EngineState) (menus : OrderedMap String Menu) (remaining : Sessions) (s : EngineState) :
    Prop where
  filed : Filed first s
  menus : s.menus = menus
  waiting : ∀ pair ∈ remaining, (first.actor pair.2.actor).key = pair.1
  known : ∀ key session, s.sessions.get? key = some session →
    (s.menu? session.menu).isSome = true ∨ ∃ before, (key, before) ∈ remaining ∧ before.menu = session.menu

namespace Aligning

variable {first s t : EngineState} {menus : OrderedMap String Menu} {remaining : Sessions}

/-- Once the first of the sessions that remain is brought in line, the others remain, and it is in touch or gone. -/
theorem step [Machine] {pair : ActorKey × Session} (aligning : Aligning first menus (pair :: remaining) s)
    (revived : outcome (reviveSession pair.2) s = (.ok (), t)) : Aligning first menus remaining t := by
  obtain ⟨sameMenus, -, -⟩ := ok_reviveSession revived
  have filed := Filed.upheld.revived pair.2 s aligning.filed
  rw [revived] at filed
  have isKey : (s.actor pair.2.actor).key = pair.1 := by
    rw [aligning.filed.actor]
    exact aligning.waiting pair List.mem_cons_self
  refine ⟨filed, sameMenus.trans aligning.menus,
    fun other member => aligning.waiting other (List.mem_cons_of_mem _ member), fun key session opened => ?_⟩
  -- A session that was there is found, or remains, or is the one that was brought in line.
  have asBefore {before : Session} (found : s.sessions.get? key = some before) :
      ((t.menu? before.menu).isSome = true ∨
          ∃ other, (key, other) ∈ remaining ∧ other.menu = before.menu) ∨
        key = pair.1 ∧ before.menu = pair.2.menu := by
    rcases aligning.known key before found with known | ⟨other, member, same⟩
    · exact Or.inl (Or.inl (by rwa [EngineState.menu?_congr sameMenus]))
    · rcases List.mem_cons.mp member with isFirst | later
      · cases isFirst
        exact Or.inr ⟨rfl, same.symm⟩
      · exact Or.inl (Or.inr ⟨other, later, same⟩)
  rcases session_of_reviveSession revived isKey opened with
    ⟨found, other⟩ | ⟨menu, before, known, found, changed⟩
  · rcases asBefore found with settled | ⟨isFirst, -⟩
    · exact settled
    · exact absurd isFirst other
  · have sameMenu : session.menu = before.menu := by
      rcases changed with rfl | ⟨rfl, -⟩
      · rfl
      · rfl
    rw [sameMenu]
    rcases asBefore found with settled | ⟨-, same⟩
    · exact settled
    · left
      rw [EngineState.menu?_congr sameMenus, same, known]
      rfl

/-- Once all of them are brought in line, the menu of every session is found among the new ones. -/
theorem done [Machine] (aligning : Aligning first menus remaining s)
    (revived : outcome (reviveAll remaining) s = (.ok (), t))
    (own : ∀ id menu, menus.get? id = some menu → menu.id = id) : InTouch first t := by
  have none := of_reviveAll (fun _ _ _ _ aligning one => aligning.step one) aligning revived
  refine ⟨none.filed, ?_, fun key session opened => ?_⟩
  · unfold EngineState.OwnIds
    rw [none.menus]
    exact own
  · rcases none.known key session opened with known | ⟨_, member, -⟩
    · exact known
    · cases member

end Aligning

namespace InTouch

variable {first s t : EngineState}

/-- When the menus are replaced, all sessions remain to be brought in line, as any of them may have lost its menu. -/
theorem aligning (inTouch : InTouch first s) (menus : OrderedMap String Menu) :
    Aligning first menus s.sessions { s with menus } where
  filed := inTouch.filed.of_subset rfl fun _ member => member
  menus := rfl
  waiting pair member := by
    have filed := inTouch.filed.filed pair.1 pair.2 member
    rwa [inTouch.filed.actor] at filed
  known _ session opened := Or.inr ⟨session, OrderedMap.mem_of_get? opened, rfl⟩

/-- Reading the menus again leaves every session in touch, if it comes to its end or leaves the menus as they were. If
it breaks off in the middle, sessions behind may have lost their menus. -/
theorem reloaded [Machine] (inTouch : InTouch first s) {listing : Option FileListing}
    (settled : (∃ loaded, (outcome (reloadMenus listing) s).1 = .ok loaded) ∨
      (outcome (reloadMenus listing) s).2.menus = s.menus) :
    InTouch first (outcome (reloadMenus listing) s).2 := by
  rcases reloadMenus_cases listing s with ⟨ledger, read⟩ | ⟨loaded, ledger, areLoaded, replacing⟩
  · rw [read]
    exact inTouch.elsewhere rfl rfl rfl
  have before : InTouch first { s with ledger } := inTouch.elsewhere rfl rfl rfl
  rw [replacing] at settled ⊢
  rcases settled with ⟨answer, answered⟩ | same
  · obtain ⟨_, t, done, last⟩ := ok_of_outcome_bind (Prod.ext answered rfl)
    cases congrArg Prod.snd last
    rw [outcome_replaceMenus] at done
    exact (before.aligning loaded).done done fun id menu found =>
      (areLoaded (id, menu) (OrderedMap.mem_of_get? found)).own
  · rw [outcome_bind_answer, outcome_replaceMenus] at same ⊢
    -- The menus are the same again, so no session was out of touch at any time.
    have menus : loaded = s.menus := (reviveAll_menus s.sessions { s with ledger, menus := loaded }).symm.trans same
    have kept : Keeps (InTouch first) (reviveAll s.sessions) := keeps_reviveAll fun _ => keeps_reviveSession
    exact kept { s with ledger, menus := loaded } (before.elsewhere rfl menus rfl)

end InTouch

namespace Engine

variable {s t : EngineState} {name : String} {menu : Menu} {p : Session → Bool}

/-- Closes those of several sessions that have a property, one after another. -/
def closeAll (p : Session → Bool) (sessions : Sessions) : Engine Unit := do
  for (_, session) in sessions do
    if p session then
      let _ ← close session.actor

/-- Sessions are closed from the first to the last. One without the property is passed over. -/
theorem closeAll_cons (p : Session → Bool) (pair : ActorKey × Session) (sessions : Sessions) :
    closeAll p (pair :: sessions) =
      if p pair.2 then (close pair.2.actor >>= fun _ => closeAll p sessions) else closeAll p sessions := by
  unfold closeAll
  simp only [List.forIn_cons, bind_assoc]
  split <;> simp only [bind_assoc, pure_bind]

/-- Closing sessions keeps what closing each of them keeps. The induction is on the list. -/
theorem keeps_closeAll {P : EngineState → Prop} {sessions : Sessions} (closed : ∀ ref, Keeps P (close ref)) :
    Keeps P (closeAll p sessions) := by
  induction sessions with
  | nil => exact keeps_pure ()
  | cons pair rest ih =>
    rw [closeAll_cons]
    split
    · exact keeps_bind (closed _) fun _ => ih
    · exact ih

/-- If no menu is found, none is removed. No session is looked at then. -/
theorem outcome_unregisterMenu_none (unknown : s.menu? name = none) :
    outcome (unregisterMenu name) s = (.ok none, s) := by
  unfold unregisterMenu
  rw [outcome_bind_ok _ (outcome_get s), unknown]
  rfl

/-- Otherwise the menu is taken away, and the sessions with its very id are closed. A session with the id in another
case is not among these. -/
theorem outcome_unregisterMenu_some (known : s.menu? name = some menu) :
    outcome (unregisterMenu name) s =
      outcome (closeAll (·.menu == menu.id) s.sessions >>= fun _ => pure (some menu))
        { s with menus := s.menus.erase menu.id } := by
  unfold unregisterMenu
  rw [outcome_bind_ok _ (outcome_get s), known]
  rfl

end Engine

/-- Sessions with a property are being closed. Those that are there were there before, and if they have the property
they are still among those that remain. -/
structure Sweeping (s : EngineState) (p : Session → Bool) (remaining : Sessions) (t : EngineState) : Prop where
  menus : t.menus = s.menus
  actors : t.actors = s.actors
  waiting : ∀ pair ∈ remaining, (s.actor pair.2.actor).key = pair.1
  sessions : ∀ key session, t.sessions.get? key = some session →
    s.sessions.get? key = some session ∧ (p session = true → (key, session) ∈ remaining)

namespace Sweeping

variable {s t u : EngineState} {p : Session → Bool} {remaining : Sessions}

/-- Once the first of the sessions that remain is closed, or is left because it has not the property, the others
remain. -/
theorem step {pair : ActorKey × Session} (sweeping : Sweeping s p (pair :: remaining) t)
    (same : u.menus = t.menus ∧ u.actors = t.actors)
    (closed : ∀ key session, u.sessions.get? key = some session →
      t.sessions.get? key = some session ∧ (p session = true → (key, session) ≠ pair)) :
    Sweeping s p remaining u where
  menus := same.1.trans sweeping.menus
  actors := same.2.trans sweeping.actors
  waiting other member := sweeping.waiting other (List.mem_cons_of_mem _ member)
  sessions key session there := by
    obtain ⟨before, other⟩ := closed key session there
    obtain ⟨found, waits⟩ := sweeping.sessions key session before
    refine ⟨found, fun has => ?_⟩
    rcases List.mem_cons.mp (waits has) with isFirst | later
    · exact absurd isFirst (other has)
    · exact later

/-- Once all of them had their turns, no session with the property is there. -/
theorem done (sweeping : Sweeping s p remaining t) (closed : outcome (closeAll p remaining) t = (.ok (), u)) :
    Sweeping s p [] u := by
  induction remaining generalizing t with
  | nil =>
    cases closed
    exact sweeping
  | cons pair rest ih =>
    rw [closeAll_cons] at closed
    split at closed
    · obtain ⟨answer, v, one, others⟩ := ok_of_outcome_bind closed
      obtain ⟨menus, sessions, actors⟩ := ok_close one
      have isKey : (t.actor pair.2.actor).key = pair.1 := by
        rw [EngineState.actor, sweeping.actors]
        exact sweeping.waiting pair List.mem_cons_self
      refine ih (sweeping.step ⟨menus, actors⟩ fun key session there => ?_) others
      rw [sessions, isKey] at there
      obtain ⟨other, found⟩ := OrderedMap.of_get?_erase there
      exact ⟨found, fun _ isFirst => other (congrArg Prod.fst isFirst).symm⟩
    · rename_i lacks
      refine ih (sweeping.step ⟨rfl, rfl⟩ fun key session there => ⟨there, ?_⟩) closed
      rintro has rfl
      exact lacks has

end Sweeping

/-- Sessions with a property can be closed, one after another, if every actor who has a menu open can leave. The
induction is on the list, and who can leave at the beginning can leave throughout. -/
theorem Replacing.closeAll_answers {s t : EngineState} {menus : OrderedMap String Menu}
    (replacing : Replacing s menus t) (p : Session → Bool) (leavable : s.Leavable) (sessions : Sessions)
    (subset : ∀ pair ∈ sessions, pair ∈ s.sessions) :
    ∃ u, outcome (closeAll p sessions) t = (.ok (), u) := by
  induction sessions generalizing t with
  | nil => exact ⟨t, rfl⟩
  | cons pair rest ih =>
    have others : ∀ other ∈ rest, other ∈ s.sessions :=
      fun other member => subset other (List.mem_cons_of_mem _ member)
    rw [closeAll_cons]
    split
    · have keyed := (replacing.canLeave (leavable pair (subset pair List.mem_cons_self))).keyed
      obtain ⟨answer, u, closed, after⟩ := replacing.close_answers leavable keyed
      rw [outcome_bind_ok _ closed]
      exact ih after others
    · exact ih replacing others

/-- Removing a menu comes to its end if every actor who has a menu open can leave. It is answered which menu was
removed, or that there was none. -/
theorem EngineState.Leavable.unregisterMenu_answers {s : EngineState} (leavable : s.Leavable) (name : String) :
    ∃ answer, (outcome (unregisterMenu name) s).1 = .ok answer := by
  cases known : s.menu? name with
  | none => exact ⟨none, congrArg Prod.fst (outcome_unregisterMenu_none known)⟩
  | some menu =>
    rw [outcome_unregisterMenu_some known]
    obtain ⟨u, closed⟩ := (Replacing.start s (s.menus.erase menu.id)).closeAll_answers (·.menu == menu.id)
      leavable s.sessions fun _ member => member
    exact ⟨some menu, congrArg Prod.fst (outcome_bind_ok _ closed)⟩

/-- Every session for the menu that a name stands for has the very id of the menu. -/
def EngineState.NamedExactly (s : EngineState) (name : String) : Prop :=
  ∀ menu, s.menu? name = some menu → ∀ key session, s.sessions.get? key = some session →
    s.menu? session.menu = some menu → session.menu = menu.id

/-- Removing a menu leaves every session in touch, if it comes to its end and the sessions for the menu have its very
id. Sessions that have its id in another case would be left behind. -/
theorem InTouch.unregistered [Machine] {first s : EngineState} (inTouch : InTouch first s) {name : String}
    (exactly : s.NamedExactly name) (answers : ∃ answer, (outcome (unregisterMenu name) s).1 = .ok answer) :
    InTouch first (outcome (unregisterMenu name) s).2 := by
  cases known : s.menu? name with
  | none =>
    rw [outcome_unregisterMenu_none known]
    exact inTouch
  | some removed =>
    obtain ⟨answer, answered⟩ := answers
    have filed := Filed.upheld.unregistered name s inTouch.filed
    rw [outcome_unregisterMenu_some known] at answered filed ⊢
    obtain ⟨_, t, closed, last⟩ := ok_of_outcome_bind (Prod.ext answered rfl)
    have isLast : _ = t := (congrArg Prod.snd last).symm
    rw [isLast] at filed ⊢
    have waiting : ∀ pair ∈ s.sessions, (s.actor pair.2.actor).key = pair.1 := fun pair =>
      inTouch.filed.filed pair.1 pair.2
    have swept := Sweeping.done (s := { s with menus := s.menus.erase removed.id })
      ⟨rfl, rfl, waiting, fun key session there => ⟨there, fun _ => OrderedMap.mem_of_get? there⟩⟩ closed
    have registered : s.menus.get? removed.id = some removed := EngineState.get?_of_menu? inTouch.own known
    refine ⟨filed, fun id menu found => ?_, fun key session there => ?_⟩
    · rw [swept.menus] at found
      exact inTouch.own id menu (OrderedMap.of_get?_erase found).2
    · obtain ⟨opened, lacks⟩ := swept.sessions key session there
      have opened : s.sessions.get? key = some session := opened
      obtain ⟨menu, isMenu⟩ := Option.isSome_iff_exists.mp (inTouch.known key session opened)
      rw [EngineState.menu?_congr swept.menus]
      refine EngineState.isSome_menu?_erase inTouch.own isMenu registered fun isRemoved => ?_
      rw [isRemoved] at isMenu
      have hasId : (session.menu == removed.id) = true :=
        beq_iff_eq.mpr (exactly removed known key session opened isMenu)
      cases lacks hasId

/-- A menu was opened under a name. The session of the actor has the id of the menu, and on the surface of the actor
there is what drawing that menu for the session gave. -/
structure Opened [Machine] (s : EngineState) (ref : Nat) (name : String) (t : EngineState) (menu : Menu)
    (session : Session) : Prop where
  menus : t.menus = s.menus
  known : s.menu? name = some menu
  there : t.session? ref = some session
  isMenu : session.menu = menu.id
  drawn : ∃ surface ledger after, t.screen.get? (t.actor ref).key = some surface ∧
    (t.drawing session menu none).run.run ledger = (.ok (surface.title, surface.items), after)

namespace Engine

variable {s t : EngineState} {ref : Nat} {name : String} {context : Value} {keep : Bool}

/-- A menu that was entered is drawn for the new session. The session and the surface are those of the state behind
the drawing. -/
theorem ok_enter [Machine] {menu : Menu} (known : s.menu? name = some menu)
    (entered : outcome (enter ref menu context) s = (.ok (), t)) :
    Opened s ref name t menu (s.newSession ref menu context) := by
  rcases keyOf_cases ref s with ⟨cause, failed⟩ | ⟨keyed, -⟩
  · unfold enter at entered
    rw [outcome_bind_error _ failed] at entered
    cases entered
  · rw [outcome_enter keyed] at entered
    obtain ⟨result, ledger, drawing, ⟨cause, -, failed⟩ | ⟨title, grid, -, rfl, done⟩⟩ :=
      render_cases (s.newSession ref menu context) menu none (s.entering (s.actor ref).key ref menu context)
    · rw [failed] at entered
      cases entered
    · rw [done] at entered
      cases entered
      have session := s.entering_sessions ref menu context (s.actor ref).key
      have surface := s.entering_screen ref menu context (s.actor ref).key
      rw [if_pos rfl] at session surface
      refine ⟨rfl, known, session, rfl, (s.newSurface ref menu).draw title grid none, _, ledger, ?_, drawing⟩
      exact (EngineState.drawn_screen _ _ _ _ _ _).trans ((if_pos rfl).trans (congrArg _ surface))

/-- A menu that was opened is the one that the name stood for. It was looked up before the menu that was open was
left, and leaving changes no menu. -/
theorem ok_openMenu [Machine] (opened : outcome (openMenu ref name context keep) s = (.ok true, t)) :
    ∃ menu session, Opened s ref name t menu session := by
  unfold openMenu at opened
  rw [outcome_bind_ok _ (outcome_get s)] at opened
  cases known : s.menu? name with
  | none =>
    rw [known] at opened
    obtain ⟨_, u, -, answered⟩ := ok_of_outcome_bind opened
    cases answered
  | some menu =>
    rw [known] at opened
    rcases keyOf_cases ref s with ⟨cause, failed⟩ | ⟨keyed, -⟩
    · rw [outcome_bind_error _ (outcome_sessionOf_error failed)] at opened
      cases opened
    · rw [outcome_bind_ok _ (outcome_sessionOf keyed)] at opened
      cases previous : s.session? ref with
      | none =>
        rw [previous] at opened
        dsimp only at opened
        obtain ⟨_, u, entered, answered⟩ := ok_of_outcome_bind opened
        cases answered
        exact ⟨menu, _, ok_enter known entered⟩
      | some session =>
        rw [previous] at opened
        dsimp only at opened
        obtain ⟨_, u, left, opened⟩ := ok_of_outcome_bind opened
        obtain ⟨_, v, entered, answered⟩ := ok_of_outcome_bind opened
        cases answered
        have same := tearDown_same session s
        rw [left] at same
        have here := ok_enter ((EngineState.menu?_congr same.1 name).trans known) entered
        exact ⟨menu, _, here.menus.trans same.1, known, here.there, here.isMenu, here.drawn⟩

end Engine

/-- An operation on menus that leaves every session in touch. A menu may be opened unless its id is the name of a
menu file; a removal has to come to its end, with the very id in every session for the menu; and a reading has to
come to its end or to leave the menus as they were. -/
def HostCall.SparesSessions [Machine] (s : EngineState) : HostCall → Prop
  | registerMenu _ | loadMenus .. | close _ => True
  | openMenu _ name .. => ∀ menu, s.menu? name = some menu → MenuName.isMenuFile menu.id = false
  | unregisterMenu name => s.NamedExactly name ∧ ∃ answer, (outcome (Engine.unregisterMenu name) s).1 = .ok answer
  | reloadMenus listing =>
    (∃ loaded, (outcome (Engine.reloadMenus listing) s).1 = .ok loaded) ∨
      (outcome (Engine.reloadMenus listing) s).2.menus = s.menus
  | _ => False

/-- The states that a host brings an engine to by registering, loading, removing, opening and closing menus in that
way. -/
inductive MenuRun [Machine] (first : EngineState) : EngineState → Prop where
  | here : MenuRun first first
  | called {s : EngineState} (before : MenuRun first s) (c : HostCall) (calling : Calling)
      (spares : c.SparesSessions s) : MenuRun first (outcome (c.run calling) s).2

/-- Each of these operations leaves every session in touch, under the condition that goes with it. -/
theorem InTouch.called [Machine] {first s : EngineState} (inTouch : InTouch first s) {c : HostCall} (calling : Calling)
    (spares : c.SparesSessions s) : InTouch first (outcome (c.run calling) s).2 := by
  cases c with
  | registerMenu menu => exact keeps_registerMenu s inTouch
  | loadMenus directory listing => exact keeps_loadMenus directory listing s inTouch
  | close ref => exact keeps_close s inTouch
  | openMenu ref name context keep => exact inTouch.openMenu spares
  | unregisterMenu name => exact inTouch.unregistered spares.1 spares.2
  | reloadMenus listing => exact inTouch.reloaded spares
  | _ => exact spares.elim

/-- A run of such operations leaves every session in touch, by induction on the run. -/
theorem MenuRun.inTouch [Machine] {first s : EngineState} (idle : first.sessions = []) (own : first.OwnIds)
    (run : MenuRun first s) : InTouch first s := by
  induction run with
  | here => exact ⟨⟨rfl, by simp [idle]⟩, own, by simp [idle, OrderedMap.get?]⟩
  | called _ c calling spares before => exact before.called calling spares

/-- In every state of a run that begins with no menu open and with every menu under its own id, the menu of every
session is found by the id that the session has. The run goes on with the removal of a menu that is named exactly, if
every actor who has a menu open can leave it, and with a reading of the menus if besides every session can be drawn
with those that there are then. And a menu that is opened is drawn for a session with its id, which finds the very
menu exactly if it is not the name of a menu file.

Proof: by the invariant `InTouch`, every session has the id of a menu that is registered. Menus only come, but for two
operations, and these close the sessions of a menu that goes; so the invariant outlasts them exactly if the closing
gets to its end. -/
theorem found_of_menuRun [Machine] {first s : EngineState} (idle : first.sessions = []) (own : first.OwnIds)
    (run : MenuRun first s) :
    (∀ key session, s.sessions.get? key = some session → ∃ menu, s.menu? session.menu = some menu ∧
      s.menus.get? menu.id = some menu) ∧
    (∀ name, s.Leavable → s.NamedExactly name → MenuRun first (outcome (unregisterMenu name) s).2) ∧
    (∀ listing, s.Leavable → s.Drawable (outcome (reloadMenus listing) s).2.menus →
      MenuRun first (outcome (reloadMenus listing) s).2) ∧
    ∀ ref name context keep t, outcome (openMenu ref name context keep) s = (.ok true, t) →
      ∃ menu session, Opened s ref name t menu session ∧
        (t.menu? session.menu = some menu ↔ MenuName.isMenuFile menu.id = false) := by
  have inTouch := run.inTouch idle own
  refine ⟨fun key session opened => ?_, fun name leavable exactly => ?_, fun listing leavable drawable => ?_,
    fun ref name context keep t opened => ?_⟩
  · obtain ⟨menu, known⟩ := Option.isSome_iff_exists.mp (inTouch.known key session opened)
    exact ⟨menu, known, EngineState.get?_of_menu? inTouch.own known⟩
  · exact run.called (.unregisterMenu name) call ⟨exactly, leavable.unregisterMenu_answers name⟩
  · exact run.called (.reloadMenus listing) call (reloadMenus_settles drawable leavable)
  · obtain ⟨menu, session, done⟩ := ok_openMenu opened
    refine ⟨menu, session, done, ?_⟩
    rw [EngineState.menu?_congr done.menus, done.isMenu]
    exact EngineState.menu?_id_iff inTouch.own (EngineState.get?_of_menu? inTouch.own done.known)

/-- The small shop with a second menu. -/
def bankShop : EngineState :=
  { smallShop with menus := [("shop", smallMenu), ("bank", { id := "bank" })] }

/-- That shop when each actor has opened one of the menus. -/
def busyBank [Machine] : EngineState :=
  (outcome (openMenu 1 "menus/Bank.YML" .null false) (outcome (openMenu 0 "SHOP" .null false) bankShop).2).2

/-- That shop when the second menu was removed. -/
def closedBank [Machine] : EngineState :=
  (outcome (unregisterMenu "BANK") busyBank).2

end

/-- When the bank was closed the first actor's menu is found still and the second has none open; and one who opens the
menu that is left has it found at once. -/
theorem found_closedBank :
    (∃ session menu, closedBank.session? 0 = some session ∧ closedBank.menu? session.menu = some menu) ∧
      closedBank.session? 1 = none ∧
      ∃ t menu session, Opened closedBank 1 "Shop.yml" t menu session ∧ t.menu? session.menu = some menu := by
  have own : bankShop.OwnIds := by
    intro id menu found
    have member : (id, menu) ∈ [("shop", smallMenu), ("bank", { id := "bank" })] := OrderedMap.mem_of_get? found
    rcases List.mem_cons.mp member with same | last
    · cases same
      rfl
    · cases List.mem_singleton.mp last
      rfl
  have idle : bankShop.sessions = [] := rfl
  have isId (id : String) {s : EngineState} {name : String} (found : (s.menu? name).map (·.id) = some id)
      (plain : MenuName.isMenuFile id = false) (menu : Menu) (known : s.menu? name = some menu) :
      MenuName.isMenuFile menu.id = false := by
    rw [known] at found
    cases found
    exact plain
  have first : MenuRun bankShop _ :=
    .called .here (.openMenu 0 "SHOP" .null false) call (isId "shop" (by decide +kernel) (by decide +kernel))
  have busy : MenuRun bankShop busyBank :=
    first.called (.openMenu 1 "menus/Bank.YML" .null false) call
      (isId "bank" (by decide +kernel) (by decide +kernel))
  have leavable : busyBank.Leavable := by
    have refs : busyBank.sessions.map (·.2.actor) = [0, 1] := by decide +kernel
    intro pair member
    have among : pair.2.actor ∈ [0, 1] := by
      rw [← refs]
      exact List.mem_map_of_mem member
    rw [EngineState.CanLeave, (busy.inTouch idle own).filed.actor]
    rcases List.mem_cons.mp among with same | last
    · rw [same]
      exact ⟨"ann", rfl, fun _ => by decide⟩
    · rw [List.mem_singleton.mp last]
      exact ⟨"ben", rfl, fun _ => by decide⟩
  have exactly : busyBank.NamedExactly "BANK" := by
    have ids : (busyBank.sessions.all fun pair =>
        (busyBank.menu? pair.2.menu).all fun menu => menu.id == pair.2.menu) = true := by
      decide +kernel
    intro menu _ key session opened known
    have checked := List.all_eq_true.mp ids (key, session) (OrderedMap.mem_of_get? opened)
    rw [known, Option.all_some] at checked
    exact (beq_iff_eq.mp checked).symm
  have removed : MenuRun bankShop closedBank := (found_of_menuRun idle own busy).2.1 "BANK" leavable exactly
  have found := found_of_menuRun idle own removed
  refine ⟨?_, ?_, ?_⟩
  · have there : (closedBank.session? 0).isSome = true := by decide +kernel
    obtain ⟨session, opened⟩ := Option.isSome_iff_exists.mp there
    obtain ⟨menu, known, -⟩ := found.1 (closedBank.actor 0).key session opened
    exact ⟨session, menu, opened, known⟩
  · have gone : (closedBank.session? 1).isNone = true := by decide +kernel
    exact Option.isNone_iff_eq_none.mp gone
  · have answered : (outcome (openMenu 1 "Shop.yml" .null false) closedBank).1.toOption = some true := by
      decide +kernel
    rcases opens : outcome (openMenu 1 "Shop.yml" .null false) closedBank with ⟨result, t⟩
    rw [opens] at answered
    cases result with
    | error cause => cases answered
    | ok existed =>
      cases answered
      obtain ⟨menu, session, opened, again⟩ := found.2.2.2 1 "Shop.yml" .null false t opens
      have plain := isId "shop" (by decide +kernel) (by decide +kernel) menu opened.known
      exact ⟨t, menu, session, opened, again.mpr plain⟩

section

/-- An engine without menus, whose first actor has an id of choice. -/
def emptyShop (id : String) : EngineState :=
  { smallShop with
    actors := [{ id := .text id, name := .text "Ann" }, { id := .text "ben", name := .text "Ben" }]
    menus := [] }

/-- That engine when a menu was registered and opened whose id is the name of a menu file. -/
def dottedShop [Machine] : EngineState :=
  (outcome (openMenu 0 "shop.json.yml" .null false)
    (outcome (registerMenu { id := "shop.json" }) (emptyShop "ann")).2).2

/-- That engine when a menu was loaded and opened, and read again from a file whose name has another case. -/
def recasedShop [Machine] : EngineState :=
  (outcome (reloadMenus (some [("Shop.json", .text ['\x7b', '\x7d'])]))
    (outcome (openMenu 0 "shop" .null false)
      (outcome (loadMenus "menus" (some [("shop.json", .text ['\x7b', '\x7d'])])) (emptyShop "ann")).2).2).2

/-- That engine when a menu was registered and opened by both actors, the first of whom cannot leave. -/
def stuckShop [Machine] : EngineState :=
  (outcome (openMenu 1 "shop" .null false)
    (outcome (openMenu 0 "shop" .null false)
      (outcome (registerMenu { id := "shop" }) (emptyShop "")).2).2).2

end

/-- In each of them a session loses its menu. The first menu is not found under the id that its session has; the
second is removed and leaves the session with the former id behind; and the third is removed while the sessions are
not, since the first of them cannot be closed. -/
theorem lost_shops :
    ((dottedShop.session? 0).map (·.menu) = some "shop.json" ∧ (dottedShop.menu? "shop.json").isNone = true) ∧
    (let t := (outcome (unregisterMenu "Shop") recasedShop).2
     ((recasedShop.session? 0).bind fun session => recasedShop.menu? session.menu).isSome = true ∧
        (t.session? 0).map (·.menu) = some "shop" ∧ (t.menu? "shop").isNone = true) ∧
    let t := (outcome (unregisterMenu "shop") stuckShop).2
    ((stuckShop.session? 1).bind fun session => stuckShop.menu? session.menu).isSome = true ∧
      (t.session? 1).map (·.menu) = some "shop" ∧ (t.menu? "shop").isNone = true := by
  refine ⟨⟨?_, ?_⟩, ⟨?_, ?_, ?_⟩, ?_, ?_, ?_⟩
  all_goals decide +kernel

end ChestMenu
