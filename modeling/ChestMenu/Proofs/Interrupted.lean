import ChestMenu.Proofs.Revival
import ChestMenu.Proofs.Turns

/-!
# A reading of the menus that breaks off

The sessions have their turns one after another, and each that has one is closed, with its surface, if its menu is
gone, and else put on a page that the menu has and drawn. A turn fails if the drawing cannot be made, or if an actor
cannot leave a menu that is gone, and with it the reading fails.

What the failing turn did before stays done: the session is closed or on its new page. The sessions that were before
it in the list are in line with the menus. Those behind it have no turn, and nothing of theirs has changed, although
the menus have: they may be open on menus that are gone, or on pages.
-/
namespace ChestMenu

open Engine

section

/-- Nothing is kept under a key that belongs to an open menu. -/
structure EngineState.Vacant (s : EngineState) (key : ActorKey) : Prop where
  session : s.sessions.get? key = none
  surface : s.screen.get? key = none
  lastRefresh : s.lastRefresh.get? key = none

variable [Machine]

/-- A session was brought in line with menus. It is closed if its menu is gone; else it is on a page that the menu has,
and the menu was drawn, with whatever resolvers had left behind by then. -/
structure Aligned (s : EngineState) (menus : OrderedMap String Menu) (pair : ActorKey × Session) (t : EngineState) :
    Prop where
  closed : { s with menus }.menu? pair.2.menu = none → t.Vacant pair.1
  redrawn : ∀ menu, { s with menus }.menu? pair.2.menu = some menu →
    t.sessions.get? pair.1 = some (pair.2.within menu) ∧
      ∃ ledger title grid, ((s.drawing (pair.2.within menu) menu none).run.run ledger).1 = .ok (title, grid) ∧
        t.screen.get? pair.1 = (s.screen.get? pair.1).map (·.draw title grid none)

/-- A session could not be brought in line with menus. It is closed all the same if its menu is gone, but the actor
cannot leave; else it is on a page that the menu has, but the drawing could not be made, and the surface shows what it
did before. -/
structure Stuck (s : EngineState) (menus : OrderedMap String Menu) (pair : ActorKey × Session) (cause : Failure)
    (t : EngineState) : Prop where
  closed : { s with menus }.menu? pair.2.menu = none → ¬s.CanLeave pair.2.actor ∧ t.Vacant pair.1
  undrawn : ∀ menu, { s with menus }.menu? pair.2.menu = some menu →
    t.sessions.get? pair.1 = some (pair.2.within menu) ∧ t.screen.get? pair.1 = s.screen.get? pair.1 ∧
      ∃ ledger, ((s.drawing (pair.2.within menu) menu none).run.run ledger).1 = .error cause

/-- What has become of the sessions of a state when the menus were replaced. Either all of them are in line with the
menus, or those are that come before the first that is stuck, and nothing has changed for those behind it. -/
inductive Revived (s : EngineState) (menus : OrderedMap String Menu) (t : EngineState) :
    Except Failure Unit → Prop where
  | finished (aligned : ∀ pair ∈ s.sessions, Aligned s menus pair t) : Revived s menus t (.ok ())
  | interrupted {before waiting : Sessions} {pair : ActorKey × Session} {cause : Failure}
      (split : s.sessions = before ++ pair :: waiting) (aligned : ∀ other ∈ before, Aligned s menus other t)
      (stuck : Stuck s menus pair cause t) (untouched : ∀ other ∈ waiting, Untouched other.2.actor s t) :
      Revived s menus t (.error cause)

namespace Engine

variable {s m t u : EngineState} {session : Session} {menu : Menu} {menus : OrderedMap String Menu}

omit [Machine] in
/-- Leaving a menu takes the surface and the bookkeeping of an actor away, even if it fails afterwards. What can still
fail then is the clearing of handlers. -/
theorem outcome_tearDown_keyed (session : Session) (keyed : s.Keyed session.actor) :
    ∃ result legacyHandlers,
      outcome (tearDown session) s = (result, { s.leaving (s.actor session.actor).key with legacyHandlers }) := by
  unfold tearDown
  rw [outcome_bind_ok _ (outcome_keyOf keyed), outcome_bind_ok _ (outcome_get s), outcome_bind_ok _ (outcome_set _ s)]
  split
  · cases cleared : s.legacyHandlers.clearScope .actor (s.actor session.actor).textId? with
    | error cause => exact ⟨_, s.legacyHandlers, outcome_bind_error _ (outcome_ofExcept _ _)⟩
    | ok registry => exact ⟨_, registry, outcome_bind_ok _ (outcome_ofExcept _ _)⟩
  · exact ⟨_, s.legacyHandlers, rfl⟩

/-- In the turn of a session whose menu is gone it is closed, and the turn does not fail if the actor can leave. Its
surface and its note go in any case. -/
theorem vacant_reviveSession (keyed : m.Keyed session.actor) (opened : m.session? session.actor = some session)
    (gone : m.menu? session.menu = none) :
    (outcome (reviveSession session) m).2.Vacant (m.actor session.actor).key ∧
      (m.CanLeave session.actor → (outcome (reviveSession session) m).1 = .ok ()) := by
  constructor
  · obtain ⟨result, legacyHandlers, left⟩ := outcome_tearDown_keyed session
      (s := { m with sessions := m.sessions.erase (m.actor session.actor).key }) keyed
    unfold reviveSession
    rw [outcome_bind_ok _ (outcome_get m), gone, outcome_bind_answer, outcome_close_some keyed opened,
      outcome_bind_answer, left]
    constructor
    all_goals exact (OrderedMap.get?_erase _ _ _).trans (if_pos rfl)
  · intro can
    rw [outcome_reviveSession_none can opened gone]

/-- In the turn of a session whose menu is there it is put on a page that the menu has, and the menu is drawn if that
can be done. If it cannot be drawn, the session is on the page all the same, and the turn fails. -/
theorem outcome_reviveSession_known (keyed : m.Keyed session.actor) (opened : m.session? session.actor = some session)
    (known : m.menu? session.menu = some menu) :
    ∃ result ledger after, (m.drawing (session.within menu) menu none).run.run ledger = (result, after) ∧
      outcome (reviveSession session) m =
        match result with
        | .error cause => (.error cause, { m.turning session.actor (session.within menu).page with ledger := after })
        | .ok (title, grid) => (.ok (), m.shown session.actor (session.within menu).page after title grid) := by
  have turned : (m.turning session.actor (session.within menu).page).Keyed session.actor := keyed
  rcases answer : (m.drawing (session.within menu) menu none).run.run
    (openLedger (m.turning session.actor (session.within menu).page)) with ⟨cause | ⟨title, grid⟩, after⟩
  all_goals
    refine ⟨_, _, after, answer, ?_⟩
    rw [outcome_reviveSession_some keyed opened known]
  · exact outcome_bind_error _ (outcome_render_error answer)
  · exact outcome_bind_ok _ (outcome_render_ok turned answer)

end Engine

section

variable {s m t u : EngineState} {menus : OrderedMap String Menu} {pair : ActorKey × Session} {cause : Failure}

/-- The state in which a session has its turn when menus were replaced: nothing of its own has changed. -/
structure AtTurn (s : EngineState) (menus : OrderedMap String Menu) (pair : ActorKey × Session) (m : EngineState) :
    Prop where
  replacing : Replacing s menus m
  isKey : (m.actor pair.2.actor).key = pair.1
  keyed : m.Keyed pair.2.actor
  opened : m.session? pair.2.actor = some pair.2
  surface : m.screen.get? pair.1 = s.screen.get? pair.1

namespace AtTurn

omit [Machine] in
/-- A session that was not touched while menus were being replaced can have its turn. It is found under its key as it
was at the beginning. -/
theorem of_untouched (seated : s.Seated) (member : pair ∈ s.sessions) (replacing : Replacing s menus m)
    (untouched : Untouched pair.2.actor s m) : AtTurn s menus pair m := by
  have filed := seated.filed pair member
  have isKey : (m.actor pair.2.actor).key = pair.1 := by rw [replacing.actor, filed]
  have surface := untouched.surface
  have session := untouched.session
  rw [filed] at surface session
  refine ⟨replacing, isKey, ?_, ?_, surface⟩
  · rw [EngineState.Keyed, replacing.actor]
    exact seated.keyed pair member
  · rw [EngineState.session?, isKey, session]
    exact OrderedMap.get?_of_mem seated.once member

omit [Machine] in
/-- The actor can leave as before, since nothing that this depends on changes while menus are replaced. -/
theorem canLeave (turn : AtTurn s menus pair m) (can : s.CanLeave pair.2.actor) : m.CanLeave pair.2.actor :=
  turn.replacing.canLeave can

omit [Machine] in
/-- Once it was put on a page, the session is there with the page. Everything else about it is as it was. -/
theorem turned (turn : AtTurn s menus pair m) (page : Int) :
    (m.turning pair.2.actor page).sessions.get? pair.1 = some { pair.2 with page } := by
  have opened := turn.opened
  rw [EngineState.session?, turn.isKey] at opened
  change (m.sessions.adjust _ _).get? _ = _
  rw [OrderedMap.get?_adjust, turn.isKey, if_pos rfl, opened]
  rfl

/-- After a turn that has not failed, the session is in line with the menus. It is closed, or it is on a page that its
menu has, and drawn there. -/
theorem aligned (turn : AtTurn s menus pair m) (done : outcome (reviveSession pair.2) m = (.ok (), u)) :
    Aligned s menus pair u := by
  have menu? := turn.replacing.menu? pair.2.menu
  constructor
  case closed =>
    intro gone
    have vacant := (vacant_reviveSession turn.keyed turn.opened (menu?.trans gone)).1
    rwa [done, turn.isKey] at vacant
  case redrawn =>
    intro menu known
    obtain ⟨result, ledger, after, answer, outcome⟩ :=
      outcome_reviveSession_known turn.keyed turn.opened (menu?.trans known)
    rw [turn.replacing.drawing] at answer
    rcases result with cause | ⟨title, grid⟩
    · cases done.symm.trans outcome
    · cases done.symm.trans outcome
      refine ⟨turn.turned _, ledger, title, grid, by rw [answer], ?_⟩
      rw [← turn.surface, EngineState.shown, EngineState.drawn_screen, if_pos turn.isKey]
      rfl

/-- After a turn that has failed, the session is stuck. What is left of it is told by where the turn has broken off. -/
theorem stuck (turn : AtTurn s menus pair m) (failed : outcome (reviveSession pair.2) m = (.error cause, u)) :
    Stuck s menus pair cause u := by
  have menu? := turn.replacing.menu? pair.2.menu
  constructor
  case closed =>
    intro gone
    obtain ⟨vacant, answers⟩ := vacant_reviveSession turn.keyed turn.opened (menu?.trans gone)
    rw [failed] at vacant answers
    rw [turn.isKey] at vacant
    refine ⟨fun can => ?_, vacant⟩
    cases answers (turn.canLeave can)
  case undrawn =>
    intro menu known
    obtain ⟨result, ledger, after, answer, outcome⟩ :=
      outcome_reviveSession_known turn.keyed turn.opened (menu?.trans known)
    rw [turn.replacing.drawing] at answer
    rcases result with reason | ⟨title, grid⟩
    · cases failed.symm.trans outcome
      exact ⟨turn.turned _, turn.surface, ledger, by rw [answer]⟩
    · cases failed.symm.trans outcome

end AtTurn

/-- Whether a session is in line is told by what is kept under its key. Nothing else matters. -/
theorem Aligned.congr (aligned : Aligned s menus pair t) (session : u.sessions.get? pair.1 = t.sessions.get? pair.1)
    (surface : u.screen.get? pair.1 = t.screen.get? pair.1)
    (lastRefresh : u.lastRefresh.get? pair.1 = t.lastRefresh.get? pair.1) : Aligned s menus pair u := by
  refine ⟨fun gone => ?_, ?_⟩
  · obtain ⟨noSession, noSurface, noRefresh⟩ := aligned.closed gone
    exact ⟨session.trans noSession, surface.trans noSurface, lastRefresh.trans noRefresh⟩
  · rw [session, surface]
    exact aligned.redrawn

omit [Machine] in
/-- What does not matter may change while menus are replaced. Notices are of that kind, and so is the journal. -/
theorem Replacing.congr (replacing : Replacing s menus t) (sameMenus : u.menus = t.menus) (actors : u.actors = t.actors)
    (classes : u.classes = t.classes) (placeholders : u.placeholders = t.placeholders)
    (scopes : u.legacyHandlers.scopes = t.legacyHandlers.scopes)
    (sessions : ∀ key session, u.sessions.get? key = some session → t.sessions.get? key = some session) :
    Replacing s menus u where
  menus := sameMenus.trans replacing.menus
  actors := actors.trans replacing.actors
  classes := classes.trans replacing.classes
  placeholders := placeholders.trans replacing.placeholders
  scopes := scopes.trans replacing.scopes
  sessions key session opened := replacing.sessions key session (sessions key session opened)

/-- Bringing a session in line is a part of replacing the menus, whatever becomes of it. It closes or changes one
session, and no menu. -/
theorem Replacing.keeps_reviveSession {own : Session} : Keeps (Replacing s menus) (reviveSession own) := by
  refine Engine.keeps_reviveSession (keeps_close ?_) (fun t key replacing => replacing.turning key 0) (keeps_redraw ?_)
  · intro t session keyed opened replacing
    have fewer (key : ActorKey) (other : Session)
        (there : (t.sessions.erase (t.actor own.actor).key).get? key = some other) :
        t.sessions.get? key = some other :=
      (OrderedMap.of_get?_erase there).2
    rcases tearDown_cases session { t with sessions := t.sessions.erase (t.actor own.actor).key } with
      ⟨cause, done⟩ | ⟨cause, done⟩ | done | done
    all_goals
      rw [done]
      exact replacing.congr rfl rfl rfl rfl (by first | rfl | exact HandlerRegistry.scopes_withoutActor _ _) fewer
  · intro t session menu keyed opened known replacing
    obtain ⟨result, ledger, -, ⟨cause, -, done⟩ | ⟨title, grid, -, -, done⟩⟩ :=
      render_cases session menu none t
    all_goals
      rw [done]
      exact replacing.congr rfl rfl rfl rfl rfl fun _ _ there => there

/-- Bringing several sessions in line is a part of replacing the menus, too, wherever it breaks off. -/
theorem Replacing.keeps_revivals {sessions : Sessions} :
    Keeps (Replacing s menus) (eachSession reviveSession sessions) :=
  keeps_eachSession fun _ _ => keeps_reviveSession

/-- A turn touches no other actor than the one of its session, by what it closes and what it draws. -/
theorem reviveSession_own : ForItsActor reviveSession := fun _ _ _ => Beside.keeps_reviveSession

/-- The sessions at the front of the list that had their turns without a failure are in line with the menus, and stay
so whatever becomes of the turns behind them. Those turns are for other actors, so they do not touch what was brought
in line. -/
theorem aligned_of_turns {before after : Sessions} {result : Except Failure Unit} (seated : s.Seated)
    (split : s.sessions = before ++ after)
    (had : outcome (eachSession reviveSession before) { s with menus } = (.ok (), m))
    (whole : outcome (eachSession reviveSession (before ++ after)) { s with menus } = (result, t))
    (member : pair ∈ before) : Aligned s menus pair t := by
  obtain ⟨early, late, rfl⟩ := List.append_of_mem member
  obtain ⟨m, u, first, turn⟩ := turn_of_ok had
  rw [List.append_assoc, List.cons_append] at split whole
  have replaced : { s with menus }.Seated := seated.congr rfl rfl
  have isPair : pair ∈ s.sessions := by simp [split]
  have filed : ∀ other ∈ early ++ pair :: (late ++ after),
      ({ s with menus }.actor other.2.actor).key = other.1 := by
    rw [← split]
    exact replaced.filed
  obtain ⟨untouched, still⟩ := untouched_around_turn reviveSession_own Filed.upheld.revived filed replaced.isFiled
    (split ▸ seated.once) first turn whole
  have replacing : Replacing s menus m := Replacing.keeps_revivals.after (.start s menus) first
  have replacement : Untouched pair.2.actor s { s with menus } := .of_same rfl rfl rfl rfl rfl
  have aligned := (AtTurn.of_untouched seated isPair replacing (replacement.trans untouched)).aligned turn
  have isKey : (u.actor pair.2.actor).key = pair.1 := by
    rw [(Replacing.keeps_reviveSession.after replacing turn).actor]
    exact seated.filed pair isPair
  obtain ⟨-, session, surface, lastRefresh, -⟩ := still
  rw [isKey] at session surface lastRefresh
  exact aligned.congr session surface lastRefresh

/-- Nothing of a session has changed when those before it in the list have had their turns, even if one of them has
failed. A turn that fails is for its own actor, like any other. -/
theorem untouched_behind {before after : Sessions} {result : Except Failure Unit} (seated : s.Seated)
    (split : s.sessions = before ++ pair :: after)
    (had : outcome (eachSession reviveSession before) { s with menus } = (result, m)) :
    Untouched pair.2.actor s m := by
  have replaced : { s with menus }.Seated := seated.congr rfl rfl
  have apart : ∀ other ∈ before,
      ({ s with menus }.actor other.2.actor).key ≠ ({ s with menus }.actor pair.2.actor).key := by
    intro other isBefore
    rw [replaced.filed other (by simp [split, isBefore]), replaced.filed pair (by simp [split])]
    exact OrderedMap.ne_of_mem_around (split ▸ seated.once) (List.mem_append_left after isBefore)
  have untouched := untouched_eachSession reviveSession_own replaced.isFiled apart
  rw [had] at untouched
  have replacement : Untouched pair.2.actor s { s with menus } := .of_same rfl rfl rfl rfl rfl
  exact replacement.trans untouched

/-- Replacing the menus brings the sessions in line up to the first that is stuck, if there is one. The list of
sessions falls into those that had their turns, the one that is stuck, and those behind. -/
theorem revived_of_replaceMenus (seated : s.Seated) (menus : OrderedMap String Menu) :
    ∃ result t, outcome (replaceMenus menus) s = (result, t) ∧ Replacing s menus t ∧ Revived s menus t result := by
  have replacing {sessions : Sessions} (same : s.sessions = sessions) :
      outcome (replaceMenus menus) s = outcome (eachSession reviveSession sessions) { s with menus } := by
    rw [← same]
    exact outcome_replaceMenus menus s
  have kept {sessions : Sessions} : Keeps (Replacing s menus) (eachSession reviveSession sessions) :=
    Replacing.keeps_revivals
  rcases eachSession_cases reviveSession s.sessions { s with menus } with
    ⟨t, done⟩ | ⟨before, stuck, waiting, m, cause, t, split, had, failed⟩
  · have all : s.sessions = s.sessions ++ [] := (List.append_nil _).symm
    refine ⟨.ok (), t, (replacing rfl).trans done, kept.after (.start s menus) done, .finished ?_⟩
    exact fun pair member => aligned_of_turns seated all done (by rw [List.append_nil, done]) member
  · have whole (behind : Sessions) :
        outcome (eachSession reviveSession (before ++ stuck :: behind)) { s with menus } = (.error cause, t) :=
      outcome_eachSession_failed had failed
    have atTurn := AtTurn.of_untouched seated (by simp [split]) (kept.after (.start s menus) had)
      (untouched_behind seated split had)
    refine ⟨.error cause, t, (replacing split).trans (whole waiting), kept.after (.start s menus) (whole waiting),
      .interrupted split ?_ (atTurn.stuck failed) ?_⟩
    · exact fun pair member => aligned_of_turns seated split had (whole waiting) member
    · intro pair member
      obtain ⟨front, behind, rfl⟩ := List.append_of_mem member
      rw [← List.cons_append, ← List.append_assoc] at split
      exact untouched_behind seated split (whole front)

/-- Notices that were left before do not matter to what has become of the sessions. -/
theorem Revived.of_noting {result : Except Failure Unit} {notices : List Notice}
    (revived : Revived (s.noting notices) menus t result) : Revived s menus t result := by
  cases revived with
  | finished aligned =>
    exact .finished fun pair member => ⟨(aligned pair member).closed, (aligned pair member).redrawn⟩
  | interrupted split aligned stuck untouched =>
    refine .interrupted split (fun pair member => ?_) ⟨stuck.closed, stuck.undrawn⟩ fun pair member => ?_
    · exact ⟨(aligned pair member).closed, (aligned pair member).redrawn⟩
    · have noting : Untouched pair.2.actor s (s.noting notices) := .of_same rfl rfl rfl rfl rfl
      exact noting.trans (untouched pair member)

/-- No session is stuck that can be drawn and whose actor can leave. So then all of them have had their turns. -/
theorem Revived.aligned {result : Except Failure Unit} (revived : Revived s menus t result)
    (drawable : s.Drawable menus) (leavable : s.Leavable) : ∀ pair ∈ s.sessions, Aligned s menus pair t := by
  cases revived with
  | finished aligned => exact aligned
  | @interrupted _ _ pair _ split _ stuck _ =>
    have isPair : pair ∈ s.sessions := by simp [split]
    cases known : { s with menus }.menu? pair.2.menu with
    | none => exact absurd (leavable pair isPair) (stuck.closed known).1
    | some menu =>
      obtain ⟨-, -, ledger, failed⟩ := stuck.undrawn menu known
      obtain ⟨drawing, after, answered⟩ := drawable pair isPair menu known (pair.2.within menu).page ledger
      have drawn : (s.drawing (pair.2.within menu) menu none).run.run ledger = (.ok drawing, after) := answered
      rw [drawn] at failed
      cases failed

/-- When the menus are read again from a directory that can be read, they are those that were read, whatever becomes
of the sessions. The sessions have their turns in order: each is closed if its menu is gone, and else put on a page of
its menu and drawn, up to the first for whom that fails. With it the reading fails, and for those behind it nothing
has changed. If no drawing fails, and every actor can leave, all of them are closed, or put on a page and drawn.

Proof: by induction on the sessions that still have to have their turns. A turn changes what belongs to its own actor
only, so what was done in the turns before stays done, and each session is found in its turn as it was at the
beginning. -/
theorem reloaded_up_to_stuck (seated : s.Seated) {directory : String} (known : s.directory = some directory)
    {listing : Option FileListing} {loaded : OrderedMap String Menu} {notices : List Notice}
    (read : (Menu.ofDirectory directory listing s.config.defaultSize).run.run [] = (.ok loaded, notices)) :
    ∃ result t, outcome (reloadMenus listing) s = (result.map fun _ => loaded, t) ∧ t.menus = loaded ∧
      Revived s loaded t result ∧
      (s.Drawable loaded → s.Leavable → ∀ pair ∈ s.sessions, Aligned s loaded pair t) := by
  have noted : (s.noting notices).Seated := seated.congr rfl rfl
  obtain ⟨result, t, done, replacing, noting⟩ := revived_of_replaceMenus noted loaded
  have revived : Revived s loaded t result := noting.of_noting
  refine ⟨result, t, (outcome_reloadMenus_ok known read).trans ?_, replacing.menus, revived, revived.aligned⟩
  rcases result with cause | _
  · exact outcome_bind_error _ done
  · exact outcome_bind_ok _ done

end

/-- A shop with two menus, one of which will be gone when the menus are read again, and three actors. -/
def sharedShop : EngineState :=
  { shelfShop "ann" with
    classes := muteShop.classes
    actors := (shelfShop "ann").actors ++ [{ id := .text "cat", name := .text "Cat" }] }

/-- That shop when the first actor has opened the menu that stays, with a context that cannot be described, the second
the menu that will be gone, and the third the second page of the one that stays. -/
def sharedShelf : EngineState :=
  (outcome (setPage 2 1) (outcome (openMenu 2 "shop" .null false) (outcome (openMenu 1 "gone" .null false)
    (outcome (updateContext 0 mute) (outcome (openMenu 0 "shop" .null false) sharedShop).2).2).2).2).2

/-- A directory with one menu, which has no pages. -/
def shelfListing : Option FileListing :=
  some [("shop.json", .text ['\x7b', '\x7d'])]

end

/-- Reading the menus of the shared shelf again is interrupted: the first session cannot be drawn, and with that the
reading fails. -/
theorem reloaded_sharedShelf :
    ∃ loaded cause t, outcome (reloadMenus shelfListing) sharedShelf = (.error cause, t) ∧ t.menus = loaded ∧
      Revived sharedShelf loaded t (.error cause) := by
  have may (c : HostCall) : HostCode (fun _ => True) (c.run call) := .scripted c trivial fun _ _ _ _ => trivial
  have first : Reaches (fun _ => True) sharedShop _ := .after .here (.openMenu 0 "shop" .null false) call (may _)
  have muted := first.after (.updateContext 0 mute) call (may _)
  have second := muted.after (.openMenu 1 "gone" .null false) call (may _)
  have third := second.after (.openMenu 2 "shop" .null false) call (may _)
  have turned : Reaches (fun _ => True) sharedShop sharedShelf := third.after (.setPage 2 1) call (may _)
  have seated : sharedShelf.Seated := .of_reaches rfl turned
  have known : sharedShelf.directory = some "menus" := by decide +kernel
  have readable :
      ((Menu.ofDirectory "menus" shelfListing sharedShelf.config.defaultSize).run.run []).1.toOption.isSome = true := by
    decide +kernel
  have fails : (outcome (reloadMenus shelfListing) sharedShelf).1.toOption.isNone = true := by decide +kernel
  rcases read : (Menu.ofDirectory "menus" shelfListing sharedShelf.config.defaultSize).run.run [] with
    ⟨cause | loaded, notices⟩
  · rw [read] at readable
    cases readable
  · obtain ⟨result, t, done, menus, revived, -⟩ := reloaded_up_to_stuck seated known read
    rw [done] at fails
    rcases result with cause | _
    · exact ⟨loaded, cause, t, done, menus, revived⟩
    · cases fails

/-- On the shared shelf the second actor is then still in a menu that is gone, and the third is on a page that is gone
and sees what was drawn before, although that menu can be drawn: only the drawing for the first has failed. -/
theorem spoiled_sharedShelf :
    let reloaded := outcome (reloadMenus shelfListing) sharedShelf
    (match reloaded.1 with
        | .error (.reported _ message) => some message
        | _ => none) = some "no fields" ∧
      (reloaded.2.session? 1).map (·.menu) = some "gone" ∧ (reloaded.2.menu? "gone").isNone = true ∧
      (reloaded.2.session? 2).map (·.page) = some 1 ∧
      ((reloaded.2.session? 2).bind fun session => reloaded.2.menu? session.menu).map (·.totalPages) = some 1 ∧
      (sharedShelf.screen.get? (.text "cat")).map (·.renders) = some 2 ∧
      (reloaded.2.screen.get? (.text "cat")).map (·.renders) = some 2 ∧
      (outcome (refresh 2) reloaded.2).1.toOption = some true := by
  decide +kernel

end ChestMenu
