import ChestMenu.Proofs.Isolation

/-!
# Sessions that have their turns

Reading the menus again and passing a tick go through a list of the open sessions that was made before, and do
something for the actor of each. In whatever state an engine is, every session is filed under the key of its actor and
no key has two, so what is found in a turn for that actor is the session itself.

A turn leaves alone whatever belongs to other actors. So a session has its turn in a state in which nothing of its own
has changed yet, and what its turn has done stays until all have had theirs. If a turn fails and the failure is not
caught, those behind it have none.
-/
namespace ChestMenu

open Engine

/-- Every session is filed under the key of its actor, whose id can be a key, and no key has two sessions. -/
structure EngineState.Seated (s : EngineState) : Prop where
  filed : ∀ pair ∈ s.sessions, (s.actor pair.2.actor).key = pair.1
  keyed : ∀ pair ∈ s.sessions, s.Keyed pair.2.actor
  once : s.sessions.keys.Nodup

namespace EngineState.Seated

variable {s t : EngineState}

/-- Whether sessions are in their places depends on the actors and on the sessions. Nothing else of a state matters. -/
theorem congr (seated : s.Seated) (actors : t.actors = s.actors) (sessions : t.sessions = s.sessions) :
    t.Seated := by
  have actor (ref : Nat) : t.actor ref = s.actor ref := by
    rw [EngineState.actor, actors, EngineState.actor]
  refine ⟨fun pair member => ?_, fun pair member => ?_, ?_⟩
  · rw [actor]
    exact seated.filed pair (sessions ▸ member)
  · rw [Keyed, actor]
    exact seated.keyed pair (sessions ▸ member)
  · rw [sessions]
    exact seated.once

/-- Changing a session for the same actor leaves it in its place, whatever else is changed in it. -/
theorem adjusting (seated : s.Seated) (key : ActorKey) (change : Session → Session)
    (actor : ∀ session, (change session).actor = session.actor) :
    { s with sessions := s.sessions.adjust key change }.Seated where
  filed pair member := by
    rcases OrderedMap.mem_adjust member with there | ⟨session, there, rfl⟩
    · exact seated.filed pair there
    · rw [actor]
      exact seated.filed _ there
  keyed pair member := by
    rcases OrderedMap.mem_adjust member with there | ⟨session, there, rfl⟩
    · exact seated.keyed pair there
    · rw [actor]
      exact seated.keyed _ there
  once := by
    rw [OrderedMap.keys_adjust]
    exact seated.once

/-- Entering a menu puts the new session in the place of its actor, so that no key has two. -/
theorem entering (seated : s.Seated) {ref : Nat} (keyed : s.Keyed ref) (menu : Menu) (context : Value) :
    (s.entering (s.actor ref).key ref menu context).Seated where
  filed pair member := by
    rcases OrderedMap.mem_put member with there | rfl
    · exact seated.filed pair there
    · rfl
  keyed pair member := by
    rcases OrderedMap.mem_put member with there | rfl
    · exact seated.keyed pair there
    · exact keyed
  once := OrderedMap.nodup_put seated.once

/-- When a session ends, the others stay in their places. -/
theorem erasing (seated : s.Seated) (key : ActorKey) :
    { s with sessions := s.sessions.erase key }.Seated where
  filed pair member := seated.filed pair (OrderedMap.mem_erase member).1
  keyed pair member := seated.keyed pair (OrderedMap.mem_erase member).1
  once := OrderedMap.nodup_erase seated.once

/-- Leaving a menu leaves the sessions where they are. What it takes away is a surface, a note and handlers. -/
theorem keeps_tearDown {session : Session} : Keeps Seated (tearDown session) := by
  intro s seated
  rcases tearDown_cases session s with ⟨cause, done⟩ | ⟨cause, done⟩ | done | done
  all_goals
    rw [done]
    exact seated.congr rfl rfl

/-- Drawing leaves the sessions where they are, since it writes to the ledger and to a surface only. -/
theorem keeps_render [Machine] {session : Session} {menu : Menu} {slots : Option (List SlotName)} :
    Keeps Seated (render session menu slots) :=
  Engine.keeps_render (fun _ _ seated => seated.congr rfl rfl) fun _ _ _ _ seated => seated.congr rfl rfl

/-- Entering a menu finds a place for the session. The key is that of the actor, which was looked up before. -/
theorem keeps_enter [Machine] {ref : Nat} {menu : Menu} {context : Value} : Keeps Seated (enter ref menu context) := by
  unfold enter
  apply keeps_keyOf_bind
  intro s keyed seated
  rw [outcome_bind_ok _ (outcome_get s), outcome_bind_ok _ (outcome_set _ s)]
  exact keeps_render _ (seated.entering keyed menu context)

/-- Sessions stay in their places, whatever a host asks for and for whom. Nothing is asked of the actors: whoever has
no key does not get a session. -/
theorem upheld [Machine] : Upheld Seated fun _ => True where
  alike _ _ alike seated := seated.congr alike.actors alike.sessions
  adjusted _ key change actor _ seated := seated.adjusting key change actor
  opened _ _ _ _ _ :=
    keeps_openMenu (fun _ _ seated => seated.congr rfl rfl) (fun s _ _ _ _ _ seated => keeps_enter s seated)
      fun s _ _ _ _ _ _ seated => keeps_bind keeps_tearDown (fun _ => keeps_enter) s seated
  closed _ := keeps_close fun _ _ _ _ seated => keeps_tearDown _ (seated.erasing _)
  drawn _ _ _ := keeps_render

/-- Sessions stay in their places, whatever code of a host does. So it may be used in every state in the middle of a
click. -/
theorem keeps_code [Machine] {permitted : HostCall → Prop} {α : Type} {x : Engine α} (code : HostCode permitted x) :
    Keeps Seated x := by
  refine code.keeps (fun _ _ seated => seated.congr rfl rfl) fun c calling _ answers => ?_
  exact upheld.run c calling (fun _ _ => trivial) (fun _ _ seated => seated.congr rfl rfl) answers

/-- An engine without sessions has all of them in their places. Every run begins there. -/
theorem of_idle (idle : s.sessions = []) : s.Seated where
  filed := by simp [idle]
  keyed := by simp [idle]
  once := by simp [idle, OrderedMap.keys]

/-- Sessions are in their places in every state that is reached from an idle engine. What a host may ask for is left
open here. -/
theorem of_reaches [Machine] {permitted : HostCall → Prop} {first : EngineState} (idle : first.sessions = [])
    (run : Reaches permitted first s) : s.Seated :=
  run.holds keeps_code (of_idle idle)

/-- Sessions in their places are filed. In addition no two of them have one key. -/
theorem isFiled (seated : s.Seated) : Filed s s where
  actors := rfl
  filed key session member := seated.filed (key, session) member

/-- The session of an actor is for an actor with the same key. The two actors may be different, as ids can be the same
key. -/
theorem key_of_session (seated : s.Seated) {ref : Nat} {session : Session} (opened : s.session? ref = some session) :
    (s.actor session.actor).key = (s.actor ref).key :=
  seated.filed ((s.actor ref).key, session) (OrderedMap.mem_of_get? opened)

/-- That actor's id can be a key. Otherwise the session could not have been entered. -/
theorem keyed_of_session (seated : s.Seated) {ref : Nat} {session : Session}
    (opened : s.session? ref = some session) : s.Keyed session.actor :=
  seated.keyed _ (OrderedMap.mem_of_get? opened)

/-- What is found for the actor of a session is the session. So a list of sessions that was made before and the
sessions that are found in the turns can be compared. -/
theorem session?_of_mem (seated : s.Seated) {pair : ActorKey × Session} (member : pair ∈ s.sessions) :
    s.session? pair.2.actor = some pair.2 := by
  rw [session?, seated.filed pair member]
  exact OrderedMap.get?_of_mem seated.once member

end EngineState.Seated

/-- Something that is done for a session touches no actor with another key. -/
def ForItsActor (body : Session → Engine Unit) : Prop :=
  ∀ session other first, Keeps (Beside session.actor other first) (body session)

namespace Beside

variable {other : Nat} {first : EngineState} {session : Session}

/-- Refreshing a session that is due touches the actor of the session only. -/
theorem keeps_refreshDue [Machine] {number : Nat} :
    Keeps (Beside session.actor other first) (refreshDue number session) :=
  Engine.keeps_refreshDue (fun _ => keeps_redraw) <| keeps_markRefreshed fun _ _ beside =>
    beside.step (beside.filed.of_subset rfl fun _ member => member) (.marking beside.apart number)

/-- Bringing a session in line with menus that were read again touches the actor of the session only, whether it is
closed or drawn. -/
theorem keeps_reviveSession [Machine] : Keeps (Beside session.actor other first) (reviveSession session) := by
  have again : Keeps (Beside session.actor other first) (refresh session.actor >>= fun _ => pure ()) :=
    keeps_bind keeps_redraw fun _ => keeps_pure ()
  unfold reviveSession
  apply keeps_get_bind
  intro s beside
  split
  · exact keeps_bind keeps_close (fun _ => keeps_pure ()) s beside
  · dsimp only
    split
    · rw [outcome_bind_ok _ (outcome_set _ s)]
      exact again _ (beside.adjusting (fun session => { session with page := 0 }) fun _ => rfl)
    · exact again s beside

end Beside

namespace Engine

/-- Does something for sessions, one after another. -/
def eachSession (body : Session → Engine Unit) (sessions : Sessions) : Engine Unit := do
  for (_, session) in sessions do
    body session

variable {body : Session → Engine Unit} {s t : EngineState}

/-- The first of the sessions has the first turn, and the others have theirs behind it, if it does not fail. -/
theorem eachSession_cons (body : Session → Engine Unit) (pair : ActorKey × Session) (sessions : Sessions) :
    eachSession body (pair :: sessions) = (body pair.2 >>= fun _ => eachSession body sessions) := by
  unfold eachSession
  simp only [List.forIn_cons, bind_assoc, pure_bind]

/-- The turns of a list come before those of the list behind it. So a list can be cut at the session that is looked
at. -/
theorem eachSession_append (body : Session → Engine Unit) (before after : Sessions) :
    eachSession body (before ++ after) = (eachSession body before >>= fun _ => eachSession body after) := by
  induction before with
  | nil => rfl
  | cons pair rest ih => simp only [List.cons_append, eachSession_cons, ih, bind_assoc]

/-- Turns keep what each of them keeps. It may be used of a session that it is one of the list. -/
theorem keeps_eachSession {P : EngineState → Prop} {sessions : Sessions}
    (each : ∀ pair ∈ sessions, Keeps P (body pair.2)) : Keeps P (eachSession body sessions) := by
  unfold eachSession
  refine keeps_bind (keeps_forIn _ fun pair member _ => ?_) fun _ => keeps_pure _
  exact keeps_bind (each pair member) fun _ => keeps_pure _

/-- Either all turns come to their end, or there is a first one that fails. The induction is on the list, and the
turns in front of the first that fails have all come to their end. -/
theorem eachSession_cases (body : Session → Engine Unit) (sessions : Sessions) (s : EngineState) :
    (∃ t, outcome (eachSession body sessions) s = (.ok (), t)) ∨
      ∃ before stuck waiting m cause t, sessions = before ++ stuck :: waiting ∧
        outcome (eachSession body before) s = (.ok (), m) ∧ outcome (body stuck.2) m = (.error cause, t) := by
  induction sessions generalizing s with
  | nil => exact Or.inl ⟨s, rfl⟩
  | cons pair rest ih =>
    rw [eachSession_cons]
    rcases turn : outcome (body pair.2) s with ⟨cause | _, m⟩
    · exact Or.inr ⟨[], pair, rest, s, cause, m, rfl, rfl, turn⟩
    · rw [outcome_bind_ok _ turn]
      rcases ih m with done | ⟨before, stuck, waiting, u, cause, t, split, had, failed⟩
      · exact Or.inl done
      · refine Or.inr ⟨pair :: before, stuck, waiting, u, cause, t, ?_, ?_, failed⟩
        · rw [split, List.cons_append]
        · rw [eachSession_cons, outcome_bind_ok _ turn, had]

/-- The first turn that fails is that of the whole, whatever comes behind it. The failure is that of this turn, and so
is the state that is left. -/
theorem outcome_eachSession_failed {before waiting : Sessions} {stuck : ActorKey × Session} {m : EngineState}
    {cause : Failure} (had : outcome (eachSession body before) s = (.ok (), m))
    (failed : outcome (body stuck.2) m = (.error cause, t)) :
    outcome (eachSession body (before ++ stuck :: waiting)) s = (.error cause, t) := by
  rw [eachSession_append, outcome_bind_ok _ had, eachSession_cons, outcome_bind_error _ failed]

/-- Turns touch no actor whose key is that of none of the sessions, even if one of them fails. Each turn acts for the
actor of its session, by induction on the list of those that are to come. -/
theorem untouched_eachSession (own : ForItsActor body) (filed : Filed s s) {sessions : Sessions} {ref : Nat}
    (apart : ∀ pair ∈ sessions, (s.actor pair.2.actor).key ≠ (s.actor ref).key) :
    Untouched ref s (outcome (eachSession body sessions) s).2 := by
  have kept : Keeps (fun t => Filed s t ∧ Untouched ref s t) (eachSession body sessions) := by
    refine keeps_eachSession fun pair member t ⟨filed, untouched⟩ => ?_
    have beside : Beside pair.2.actor ref s t := by
      refine ⟨filed, ?_, untouched⟩
      rw [filed.actor, filed.actor]
      exact apart pair member
    have after := own pair.2 ref s t beside
    exact ⟨after.filed, after.untouched⟩
  exact (kept s ⟨filed, .refl ref s⟩).2

/-- If all turns come to their end, then so do those before a session and its own. With it come the states before the
turn and behind it. -/
theorem turn_of_ok {before after : Sessions} {pair : ActorKey × Session}
    (done : outcome (eachSession body (before ++ pair :: after)) s = (.ok (), t)) :
    ∃ m u, outcome (eachSession body before) s = (.ok (), m) ∧ outcome (body pair.2) m = (.ok (), u) := by
  rw [eachSession_append] at done
  obtain ⟨_, m, first, rest⟩ := ok_of_outcome_bind done
  rw [eachSession_cons] at rest
  obtain ⟨_, u, turn, -⟩ := ok_of_outcome_bind rest
  exact ⟨m, u, first, turn⟩

/-- A session among others has its turn in a state in which it was not touched yet, and is not touched any more
afterwards, even if a later turn fails. The keys of the sessions are all different, so no other turn is for this one's
actor. -/
theorem untouched_around_turn {m u : EngineState} {result : Except Failure Unit} (own : ForItsActor body)
    (kept : ∀ session, Keeps (Filed s) (body session)) {before after : Sessions} {pair : ActorKey × Session}
    (filed : ∀ other ∈ before ++ pair :: after, (s.actor other.2.actor).key = other.1) (isFiled : Filed s s)
    (once : (OrderedMap.keys (before ++ pair :: after)).Nodup)
    (first : outcome (eachSession body before) s = (.ok (), m)) (turn : outcome (body pair.2) m = (.ok (), u))
    (done : outcome (eachSession body (before ++ pair :: after)) s = (result, t)) :
    Untouched pair.2.actor s m ∧ Untouched pair.2.actor u t := by
  have isPair := filed pair (by simp)
  have apart : ∀ other ∈ before ++ after, (s.actor other.2.actor).key ≠ (s.actor pair.2.actor).key := by
    intro other member
    have there : other ∈ before ++ pair :: after := by
      rcases List.mem_append.mp member with early | late
      · exact List.mem_append_left _ early
      · exact List.mem_append_right _ (List.mem_cons_of_mem _ late)
    rw [filed other there, isPair]
    exact OrderedMap.ne_of_mem_around once member
  constructor
  · have untouched := untouched_eachSession own isFiled fun other member =>
      apart other (List.mem_append_left after member)
    rwa [first] at untouched
  · have early : Keeps (Filed s) (eachSession body before) := keeps_eachSession fun pair _ => kept pair.2
    have later : Filed s u := (kept pair.2).after (early.after isFiled first) turn
    have untouched : Untouched pair.2.actor u (outcome (eachSession body after) u).2 := by
      refine untouched_eachSession own ⟨rfl, later.filed⟩ fun other member => ?_
      rw [later.actor, later.actor]
      exact apart other (List.mem_append_right before member)
    rw [eachSession_append, outcome_bind_ok _ first, eachSession_cons, outcome_bind_ok _ turn] at done
    rwa [done] at untouched

end Engine

end ChestMenu
