import ChestMenu.Proofs.Guests
import ChestMenu.Web.Host

/-!
# The actors whom a host in the web knows

Whoever is known was let in once and is let in for good, under a key of one's own: nobody is forgotten, and nothing
that an actor is told to be changes the id.

What a host asks its engine for, it asks on behalf of actors whom it knows. So the sessions are for actors who are let
in, and what the engine does for one of them does not fail but for menus that cannot be drawn.
-/
namespace ChestMenu

/-- What may be asked for with the present actors: nothing on behalf of anyone who is not let in, and nothing that
registers handlers. -/
def EngineState.Permits (s : EngineState) (c : HostCall) : Prop :=
  (∀ ref, c.actor? = some ref → s.Welcome ref) ∧ ¬c.Registers

/-- A permitted operation is code of a host with all that its callbacks ask for. A callback acts for the one who
clicked, and what is permitted for that actor is permitted to it. -/
theorem EngineState.Permits.code [Machine] {s : EngineState} {c : HostCall} (may : s.Permits c) :
    HostCode s.Permits (c.run Engine.call) := by
  refine .scripted c may fun ref found other own => ⟨fun actor same => ?_, ?_⟩
  · rw [own.actor?] at same
    cases same
    exact may.1 ref found
  · intro registers
    cases other
    all_goals first | exact registers | exact own

/-- Sessions that are for actors who are let in are so in the view of the present actors. So the view can be changed
behind every request, when actors have come. -/
theorem Receives.renew {first s : EngineState} (receives : Receives first s) : Receives s s where
  actors := rfl
  filed := receives.filed
  welcome pair member := (receives.welcome pair member).congr receives.actors

/-- Looking at the tokens of a menu keeps what placeholders leave alone. It is asked for by clients that look on, and
does nothing else. -/
theorem Engine.keeps_placeholderTable [Machine] {P : EngineState → Prop}
    (resolved : ∀ s ledger, P s → P { s with ledger })
    (ref : Nat) : Keeps P (placeholderTable ref) := by
  unfold placeholderTable
  refine keeps_sessionOf_bind fun s _ holds => ?_
  split
  · exact holds
  · rw [outcome_bind_ok _ (outcome_get s)]
    split
    · exact holds
    · rw [outcome_bind_ok _ (outcome_resolving _ s)]
      exact resolved s _ holds

namespace Web

open Engine (outcome)

variable {host : Host} {α : Type}

namespace Host

/-- What is known of the actor under a key. -/
def known? (host : Host) (key : ActorKey) : Option Actor :=
  (host.actors.get? key).map host.engine.actor

/-- Whoever is known is let in, and so is whoever has a menu open; each is kept under a key of one's own. Clicks in the
player's inventory are decided about by no handler but the one that takes things. -/
structure Sound (host : Host) : Prop where
  known : ∀ key ref, host.actors.get? key = some ref →
    host.engine.Welcome ref ∧ (host.engine.actor ref).key = key
  receives : Receives host.engine host.engine
  deposits : host.engine.Deposits

/-- Telling clients something leaves the engine as it is. Events go into the boxes of the clients. -/
@[simp] theorem tell_engine (host : Host) (events : List Event) : (host.tell events).engine = host.engine := by
  unfold tell
  split <;> rfl

/-- Telling clients something leaves the known actors as they are, too. -/
@[simp] theorem tell_actors (host : Host) (events : List Event) : (host.tell events).actors = host.actors := by
  unfold tell
  split <;> rfl

/-- The host once its engine has got into a state: clients were told what happened. -/
def following (host : Host) (engine : EngineState) : Host :=
  { host with engine := { engine with journal := [] } }.tell (engine.journal.filterMap Event.ofEngine?)

/-- The engine is in that state, and its journal is empty. What stood in the journal has been told to the clients by
then. -/
@[simp] theorem following_engine (host : Host) (engine : EngineState) :
    (host.following engine).engine = { engine with journal := [] } := tell_engine _ _

/-- The known actors are the same. Nobody becomes known by what an engine does. -/
@[simp] theorem following_actors (host : Host) (engine : EngineState) : (host.following engine).actors = host.actors :=
  tell_actors _ _

/-- What the engine does for actors who are let in leaves a host sound. Soundness is about who is known, for whom
there are sessions and which handlers decide; each of these is given here. -/
theorem Sound.of_engine {after : Host} (sound : host.Sound) (actors : after.actors = host.actors)
    (receives : Receives host.engine after.engine) (deposits : after.engine.Deposits) : after.Sound where
  known key ref found := by
    rw [actors] at found
    obtain ⟨welcome, same⟩ := sound.known key ref found
    rw [receives.actor]
    exact ⟨welcome.congr receives.actors, same⟩
  receives := receives.renew
  deposits

/-- What clients were told makes no difference to whether a host is sound. -/
theorem Sound.congr {after : Host} (sound : host.Sound) (actors : after.actors = host.actors)
    (engine : after.engine = host.engine) : after.Sound :=
  sound.of_engine actors (by rw [engine]; exact sound.receives) (by rw [engine]; exact sound.deposits)

end Host

/-- An operation of the engine gives its own result, and clients are told. They are told also if it fails, of what was
done until then. -/
theorem run_operate (step : Engine α) (host : Host) :
    (Hosting.operate step).run.run host =
      ((outcome step host.engine).1, host.following (outcome step host.engine).2) := rfl

/-- After a result that is there the next step goes on with it. -/
theorem run_ofExcept_bind_ok {β : Type} (a : α) (f : α → Hosting β) (host : Host) :
    (Hosting.ofExcept (.ok a) >>= f).run.run host = (f a).run.run host := rfl

/-- After a look at the host the next step goes on with it. -/
theorem run_get_bind {β : Type} (f : Host → Hosting β) (host : Host) :
    (get >>= f : Hosting β).run.run host = (f host).run.run host := rfl

/-- What the engine does for actors who are let in leaves the host sound behind that has it do so. The journal is
emptied in doing so, which is no part of soundness. -/
theorem Host.Sound.following {t : EngineState} (sound : host.Sound) (receives : Receives host.engine t)
    (deposits : t.Deposits) : (host.following t).Sound := by
  refine sound.of_engine (host.following_actors t) ?_ ?_
  · rw [Host.following_engine]
    exact receives.of_subset rfl fun _ member => member
  · rw [Host.following_engine]
    exact deposits

/-- A permitted operation keeps a host sound. Such operations are for actors who are let in, and register nothing. -/
theorem Host.Sound.operate [Machine] (sound : host.Sound) {step : Engine α} (code : HostCode host.engine.Permits step) :
    (host.following (outcome step host.engine).2).Sound :=
  sound.following (Receives.keeps_code (code.mono fun _ may => may.1) _ sound.receives)
    (EngineState.Deposits.keeps_code (code.mono fun _ may => may.2) _ sound.deposits)

/-- An operation on behalf of an actor who is let in keeps a host sound, if it registers nothing. The routes of a host
ask for no others. -/
theorem Host.Sound.ask [Machine] (sound : host.Sound) {ref : Nat} (welcome : host.engine.Welcome ref) (c : HostCall)
    (forOne : c.actor? = some ref) (spares : ¬c.Registers) :
    (host.following (outcome (c.run Engine.call) host.engine).2).Sound := by
  have may : host.engine.Permits c := by
    refine ⟨fun actor same => ?_, spares⟩
    rw [forOne] at same
    cases same
    exact welcome
  exact sound.operate may.code

namespace Host

/-- The place of the actor under a key, or the place that a new actor gets. -/
def place (host : Host) (key : ActorKey) : Nat :=
  (host.actors.get? key).getD host.engine.actors.length

/-- The host that knows an actor under a key, whoever was known under it before. -/
def introducing (host : Host) (key : ActorKey) (actor : Actor) : Host :=
  { host with
    engine :=
      { host.engine with
        actors :=
          match host.actors.get? key with
          | some ref => host.engine.actors.set ref actor
          | none => host.engine.actors ++ [actor] }
    actors := host.actors.put key (host.place key) }

variable {key : ActorKey} {actor : Actor}

/-- The actor under a key that is known is in its place. So being told to be somebody a second time puts nobody in a
second place. -/
theorem place_of_known {ref : Nat} (found : host.actors.get? key = some ref) : host.place key = ref := by
  rw [place, found, Option.getD_some]

/-- A new actor gets the place behind all others. Places are given one after another and are never given back. -/
theorem place_of_unknown (unknown : host.actors.get? key = none) : host.place key = host.engine.actors.length := by
  rw [place, unknown, Option.getD_none]

/-- A key names another place than a different key that is known. For a key that is new the place is behind all that
are taken. -/
theorem Sound.place_ne (sound : host.Sound) {other : ActorKey} {ref : Nat} (found : host.actors.get? other = some ref)
    (different : key ≠ other) : host.place key ≠ ref := by
  -- A new place lies behind all that are known, and a known one belongs to the key of its actor.
  rintro rfl
  obtain ⟨welcome, same⟩ := sound.known other _ found
  cases there : host.actors.get? key with
  | none =>
    rw [place_of_unknown there] at welcome
    exact absurd welcome.present (Nat.lt_irrefl _)
  | some ref =>
    rw [place_of_known there, (sound.known key ref there).2] at same
    exact different same

/-- The key names the place, and the other keys name what they did before. A key that is known is entered again for
the same place. -/
theorem introducing_get? (host : Host) (key : ActorKey) (actor : Actor) (other : ActorKey) :
    (host.introducing key actor).actors.get? other =
      if key = other then some (host.place key) else host.actors.get? other :=
  OrderedMap.get?_put _ _ _ _

/-- The actor is in that place, and the other actors are where they were. If the key was known, what is there now
takes the place of what was known. -/
theorem Sound.introducing_actor (sound : host.Sound) (key : ActorKey) (actor : Actor) (ref : Nat) :
    (host.introducing key actor).engine.actor ref =
      if host.place key = ref then actor else host.engine.actor ref := by
  unfold introducing EngineState.actor
  cases found : host.actors.get? key with
  | none =>
    rw [place_of_unknown found]
    change (host.engine.actors ++ [actor])[ref]?.getD default =
      if host.engine.actors.length = ref then actor else host.engine.actors[ref]?.getD default
    rcases Nat.lt_trichotomy ref host.engine.actors.length with there | rfl | beyond
    · rw [if_neg (Nat.ne_of_gt there), List.getElem?_append_left there]
    · rw [if_pos rfl, List.getElem?_concat_length, Option.getD_some]
    · have outside : (host.engine.actors ++ [actor]).length ≤ ref := by
        rw [List.length_append]
        exact beyond
      rw [if_neg (Nat.ne_of_lt beyond), List.getElem?_eq_none outside, List.getElem?_eq_none (Nat.le_of_lt beyond)]
  | some place =>
    have present : place < host.engine.actors.length := (sound.known key place found).1.present
    rw [place_of_known found]
    change (host.engine.actors.set place actor)[ref]?.getD default =
      if place = ref then actor else host.engine.actors[ref]?.getD default
    split
    · rename_i same
      rw [← same, List.getElem?_set_self present, Option.getD_some]
    · rename_i other
      rw [List.getElem?_set_ne other]

/-- Nobody is forgotten, and the place is taken. The list of actors grows by one or stays as long as it was. -/
theorem Sound.introducing_length (sound : host.Sound) (key : ActorKey) (actor : Actor) :
    host.engine.actors.length ≤ (host.introducing key actor).engine.actors.length ∧
      host.place key < (host.introducing key actor).engine.actors.length := by
  unfold introducing
  cases found : host.actors.get? key with
  | none =>
    rw [place_of_unknown found]
    dsimp only
    rw [List.length_append]
    exact ⟨Nat.le_add_right _ _, Nat.lt_succ_self _⟩
  | some ref =>
    rw [place_of_known found]
    dsimp only
    rw [List.length_set]
    exact ⟨Nat.le_refl _, (sound.known key ref found).1.present⟩

/-- What is known of the actor under the key is as it was said, and what is known of the others is as it was. To be
known is to have a place and to be the one in it. -/
theorem Sound.known?_introducing (sound : host.Sound) (key : ActorKey) (actor : Actor) (other : ActorKey) :
    (host.introducing key actor).known? other = if key = other then some actor else host.known? other := by
  unfold known?
  rw [introducing_get?]
  by_cases same : key = other
  · rw [if_pos same, if_pos same]
    exact congrArg some ((sound.introducing_actor key actor _).trans (if_pos rfl))
  · rw [if_neg same, if_neg same]
    cases found : host.actors.get? other with
    | none => rfl
    | some ref =>
      have elsewhere := sound.place_ne found same
      exact congrArg some ((sound.introducing_actor key actor ref).trans (if_neg elsewhere))

/-- Actors who are there keep their keys, if a new one has the key that it is known under. So all that is filed under
keys of actors stays where it can be found. -/
theorem Sound.introducing_key (sound : host.Sound) (own : actor.key = key) {ref : Nat}
    (present : ref < host.engine.actors.length) :
    ((host.introducing key actor).engine.actor ref).key = (host.engine.actor ref).key := by
  rw [sound.introducing_actor]
  split
  · rename_i same
    cases found : host.actors.get? key with
    | none =>
      rw [place_of_unknown found] at same
      exact absurd present (Nat.not_lt.mpr (Nat.le_of_eq same))
    | some place =>
      rw [place_of_known found] at same
      rw [own, ← same, (sound.known key _ found).2]
  · rfl

/-- The actor is let in, with an id that can be the key and counts as true. Both are asked of an id before anyone is
let in under it. -/
theorem Sound.introducing_welcome (sound : host.Sound) (id : ActorKey.ofValue? actor.id = .ok key)
    (truthy : actor.id.truthy = true) : (host.introducing key actor).engine.Welcome (host.place key) := by
  have new : (host.introducing key actor).engine.actor (host.place key) = actor :=
    (sound.introducing_actor key actor _).trans (if_pos rfl)
  refine ⟨(sound.introducing_length key actor).2, ?_, by rw [new]; exact truthy⟩
  rw [EngineState.Keyed, new, id, Actor.key, ActorKey.eq_of_ofValue? id]

/-- Everyone who was let in before is let in still, in the same place. The one who is introduced may be one of them. -/
theorem Sound.introducing_welcome_of (sound : host.Sound) (id : ActorKey.ofValue? actor.id = .ok key)
    (truthy : actor.id.truthy = true) {ref : Nat} (welcome : host.engine.Welcome ref) :
    (host.introducing key actor).engine.Welcome ref := by
  by_cases same : host.place key = ref
  · rw [← same]
    exact sound.introducing_welcome id truthy
  · have actor : (host.introducing key actor).engine.actor ref = host.engine.actor ref :=
      (sound.introducing_actor key actor ref).trans (if_neg same)
    refine ⟨Nat.lt_of_lt_of_le welcome.present (sound.introducing_length key _).1, ?_, ?_⟩
    · rw [EngineState.Keyed, actor]
      exact welcome.keyed
    · rw [actor]
      exact welcome.truthy

/-- A host stays sound when it gets to know an actor under the key of the id. This is the only way in which actors
come to a host. -/
theorem Sound.introducing (sound : host.Sound) (id : ActorKey.ofValue? actor.id = .ok key)
    (truthy : actor.id.truthy = true) : (host.introducing key actor).Sound := by
  have own : actor.key = key := (ActorKey.eq_of_ofValue? id).symm
  have new : (host.introducing key actor).engine.actor (host.place key) = actor :=
    (sound.introducing_actor key actor _).trans (if_pos rfl)
  refine ⟨fun other ref found => ?_, ⟨⟨rfl, fun other session member => ?_⟩, fun pair member => ?_⟩, ?_⟩
  · rw [introducing_get?] at found
    split at found
    · rename_i same
      cases found
      rw [new, own]
      exact ⟨sound.introducing_welcome id truthy, same⟩
    · obtain ⟨welcome, same⟩ := sound.known other ref found
      rw [sound.introducing_key own welcome.present]
      exact ⟨sound.introducing_welcome_of id truthy welcome, same⟩
  · rw [sound.introducing_key own (sound.receives.welcome _ member).present]
    exact sound.receives.filed other session member
  · exact sound.introducing_welcome_of id truthy (sound.receives.welcome pair member)
  · exact sound.deposits

end Host

end Web

end ChestMenu
