import ChestMenu.Proofs.Visitors

/-!
# What a request makes known of the actor whom it is from

The request names an id, by itself or in a profile; whoever is named becomes known, and then the members of the
profile are taken over in a fixed order.

A member that cannot be taken over ends the taking. What was taken before stays taken, and the actor stays known.
-/
namespace ChestMenu.Web

/-- A member that a profile can have, and the change of an actor that a value of it stands for. -/
abbrev Taker := String × (Value → Except Failure (Actor → Actor))

/-- The members that are taken over, in their order. -/
def takers : List Taker :=
  [("name", fun name => return fun actor => { actor with name }),
    ("health", fun v => do
      let health ← v.toReal
      return fun actor => { actor with health := .real health }),
    ("level", fun v => do
      let level ← v.toInteger
      return fun actor => { actor with level := .int level }),
    ("permissions", fun v => do
      let permissions ← v.distinctMembers
      return fun actor => { actor with permissions })]

/-- Takes over members of a profile, one after another, up to the first that cannot be taken over. What was taken over
before is kept. -/
def taking (profile : Value) : List Taker → Actor → Except Failure Unit × Actor
  | [], actor => (.ok (), actor)
  | taker :: rest, actor =>
    match profileMember? profile taker.1 with
    | .error cause => (.error cause, actor)
    | .ok none => taking profile rest actor
    | .ok (some v) =>
      match taker.2 v with
      | .error cause => (.error cause, actor)
      | .ok change => taking profile rest (change actor)

/-- The profile that a document holds. -/
def profileOf (document : Value) : Value :=
  sectionOrEmpty (document.get "actor")

/-- The id that a document names by itself or, if that counts as false, in its profile. -/
def idOf (document : Value) : Except Failure Value :=
  if (document.get "actor_id").truthy then .ok (document.get "actor_id")
  else (requireMapping (profileOf document)).map (·.get "id")

/-- A new actor, whose name is that of the profile or else the id. -/
def newcomer (id profile : Value) : Actor where
  id
  name := (profile.get? "name").getD id

/-- Who becomes known to a host under an id: the key, and the actor before anything is taken over. It is nobody if the
id cannot be a key, or if a new actor has no mapping for a profile. -/
def Host.entrant? (host : Host) (id profile : Value) : Option (ActorKey × Actor) :=
  match ActorKey.ofValue? id with
  | .error _ => none
  | .ok key =>
    match host.known? key with
    | some actor => some (key, actor)
    | none =>
      match requireMapping profile with
      | .ok profile => some (key, newcomer id profile)
      | .error _ => none

/-- Who becomes known to a host by a document, if an id is named that counts as true. -/
def Host.guest? (host : Host) (document : Value) : Option (ActorKey × Actor) :=
  match idOf document with
  | .error _ => none
  | .ok id => if id.truthy then host.entrant? id (profileOf document) else none

variable {host : Host} {profile : Value} {actor : Actor}

/-- Members that are taken over in two parts are taken over one after another. If one of the first part cannot be
taken over, none of the second part is. -/
theorem taking_append (profile : Value) (first rest : List Taker) (actor : Actor) :
    taking profile (first ++ rest) actor =
      match (taking profile first actor).1 with
      | .ok () => taking profile rest (taking profile first actor).2
      | .error cause => (.error cause, (taking profile first actor).2) := by
  induction first generalizing actor with
  | nil => rfl
  | cons taker first ih =>
    simp only [List.cons_append, taking]
    split
    · rfl
    · exact ih actor
    · split
      · rfl
      · exact ih _

/-- A member that is made into something else, if it can be, and then put into an actor beside the id, leaves the id
alone. All takers have this form. -/
theorem id_of_made {β : Type} {made : Except Failure β} (put : β → Actor → Actor) {change : Actor → Actor}
    (beside : ∀ b actor, (put b actor).id = actor.id)
    (taken : (do return put (← made)) = Except.ok (ε := Failure) change) (actor : Actor) :
    (change actor).id = actor.id := by
  cases made with
  | error cause => cases taken
  | ok b =>
    cases taken
    exact beside b actor

/-- No member changes the id. The takers are gone through one by one, as each puts what it makes into a field of its
own. -/
theorem id_of_taker {taker : Taker} {v : Value} {change : Actor → Actor} (member : taker ∈ takers)
    (taken : taker.2 v = .ok change) (actor : Actor) : (change actor).id = actor.id := by
  simp only [takers, List.mem_cons, List.not_mem_nil, or_false] at member
  rcases member with rfl | rfl | rfl | rfl
  · cases taken
    rfl
  · exact id_of_made (fun health actor => { actor with health := .real health }) (fun _ _ => rfl) taken actor
  · exact id_of_made (fun level actor => { actor with level := .int level }) (fun _ _ => rfl) taken actor
  · exact id_of_made (fun permissions actor => { actor with permissions }) (fun _ _ => rfl) taken actor

/-- Whatever a profile says, the id stays. What is taken over before a member fails has not changed it either. -/
theorem id_taking (profile : Value) (actor : Actor) : (taking profile takers actor).2.id = actor.id := by
  have each : ∀ members ⊆ takers, ∀ actor, (taking profile members actor).2.id = actor.id := by
    intro members within
    induction members with
    | nil => exact fun _ => rfl
    | cons taker rest ih =>
      intro actor
      have still := ih fun _ member => within (List.mem_cons_of_mem _ member)
      unfold taking
      split
      · rfl
      · exact still actor
      · split
        · rfl
        · rename_i change taken
          exact (still _).trans (id_of_taker (within List.mem_cons_self) taken actor)
  exact each takers (List.Subset.refl _) actor

/-- The host with another actor in a place. -/
def Host.editing (host : Host) (ref : Nat) (actor : Actor) : Host :=
  { host with engine := { host.engine with actors := host.engine.actors.set ref actor } }

/-- Putting the actor who is in a place already into that place changes nothing. -/
theorem Host.editing_same (host : Host) {ref : Nat} (present : ref < host.engine.actors.length) :
    host.editing ref (host.engine.actor ref) = host := by
  have same : host.engine.actors.set ref (host.engine.actor ref) = host.engine.actors := by
    rw [EngineState.actor, List.getD, List.getElem?_eq_getElem present, Option.getD_some, List.set_getElem_self]
  rw [Host.editing, same]

/-- What is put into a place twice is there as it was put last. This is what joins the edits of several members into a
single one. -/
theorem Host.editing_editing (host : Host) (ref : Nat) (first last : Actor) :
    (host.editing ref first).editing ref last = host.editing ref last := by
  unfold Host.editing
  dsimp only
  rw [List.set_set]

/-- The actor in the place is the one who was put there, as long as there is such a place. -/
theorem Host.editing_actor (host : Host) {ref : Nat} (actor : Actor) (present : ref < host.engine.actors.length) :
    (host.editing ref actor).engine.actor ref = actor := by
  have there : ref < (host.engine.actors.set ref actor).length := by rwa [List.length_set]
  unfold Host.editing EngineState.actor
  rw [List.getD, List.getElem?_eq_getElem there, Option.getD_some, List.getElem_set_self]

/-- A step takes over members of a profile for the actor in a place, if there is one. -/
def Takes (ref : Nat) (profile : Value) (takers : List Taker) (x : Hosting Unit) : Prop :=
  ∀ host : Host, ref < host.engine.actors.length →
    x.run.run host =
      ((taking profile takers (host.engine.actor ref)).1,
        host.editing ref (taking profile takers (host.engine.actor ref)).2)

/-- The step for one member edits the actor by what the member is made into. A member that the profile does not have
leaves the actor as it is, and one that cannot be made into anything fails. -/
theorem takes_member (ref : Nat) (profile : Value) (taker : Taker) :
    Takes ref profile [taker] (do
      match ← Hosting.ofExcept (profileMember? profile taker.1) with
      | none => return ()
      | some v => changeActor ref (← Hosting.ofExcept (taker.2 v))) := by
  intro host present
  have same := host.editing_same present
  simp only [taking]
  rcases profileMember? profile taker.1 with cause | _ | v
  · exact Prod.ext rfl same.symm
  · exact Prod.ext rfl same.symm
  · -- Once the member is there, only the change it stands for can fail.
    have step :
        (do
          match ← Hosting.ofExcept (.ok (some v)) with
          | none => return ()
          | some v => changeActor ref (← Hosting.ofExcept (taker.2 v)) : Hosting Unit).run.run host =
        (do changeActor ref (← Hosting.ofExcept (taker.2 v)) : Hosting Unit).run.run host := rfl
    rw [step]
    dsimp only
    rcases taker.2 v with cause | change
    · exact Prod.ext rfl same.symm
    · refine Prod.ext rfl ?_
      change ({ host with engine := { host.engine with actors := host.engine.actors.modify ref change } } : Host) = _
      rw [List.modify_eq_set]
      rfl

/-- Two steps, one after the other, take over the members of both. Since the second edits what the first has put into
the place, the two edits are one. -/
theorem Takes.bind {ref : Nat} {first rest : List Taker} {x y : Hosting Unit} (takesFirst : Takes ref profile first x)
    (takesRest : Takes ref profile rest y) : Takes ref profile (first ++ rest) (x >>= fun _ => y) := by
  intro host present
  rw [run_bind, takesFirst host present, taking_append]
  cases (taking profile first (host.engine.actor ref)).1 with
  | error cause => rfl
  | ok done =>
    have there : ref < (host.editing ref (taking profile first (host.engine.actor ref)).2).engine.actors.length := by
      unfold Host.editing
      rwa [List.length_set]
    dsimp only
    rw [takesRest _ there, host.editing_actor _ present, host.editing_editing]

/-- All members are taken over one after another, in the order in which the code asks for them. -/
theorem takes_takeProfile (ref : Nat) (profile : Value) : Takes ref profile takers (takeProfile ref profile) :=
  (takes_member ref profile _).bind <| (takes_member ref profile _).bind <|
    (takes_member ref profile _).bind (takes_member ref profile _)

/-- A new actor is in its place, so becoming known a second time is an edit of that place. -/
theorem Host.introducing_editing {key : ActorKey} {ref : Nat} (found : host.actors.get? key = some ref)
    (actor : Actor) : host.introducing key actor = host.editing ref actor := by
  unfold introducing editing
  rw [place_of_known found, OrderedMap.put_eq_self found, found]

/-- Whoever is known already does not become known anew. The host has no place more and no name more than before. -/
theorem Host.Sound.introducing_known (sound : host.Sound) {key : ActorKey} (known : host.known? key = some actor) :
    host.introducing key actor = host := by
  obtain ⟨ref, found, rfl⟩ := Option.map_eq_some_iff.mp known
  rw [introducing_editing found, editing_same host (sound.known key ref found).1.present]

/-- The actor who became known can be edited in the place. The host is then the one in which the edited actor became
known. -/
theorem Host.introducing_then_editing (host : Host) (key : ActorKey) (first last : Actor) :
    (host.introducing key first).editing (host.place key) last = host.introducing key last := by
  cases found : host.actors.get? key with
  | some ref => rw [introducing_editing found, introducing_editing found, place_of_known found, editing_editing]
  | none =>
    unfold introducing editing
    rw [place_of_unknown found, found]
    dsimp only
    rw [List.set_append_right _ _ (Nat.le_refl _), Nat.sub_self, List.set_cons_zero]

/-- An actor becomes known or is known already, unless nobody can become known. What cannot become known fails and
leaves the host as it was, so there are only these two endings. -/
theorem register_cases (sound : host.Sound) (id profile : Value) :
    (host.entrant? id profile = none ∧ ∃ cause, (register id profile).run.run host = (.error cause, host)) ∨
      ∃ key actor, host.entrant? id profile = some (key, actor) ∧
        (register id profile).run.run host = (.ok (host.place key), host.introducing key actor) := by
  unfold register Host.entrant?
  rcases ActorKey.ofValue? id with cause | key
  · exact Or.inl ⟨rfl, cause, rfl⟩
  · rw [run_ofExcept_bind_ok, run_get_bind]
    dsimp only
    cases found : host.actors.get? key with
    | some ref =>
      have known : host.known? key = some (host.engine.actor ref) := by rw [Host.known?, found, Option.map_some]
      rw [known]
      refine Or.inr ⟨key, _, rfl, ?_⟩
      rw [Host.place_of_known found, sound.introducing_known known]
      rfl
    | none =>
      have unknown : host.known? key = none := by rw [Host.known?, found, Option.map_none]
      rw [unknown]
      dsimp only
      rcases requireMapping profile with cause | members
      · exact Or.inl ⟨rfl, cause, rfl⟩
      · refine Or.inr ⟨key, _, rfl, ?_⟩
        unfold Host.introducing
        rw [Host.place_of_unknown found, found]
        rfl

/-- Whoever becomes known has an id that can be the key and counts as true. In a sound host both hold of the actors
who are known, and a new one is known only by such an id. -/
theorem Host.Sound.named_guest (sound : host.Sound) {document : Value} {key : ActorKey}
    (guest : host.guest? document = some (key, actor)) :
    ActorKey.ofValue? actor.id = .ok key ∧ actor.id.truthy = true := by
  unfold guest? at guest
  split at guest
  · cases guest
  rename_i id named
  split at guest
  case isFalse => cases guest
  rename_i truthy
  have entrant : host.entrant? id (profileOf document) = some (key, actor) := guest
  unfold entrant? at entrant
  split at entrant
  · cases entrant
  · rename_i made
    split at entrant
    · rename_i known
      cases entrant
      obtain ⟨ref, found, rfl⟩ := Option.map_eq_some_iff.mp known
      obtain ⟨welcome, same⟩ := sound.known key ref found
      rw [← same]
      exact ⟨welcome.keyed, welcome.truthy⟩
    · split at entrant
      · cases entrant
        exact ⟨made, truthy⟩
      · cases entrant

/-- The actor of a request once an id is named: it becomes known, and what the profile says is taken over. -/
def actorUnder (id profile : Value) : Hosting (Option Nat) := do
  if !id.truthy then return none
  let ref ← register id profile
  takeProfile ref profile
  return some ref

/-- With an id that counts as true, whoever becomes known does so with as much of the profile as can be taken over. A
profile that fails in the middle fails the step, and what was taken over by then stays. -/
theorem actorUnder_cases (sound : host.Sound) {id : Value} (truthy : id.truthy = true) (profile : Value) :
    (host.entrant? id profile = none ∧ ∃ cause, (actorUnder id profile).run.run host = (.error cause, host)) ∨
      ∃ key actor, host.entrant? id profile = some (key, actor) ∧
        (actorUnder id profile).run.run host =
          ((taking profile takers actor).1.map fun _ => some (host.place key),
            host.introducing key (taking profile takers actor).2) := by
  unfold actorUnder
  rw [truthy, Bool.not_true, if_neg Bool.false_ne_true, run_bind]
  rcases register_cases sound id profile with ⟨nobody, cause, failed⟩ | ⟨key, actor, entrant, registered⟩
  · rw [failed]
    exact Or.inl ⟨nobody, cause, rfl⟩
  · refine Or.inr ⟨key, actor, entrant, ?_⟩
    have new : (host.introducing key actor).engine.actor (host.place key) = actor :=
      (sound.introducing_actor key actor _).trans (if_pos rfl)
    have taken := takes_takeProfile (host.place key) profile _ (sound.introducing_length key actor).2
    rw [new, Host.introducing_then_editing] at taken
    rw [registered]
    dsimp only
    rw [run_bind, taken]
    cases (taking profile takers actor).1 <;> rfl

/-- Whom a request is from: nobody, and then the host is as it was, or someone who becomes known with as much of the
profile as can be taken over. The two endings are told apart by what the document names, before anything is changed. -/
theorem actorOf_cases (sound : host.Sound) (document : Value) :
    (host.guest? document = none ∧ ∃ result, (actorOf document).run.run host = (result, host) ∧
      ∀ ref, result ≠ .ok (some ref)) ∨
      ∃ key actor, host.guest? document = some (key, actor) ∧
        (actorOf document).run.run host =
          ((taking (profileOf document) takers actor).1.map fun _ => some (host.place key),
            host.introducing key (taking (profileOf document) takers actor).2) := by
  have first : (actorOf document).run.run host =
      (Hosting.ofExcept (idOf document) >>= (actorUnder · (profileOf document))).run.run host := by
    unfold actorOf idOf profileOf
    dsimp only
    split
    · rfl
    · rcases requireMapping (sectionOrEmpty (document.get "actor")) with cause | profile
      · rfl
      · rfl
  rw [first]
  unfold Host.guest?
  rcases idOf document with cause | id
  · exact Or.inl ⟨rfl, .error cause, rfl, fun _ => by simp⟩
  · rw [run_ofExcept_bind_ok]
    dsimp only
    cases truthy : id.truthy with
    | false =>
      refine Or.inl ⟨rfl, .ok none, ?_, fun _ => by simp⟩
      unfold actorUnder
      rw [truthy]
      rfl
    | true =>
      rw [if_pos rfl]
      rcases actorUnder_cases sound truthy (profileOf document) with ⟨nobody, cause, failed⟩ | guest
      · exact Or.inl ⟨nobody, .error cause, failed, fun _ => by simp⟩
      · exact Or.inr guest

end ChestMenu.Web
