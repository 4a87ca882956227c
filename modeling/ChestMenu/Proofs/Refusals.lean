import ChestMenu.Proofs.Profiles

/-!
# What a request that is refused leaves behind

Clicks and closings are refused before anything is changed, and so is the going to a page, unless the page is there
and cannot be drawn.

The opening of a menu begins with the actor, whose profile is taken over as far as it can be, and only then looks at
the menu. So a refusal leaves the actor behind as the request has it, and an opening that fails because the menu
cannot be drawn has ended the menu before.
-/
namespace ChestMenu.Web

open Engine (outcome)

variable {α β : Type} {host after : Host} {x : Hosting α} {f : α → Hosting β} {Done : β → Prop}
  {Left : Except Failure β → Host → Prop}

/-- A step ends in a sound host, with an answer of a kind or else with something left behind. -/
def Settles (host : Host) (x : Hosting α) (Done : α → Prop) (Left : Except Failure α → Host → Prop) : Prop :=
  (x.run.run host).2.Sound ∧
    ((∃ a, (x.run.run host).1 = .ok a ∧ Done a) ∨ Left (x.run.run host).1 (x.run.run host).2)

/-- A step that gives an answer of that kind in a sound host settles. -/
theorem settles_done {x : Hosting β} {b : β} (done : x.run.run host = (.ok b, after)) (sound : after.Sound)
    (holds : Done b) : Settles host x Done Left := by
  unfold Settles
  rw [done]
  exact ⟨sound, Or.inl ⟨b, rfl, holds⟩⟩

/-- A step that leaves something of that kind behind in a sound host settles, whatever its result is. -/
theorem settles_left {x : Hosting β} {result : Except Failure β} (done : x.run.run host = (result, after))
    (sound : after.Sound) (left : Left result after) : Settles host x Done Left := by
  unfold Settles
  rw [done]
  exact ⟨sound, Or.inr left⟩

/-- A step ends as one does that gives the same. The step may start in another host, which is how a beginning that is
known to succeed is left out. -/
theorem Settles.of_eq {x y : Hosting β} {middle : Host} (settles : Settles middle y Done Left)
    (same : x.run.run host = y.run.run middle) : Settles host x Done Left := by
  unfold Settles
  rw [same]
  exact settles

/-- After an answer two steps end as the second does. What the first has changed is part of the host in which the
second starts. -/
theorem settles_after {a : α} (first : x.run.run host = (.ok a, after)) (rest : Settles after (f a) Done Left) :
    Settles host (x >>= f) Done Left :=
  rest.of_eq (by rw [run_bind, first])

/-- After a failure no other step is taken. So what the first leaves behind is what both leave behind. -/
theorem settles_stopped {cause : Failure} (first : x.run.run host = (.error cause, after)) (sound : after.Sound)
    (left : Left (.error cause) after) : Settles host (x >>= f) Done Left :=
  settles_left (by rw [run_bind, first]) sound left

/-- A step that looks at the host leaves it as it is, and what it does not fail on the next step goes on with. Such
are all steps that read a member of the document or find out who is known. -/
theorem settles_look (sound : host.Sound) (looks : (x.run.run host).2 = host)
    (failed : ∀ cause, Left (.error cause) host)
    (rest : ∀ a, (x.run.run host).1 = .ok a → Settles host (f a) Done Left) : Settles host (x >>= f) Done Left := by
  rcases step : x.run.run host with ⟨cause | a, t⟩
  all_goals
    rw [step] at looks
    cases looks
  · exact settles_stopped step sound (failed cause)
  · exact settles_after step (rest a (by rw [step]))

/-- An operation of the engine on behalf of an actor who is let in leaves the host sound, whether it fails or not. How
it ends has to be followed further by what is known of the operation. -/
theorem settles_ask [Machine] {ref : Nat} {c : HostCall} {g : c.Answer → Hosting β} (sound : host.Sound)
    (welcome : host.engine.Welcome ref) (forOne : c.actor? = some ref) (spares : ¬c.Registers)
    (failed : ∀ cause t, outcome (c.run Engine.call) host.engine = (.error cause, t) →
      Left (.error cause) (host.following t))
    (rest : ∀ answer t, outcome (c.run Engine.call) host.engine = (.ok answer, t) → (host.following t).Sound →
      Settles (host.following t) (g answer) Done Left) :
    Settles host (Hosting.operate (c.run Engine.call) >>= g) Done Left := by
  have still := sound.ask welcome c forOne spares
  have step := run_operate (c.run Engine.call) host
  rcases done : outcome (c.run Engine.call) host.engine with ⟨cause | answer, t⟩
  all_goals rw [done] at still step
  · exact settles_stopped step still (failed cause t done)
  · exact settles_after step (rest answer t done still)

/-- Whom a document names is found by a look at the known actors. It fails, finds nobody or finds one of them, and the
host is the same in all three cases. -/
theorem settles_knownActor {document : Value} {g : Option Nat → Hosting β} (sound : host.Sound)
    (failed : ∀ cause, Left (.error cause) host) (nobody : Settles host (g none) Done Left)
    (each : ∀ key ref, ActorKey.ofValue? ((document.get? "actor_id").getD (.text "")) = .ok key →
      host.actors.get? key = some ref → Settles host (g (some ref)) Done Left) :
    Settles host (knownActor document >>= g) Done Left := by
  cases named : ActorKey.ofValue? ((document.get? "actor_id").getD (.text "")) with
  | error cause =>
    have step : (knownActor document).run.run host = (.error cause, host) := by
      unfold knownActor
      dsimp only
      rw [named]
      rfl
    exact settles_stopped step sound (failed cause)
  | ok key =>
    have step : (knownActor document).run.run host = (.ok (host.actors.get? key), host) := by
      unfold knownActor
      dsimp only
      rw [named]
      rfl
    refine settles_after step ?_
    cases found : host.actors.get? key with
    | none => exact nobody
    | some ref => exact each key ref named found

/-- The integer that a document names is found by a look at the document. It fails, finds none or finds one, and the
host is the same in all three cases. -/
theorem settles_integerMember {document : Value} {name : String} {g : Option Int → Hosting β} (sound : host.Sound)
    (failed : ∀ cause, Left (.error cause) host) (noNumber : Settles host (g none) Done Left)
    (each : ∀ n, (document.get name).toInteger = .ok n → Settles host (g (some n)) Done Left) :
    Settles host (integerMember document name >>= g) Done Left := by
  unfold integerMember
  split
  · rename_i n read
    exact settles_after (a := some n) rfl (each n read)
  · rename_i cause _
    split
    · exact settles_after (a := none) rfl noNumber
    · exact settles_stopped rfl sound (failed cause)

/-- The status of an answer; what breaks off is answered with 500. -/
def statusOf : Except Failure Response → Nat
  | .ok response => response.status
  | .error _ => 500

/-- Another host knows what this one does, but for the actor under a key. -/
def Host.KnowsBut (host after : Host) (key : ActorKey) (actor : Actor) : Prop :=
  ∀ other, after.known? other = if key = other then some actor else host.known? other

/-- An actor became known and nothing was opened. -/
structure Host.Introduced (host : Host) (key : ActorKey) (actor : Actor) (after : Host) : Prop where
  sessions : after.engine.sessions = host.engine.sessions
  screen : after.engine.screen = host.engine.screen
  known : host.KnowsBut after key actor

/-- Why no menu is opened: none is named, its name is no text, or there is none of the name. -/
inductive Unopenable (s : EngineState) (document : Value) : Nat → Prop where
  | unnamed (absent : (document.get "menu").truthy = false) : Unopenable s document 400
  | noText (named : (document.get "menu").truthy = true) (other : ∀ name, document.get "menu" ≠ .text name) :
    Unopenable s document 500
  | unknown (name : String) (named : document.get "menu" = .text name) (unknown : s.menu? name = none) :
    Unopenable s document 404

/-- What a refused request leaves behind, by its route and the status of the refusal. -/
inductive Leftover [Machine] (host : Host) (document : Value) : Route → Nat → Host → Prop where
  /-- Everything is as it was. -/
  | nothing {route : Route} {status : Nat} (acts : route ≠ .openMenu) : Leftover host document route status host
  /-- Everything is as it was, since nobody could become known. -/
  | nobody {status : Nat} (guest : host.guest? document = none) : Leftover host document .openMenu status host
  /-- The members of the profile before the one that could not be taken over. -/
  | partly {key : ActorKey} {actor : Actor} {cause : Failure} {after : Host}
    (guest : host.guest? document = some (key, actor))
    (refused : (taking (profileOf document) takers actor).1 = .error cause)
    (introduced : host.Introduced key (taking (profileOf document) takers actor).2 after) :
    Leftover host document .openMenu 500 after
  /-- All that the profile says. -/
  | wholly {key : ActorKey} {actor : Actor} {status : Nat} {after : Host}
    (guest : host.guest? document = some (key, actor))
    (taken : (taking (profileOf document) takers actor).1 = .ok ())
    (unopenable : Unopenable host.engine document status)
    (introduced : host.Introduced key (taking (profileOf document) takers actor).2 after) :
    Leftover host document .openMenu status after
  /-- All that the profile says, and in place of the menu that was open one that cannot be drawn. -/
  | undrawn {key : ActorKey} {actor : Actor} {name : String} {menu : Menu} {after : Host}
    (guest : host.guest? document = some (key, actor))
    (taken : (taking (profileOf document) takers actor).1 = .ok ())
    (named : document.get "menu" = .text name) (there : host.engine.menu? name = some menu)
    (undrawn : (host.introducing key (taking (profileOf document) takers actor).2).engine.Undrawn (host.place key) menu
      (Engine.nextContext (document.get "context") (document.get "preserve_context").truthy
        (host.engine.sessions.get? key)) after.engine)
    (known : host.KnowsBut after key (taking (profileOf document) takers actor).2) :
    Leftover host document .openMenu 500 after
  /-- A page of the open menu that cannot be drawn. -/
  | turned {key : ActorKey} {ref : Nat} {page : Int} {after : Host}
    (named : ActorKey.ofValue? ((document.get? "actor_id").getD (.text "")) = .ok key)
    (found : host.actors.get? key = some ref) (asked : (document.get "page").toInteger = .ok page)
    (turned : host.engine.Turned ref page after.engine) (known : after.known? = host.known?) :
    Leftover host document .page 500 after

/-- An answer that says that the request was done. -/
def Response.IsDone (response : Response) : Prop :=
  response.status = 200

/-- What is known depends on the known actors only. Sessions, surfaces and the ledger have no part in it. -/
theorem Host.known?_congr (actors : after.actors = host.actors)
    (same : after.engine.actors = host.engine.actors) : after.known? = host.known? := by
  funext key
  rw [known?, known?, actors]
  congr 1
  funext ref
  rw [EngineState.actor, same, EngineState.actor]

variable {document : Value}

/-- Clicks are refused before anything is changed. Only when the slot and the type of the click are read and the actor
is known is the engine asked. -/
theorem settles_click [Machine] (sound : host.Sound) (document : Value) :
    Settles host (click document) Response.IsDone fun result after =>
      Leftover host document .click (statusOf result) after := by
  have unchanged {status : Nat} : Leftover host document .click status host := .nothing (by simp)
  unfold click
  refine settles_knownActor sound (fun _ => unchanged) (settles_left rfl sound unchanged) fun key ref _ found => ?_
  have welcome := (sound.known key ref found).1
  refine settles_look sound rfl (fun _ => unchanged) fun _ same => ?_
  cases same
  split
  · exact settles_left rfl sound unchanged
  refine settles_integerMember sound (fun _ => unchanged) (settles_left rfl sound unchanged) fun slot _ => ?_
  refine settles_look sound rfl (fun _ => unchanged) fun type _ => ?_
  refine settles_ask (c := .click ref slot type) sound welcome rfl id (fun cause t failed => ?_)
    fun answer t answered still => ?_
  · obtain ⟨answer, t, answered⟩ := sound.deposits.click_answers welcome.keyed slot type
    exact absurd (failed.symm.trans answered) (by simp)
  · exact settles_done rfl (still.congr (Host.tell_actors _ _) (Host.tell_engine _ _)) rfl

/-- Closings are refused before anything is changed, too. The only thing to find out is who asks. -/
theorem settles_closeMenu [Machine] (sound : host.Sound) (document : Value) :
    Settles host (closeMenu document) Response.IsDone fun result after =>
      Leftover host document .close (statusOf result) after := by
  have unchanged {status : Nat} : Leftover host document .close status host := .nothing (by simp)
  unfold closeMenu
  refine settles_knownActor sound (fun _ => unchanged) (settles_left rfl sound unchanged) fun key ref _ found => ?_
  have welcome := (sound.known key ref found).1
  refine settles_ask (c := .close ref) sound welcome rfl id (fun cause t failed => ?_) fun answer t answered still => ?_
  · obtain ⟨answer, t, answered⟩ := welcome.close_answers sound.receives
    exact absurd (failed.symm.trans answered) (by simp)
  · exact settles_done rfl (still.congr (Host.tell_actors _ _) (Host.tell_engine _ _)) rfl

/-- The going to a page is refused before anything is changed, unless the page cannot be drawn. Then the session has
the new page already, as the engine notes the page before it draws it. -/
theorem settles_changePage [Machine] (sound : host.Sound) (document : Value) :
    Settles host (changePage document) Response.IsDone fun result after =>
      Leftover host document .page (statusOf result) after := by
  have unchanged {status : Nat} : Leftover host document .page status host := .nothing (by simp)
  unfold changePage
  refine settles_knownActor sound (fun _ => unchanged) (settles_left rfl sound unchanged) fun key ref named found => ?_
  have welcome := (sound.known key ref found).1
  refine settles_integerMember sound (fun _ => unchanged) (settles_left rfl sound unchanged) fun page asked => ?_
  refine settles_ask (c := .setPage ref page) sound welcome rfl id (fun cause t failed => ?_)
    fun answer t answered still => ?_
  · rcases welcome.setPage_cases sound.receives page with ⟨answer, u, answered⟩ | ⟨why, u, broke, turned⟩
    · exact absurd (failed.symm.trans answered) (by simp)
    · cases failed.symm.trans broke
      refine .turned named found asked ?_ (Host.known?_congr (host.following_actors t) ?_)
      · rw [Host.following_engine]
        exact ⟨turned.actors, turned.sessions, turned.screen, turned.failed⟩
      · rw [Host.following_engine]
        exact turned.actors
  · exact settles_done rfl still rfl

/-- A value that has to be a text and passes is one. There is no other value that counts as a text there. -/
theorem eq_text_of_requireText {v : Value} {text : String} (passed : requireText v = .ok text) : v = .text text := by
  unfold requireText at passed
  split at passed
  · cases passed
    rfl
  · rename_i other
    cases keyed : v.requireKey with
    | error cause =>
      rw [keyed] at passed
      cases passed
    | ok key =>
      rw [keyed] at passed
      cases passed

/-- Someone becomes known, and the engine does nothing but to leave a notice. The host is sound then, with one more
actor at most. -/
theorem Host.Sound.introduced (sound : host.Sound) (key : ActorKey) (actor : Actor) :
    host.Introduced key actor (host.introducing key actor) ∧
      ∀ ledger, host.Introduced key actor ((host.introducing key actor).following
        { (host.introducing key actor).engine with ledger }) := by
  have known := sound.known?_introducing key actor
  refine ⟨⟨rfl, rfl, known⟩, fun ledger => ⟨?_, ?_, fun other => ?_⟩⟩
  · rw [following_engine]
    rfl
  · rw [following_engine]
    rfl
  · rw [known?_congr (following_actors _ _) (by rw [following_engine])]
    exact known other

/-- Once the actor of the request is known, a menu is opened unless there is none of the name or it cannot be drawn.
In both cases the actor stays known, which is what an opening that is refused leaves behind. -/
theorem settles_opening [Machine] (sound : host.Sound) {key : ActorKey} {actor : Actor} {name : String}
    (guest : host.guest? document = some (key, actor))
    (taken : (taking (profileOf document) takers actor).1 = .ok ()) (named : document.get "menu" = .text name) :
    Settles (host.introducing key (taking (profileOf document) takers actor).2) (do
      if ← Hosting.operate (Engine.openMenu (host.place key) name (document.get "context")
          (document.get "preserve_context").truthy) then
        Hosting.tellSessions
        let host' ← get
        return reply 200 [("success", .bool true), ("surface", host'.surfaceOf (host.place key))]
      else return refuse 404 ("Unknown menu '" ++ name ++ "'"))
      Response.IsDone fun result after => Leftover host document .openMenu (statusOf result) after := by
  obtain ⟨isKey, truthy⟩ := sound.named_guest guest
  rw [← id_taking (profileOf document) actor] at isKey truthy
  have middle := sound.introducing isKey truthy
  have welcome := sound.introducing_welcome isKey truthy
  obtain ⟨-, noticed⟩ := sound.introduced key (taking (profileOf document) takers actor).2
  have known := sound.known?_introducing key (taking (profileOf document) takers actor).2
  -- The context that may be kept is that of the session under the key, which the profile does not change.
  have session : (host.introducing key (taking (profileOf document) takers actor).2).engine.session? (host.place key) =
      host.engine.sessions.get? key := by
    rw [EngineState.session?, sound.introducing_actor, if_pos rfl, Actor.key, ← ActorKey.eq_of_ofValue? isKey]
    rfl
  have opening := welcome.openMenu_cases middle.receives name (document.get "context")
    (document.get "preserve_context").truthy
  refine settles_ask (c := .openMenu (host.place key) name (document.get "context") _) middle welcome rfl id
    (fun cause t failed => ?_) fun answer t answered still => ?_
  · rcases opening with ⟨ledger, -, gone⟩ | ⟨u, opened⟩ | ⟨menu, why, u, there, broke, undrawn⟩
    · exact absurd (failed.symm.trans gone) (by simp)
    · exact absurd (failed.symm.trans opened) (by simp)
    · cases failed.symm.trans broke
      rw [session] at undrawn
      refine .undrawn guest taken named there ?_ fun other => ?_
      · rw [Host.following_engine]
        exact ⟨undrawn.actors, undrawn.session, undrawn.surface, undrawn.others, undrawn.failed⟩
      · rw [Host.known?_congr (Host.following_actors _ t) (by rw [Host.following_engine]; exact undrawn.actors)]
        exact known other
  · rcases opening with ⟨ledger, unknown, gone⟩ | ⟨u, opened⟩ | ⟨menu, why, u, there, broke, -⟩
    · cases answered.symm.trans gone
      exact settles_left rfl still (.wholly guest taken (.unknown name named unknown) (noticed ledger))
    · cases answered.symm.trans opened
      exact settles_done rfl (still.congr (Host.tell_actors _ _) (Host.tell_engine _ _)) rfl
    · exact absurd (answered.symm.trans broke) (by simp)

/-- The opening of a menu settles. It makes the actor known before it asks for the name of the menu, so a refusal can
leave the actor behind, where the other three routes leave nothing. -/
theorem settles_openMenu [Machine] (sound : host.Sound) (document : Value) :
    Settles host (openMenu document) Response.IsDone fun result after =>
      Leftover host document .openMenu (statusOf result) after := by
  unfold openMenu
  rcases actorOf_cases sound document with ⟨nobody, result, done, noOne⟩ | ⟨key, actor, guest, done⟩
  · have unchanged {status : Nat} : Leftover host document .openMenu status host := .nobody nobody
    rcases result with cause | _ | ref
    · exact settles_stopped done sound unchanged
    · exact settles_after done (settles_left rfl sound unchanged)
    · exact absurd rfl (noOne ref)
  obtain ⟨isKey, truthy⟩ := sound.named_guest guest
  rw [← id_taking (profileOf document) actor] at isKey truthy
  have middle := sound.introducing isKey truthy
  obtain ⟨introduced, -⟩ := sound.introduced key (taking (profileOf document) takers actor).2
  cases taken : (taking (profileOf document) takers actor).1 with
  | error cause =>
    rw [taken] at done
    exact settles_stopped done middle (.partly guest taken introduced)
  | ok all =>
    rw [taken] at done
    refine settles_after done ?_
    dsimp only
    cases truth : (document.get "menu").truthy with
    | false => exact settles_left rfl middle (.wholly guest taken (.unnamed truth) introduced)
    | true =>
      rw [Bool.not_true, if_neg Bool.false_ne_true]
      cases text : requireText (document.get "menu") with
      | error cause =>
        have other (name : String) : document.get "menu" ≠ .text name := by
          intro same
          rw [same] at text
          cases text
        exact settles_stopped rfl middle (.wholly guest taken (.noText truth other) introduced)
      | ok name =>
        exact settles_after (a := name) rfl (settles_opening sound guest taken (eq_text_of_requireText text))

end ChestMenu.Web
