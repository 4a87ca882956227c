import ChestMenu.Proofs.Refusals

/-!
# Requests that are refused

Here is said which states a host in the web gets into, and what a refused request changes in them. A host begins with
nobody known, and whatever it is asked it stays sound: everyone who is known can open, click, turn pages and close
without a failure, but for menus that cannot be drawn.

So in every such state a request to act that is refused leaves behind what its route leaves behind and nothing else.
-/
namespace ChestMenu.Web

open Engine (outcome)

section

variable {host : Host}

variable [Machine]

/-- The surface of an actor is shown with the tokens of the menu, and that leaves a notice at most. Neither changes
who is known or who is seated. -/
theorem Host.Sound.showSurface (sound : host.Sound) (id : String) : ((showSurface id).run.run host).2.Sound := by
  unfold Web.showSurface
  rw [run_get_bind]
  dsimp only
  split
  · exact sound
  · cases host.actors.get? (.text id) with
    | none => exact sound
    | some ref =>
      have receives := Engine.keeps_placeholderTable (P := Receives host.engine)
        (fun _ _ receives => receives.of_subset rfl fun _ member => member) ref _ sound.receives
      have deposits := Engine.keeps_placeholderTable (P := EngineState.Deposits) (fun _ _ deposits => deposits) ref _
        sound.deposits
      have still := sound.following receives deposits
      dsimp only
      rw [run_bind, run_operate]
      rcases done : outcome (Engine.placeholderTable ref) host.engine with ⟨cause | table, t⟩
      all_goals rw [done] at still
      · exact still
      · exact still

/-- The menus are read again, and whether that fails is told. The engine asks for it on behalf of nobody, so no actor
has to be let in. -/
theorem Host.Sound.reload (sound : host.Sound) (listing : FileListing) : ((reload listing).run.run host).2.Sound := by
  have may : host.engine.Permits (.reloadMenus (some listing)) := ⟨fun _ same => by simp [HostCall.actor?] at same, id⟩
  have still := sound.operate may.code
  have step : (tryCatch (do return Except.ok (← Hosting.operate (Engine.reloadMenus (some listing))))
        fun cause => return .error cause : Hosting (Except Failure (OrderedMap String Menu))).run.run host =
      (.ok (outcome (Engine.reloadMenus (some listing)) host.engine).1,
        host.following (outcome (Engine.reloadMenus (some listing)) host.engine).2) := by
    rw [run_tryCatch, run_bind, run_operate]
    rcases outcome (Engine.reloadMenus (some listing)) host.engine with ⟨cause | menus, t⟩
    · rfl
    · rfl
  unfold Web.reload
  rw [run_bind, step]
  dsimp only
  cases (outcome (Engine.reloadMenus (some listing)) host.engine).1 with
  | error cause => exact still
  | ok menus => exact still.congr (Host.tell_actors _ _) (Host.tell_engine _ _)

/-- Whatever is asked of a host, it stays sound. Each route is a few questions about the document and operations of
the engine on behalf of actors who are let in. -/
theorem Host.Sound.answerRoute (sound : host.Sound) (listing : FileListing) (document : Value) (route : Route) :
    ((answerRoute listing document route).run.run host).2.Sound := by
  cases route with
  | index => exact sound
  | menus => exact sound
  | sessions =>
    unfold Web.answerRoute showSessions
    rw [run_get_bind]
    dsimp only
    split
    · exact sound
    · exact sound
  | openMenu => exact (settles_openMenu sound document).1
  | click => exact (settles_click sound document).1
  | page => exact (settles_changePage sound document).1
  | close => exact (settles_closeMenu sound document).1
  | surface actor => exact sound.showSurface actor
  | reload => exact sound.reload listing
  | asset => exact sound

/-- What is set up when a host is created. -/
def setUp (directory : String) (listing : FileListing) : Engine Unit := do
  let _ ← Engine.loadMenus directory (some listing)
  Engine.registerMenuHandler "shop" "SELL" (.sale Host.salePrice) false
  Engine.registerInventoryHandler "shop" .deposit
  Engine.registerPlaceholder "online" .openMenus .everywhere
  Engine.start

/-- A new host knows nobody, and its engine is the one of the configuration once that is set up. That setting it up
succeeded is part of the host having been created. -/
theorem create_eq_ok {config : EngineConfig} {directory : String} {listing : FileListing}
    (created : Host.create config directory listing = .ok host) :
    ∃ engine, EngineState.ofConfig config = .ok engine ∧
      host = { engine := (outcome (setUp directory listing) engine).2 } := by
  unfold Host.create at created
  cases made : EngineState.ofConfig config with
  | error cause =>
    rw [made] at created
    cases created
  | ok engine =>
    rw [made] at created
    refine ⟨engine, rfl, ?_⟩
    change (do
      let _ ← (outcome (setUp directory listing) engine).1
      return ({ engine := (outcome (setUp directory listing) engine).2 } : Host)) = _ at created
    cases ended : (outcome (setUp directory listing) engine).1 with
    | error cause =>
      rw [ended] at created
      cases created
    | ok _ =>
      rw [ended] at created
      cases created
      rfl

/-- An engine of a configuration has nothing open and no handlers. It is idle, then, which is where every run starts. -/
theorem ofConfig_eq_ok {config : EngineConfig} {engine : EngineState}
    (made : EngineState.ofConfig config = .ok engine) : engine.sessions = [] ∧ engine.inventoryHandlers = [] := by
  unfold EngineState.ofConfig at made
  cases legacy : HandlerScope.ofConfig config.legacyScopes with
  | error cause =>
    rw [legacy] at made
    cases made
  | ok legacyScopes =>
    rw [legacy] at made
    cases context : HandlerScope.ofConfig config.contextScopes with
    | error cause =>
      rw [context] at made
      cases made
    | ok contextScopes =>
      rw [context] at made
      cases made
      exact ⟨rfl, rfl⟩

/-- What is set up is asked for on behalf of nobody. It loads the menus and registers the handler of the player's
inventory. -/
theorem code_setUp (directory : String) (listing : FileListing) :
    HostCode (fun c => c.actor? = none) (setUp directory listing) := by
  have ask (c : HostCall) (general : c.actor? = none) :
      HostCode (fun c => c.actor? = none) (c.run Engine.call) :=
    .ask c Engine.call general fun ref found => by simp [general] at found
  refine .andThen (ask (.loadMenus directory (some listing)) rfl) fun _ => ?_
  refine .andThen (ask (.changeHandlers false _) rfl) fun _ => ?_
  refine .andThen (ask (.registerInventoryHandler "shop" .deposit) rfl) fun _ => ?_
  exact .andThen (ask (.registerPlaceholder "online" .openMenus .everywhere) rfl) fun _ => ask .start rfl

/-- The only handler of clicks in the player's inventory is the one that is set up. It is the one that takes what is
deposited. -/
theorem deposits_setUp (directory : String) (listing : FileListing) :
    Engine.Keeps EngineState.Deposits (setUp directory listing) := by
  have ask (c : HostCall) (spares : ¬c.Registers) (general : c.actor? = none) :
      Engine.Keeps EngineState.Deposits (c.run Engine.call) :=
    EngineState.Deposits.keeps_code (.ask c Engine.call spares fun ref found => by simp [general] at found)
  refine Engine.keeps_bind (ask (.loadMenus directory (some listing)) id rfl) fun _ => ?_
  -- The three registrations are looked at one by one: only the second is about the player's inventory.
  refine Engine.keeps_bind ?_ fun _ => Engine.keeps_bind ?_ fun _ => Engine.keeps_bind ?_ fun _ => ask .start id rfl
  · intro s deposits
    unfold Engine.registerMenuHandler Engine.withHandlers
    rw [Engine.outcome_bind_ok _ (Engine.outcome_get s), if_neg Bool.false_ne_true, Engine.outcome_bind,
      Engine.outcome_ofExcept]
    dsimp only
    rcases s.contextHandlers.register "SELL" _ .menu _ with cause | contextHandlers
    · exact deposits
    · exact deposits
  · intro s deposits menu handler registered
    have registered :
        (s.inventoryHandlers.put (MenuName.key (MenuName.toId "shop")) .deposit).get? (MenuName.key menu) =
          some handler := registered
    rw [OrderedMap.get?_put] at registered
    split at registered
    · exact (Option.some.inj registered).symm
    · exact deposits menu handler registered
  · intro s deposits
    unfold Engine.registerPlaceholder
    rw [Engine.outcome_bind_ok _ (Engine.outcome_get s), Engine.outcome_bind, Engine.outcome_ofExcept]
    rcases s.placeholders.registry.register "online" .openMenus _ with cause | registry
    · exact deposits
    · exact deposits

/-- A new host is sound. Nobody is known and nothing is open, so there is only the handler to look at. -/
theorem Host.sound_of_create {config : EngineConfig} {directory : String} {listing : FileListing}
    (created : Host.create config directory listing = .ok host) : host.Sound := by
  obtain ⟨engine, made, rfl⟩ := create_eq_ok created
  obtain ⟨idle, free⟩ := ofConfig_eq_ok made
  have receives : Receives engine engine := ⟨⟨rfl, by simp [idle]⟩, by simp [idle]⟩
  have deposits : engine.Deposits := by
    intro menu handler registered
    rw [free] at registered
    cases registered
  have code : HostCode (fun c => ∀ ref, c.actor? = some ref → engine.Welcome ref) (setUp directory listing) :=
    (code_setUp directory listing).mono fun c general ref same => by simp [general] at same
  have after : Receives engine (outcome (setUp directory listing) engine).2 := Receives.keeps_code code _ receives
  exact ⟨fun _ _ found => (by cases found), after.renew, deposits_setUp directory listing _ deposits⟩

/-- The states that a host gets into: it is created, and then it answers requests, serves clients that listen, and lets
time pass. The directory of menus may hold something else at each request. -/
inductive Host.Reached : Host → Prop where
  | created {config : EngineConfig} {directory : String} {listing : FileListing} {host : Host}
    (created : Host.create config directory listing = .ok host) : Reached host
  | answered {host : Host} (before : Reached host) (listing : FileListing) (request : Request) :
    Reached (host.answer listing request).2
  | connected {host : Host} (before : Reached host) : Reached host.connect
  | clicked {host : Host} (before : Reached host) (data : Value) : Reached (host.clientClick data).2
  | taken {host : Host} (before : Reached host) : Reached host.take.2
  | passed {host : Host} (before : Reached host) (count : Nat) : Reached (host.passTicks count)

/-- Letting time pass is asked for on behalf of nobody. Each tick is one operation, and the induction is on how many
there are. -/
theorem code_tickTimes (s : EngineState) (count : Nat) : HostCode s.Permits (Engine.tickTimes count) := by
  have may : s.Permits .tick := ⟨fun _ same => by simp [HostCall.actor?] at same, id⟩
  induction count with
  | zero => exact .answer ()
  | succ count ih => exact .andThen may.code fun _ => ih

/-- A host stays sound, whatever request it answers. A request that is no request, and one for a route that there is
not, leave it as it was. -/
theorem Host.Sound.answer (sound : host.Sound) (listing : FileListing) (request : Request) :
    (host.answer listing request).2.Sound := by
  unfold Host.answer
  split
  · exact sound
  · split
    · exact sound
    · rename_i route _ _ document _
      have still := sound.answerRoute listing document route
      split
      · rename_i done
        rwa [done] at still
      · rename_i done
        rwa [done] at still

/-- A host that a client clicks in stays sound, too. The data may be anything, as the click is read before it is asked
for. -/
theorem Host.Sound.clientClick (sound : host.Sound) (data : Value) : (host.clientClick data).2.Sound := by
  have settles {α : Type} {x : Hosting α} (ends : Settles host x (fun _ => True) fun _ _ => True) :
      (x.run.run host).2.Sound := ends.1
  unfold Host.clientClick
  refine settles (settles_look sound rfl (fun _ => trivial) fun document _ => ?_)
  refine settles_knownActor sound (fun _ => trivial) (settles_left rfl sound trivial) fun key ref _ found => ?_
  have welcome := (sound.known key ref found).1
  refine settles_integerMember sound (fun _ => trivial) (settles_left rfl sound trivial) fun slot _ => ?_
  refine settles_look sound rfl (fun _ => trivial) fun type _ => ?_
  exact settles_ask (c := .click ref slot type) sound welcome rfl id (fun _ _ _ => trivial)
    fun _ _ _ still => settles_done rfl still trivial

/-- Every host that there can be is sound. The induction is on how it was reached: a new host is sound, and requests
and clicks keep it so. -/
theorem Host.Reached.sound (reached : host.Reached) : host.Sound := by
  induction reached with
  | created created => exact sound_of_create created
  | answered _ listing request sound => exact sound.answer listing request
  | connected _ sound => exact sound.congr (tell_actors _ _) (tell_engine _ _)
  | clicked _ data sound => exact sound.clientClick data
  | taken _ sound => exact sound.congr rfl rfl
  | passed _ count sound => exact sound.operate (code_tickTimes _ count)

/-- Nothing that can be seen of a host is different: the sessions, the surfaces, and who is known with what. -/
structure Host.Unchanged (host after : Host) : Prop where
  sessions : after.engine.sessions = host.engine.sessions
  screen : after.engine.screen = host.engine.screen
  known : after.known? = host.known?

/-- A request to a route that acts. -/
def Route.Acts (route : Route) : Prop :=
  route = .openMenu ∨ route = .click ∨ route = .page ∨ route = .close

/-- Whatever state a host has got into, a request to act that is not done leaves this behind and nothing else: what
`Leftover` says for its route and its status.

Proof: every route settles, that is, it is done or leaves just this behind. Each of the four is followed step by step
up to the first thing that can refuse it, in a host that is sound, as all hosts are that are reached. -/
theorem leftover_of_refused (reached : host.Reached) (listing : FileListing) {request : Request} {route : Route}
    (routed : request.route = .ok route) (acts : route.Acts) {document : Value}
    (given : documentFor request route = .ok document) (refused : (host.answer listing request).1.status ≠ 200) :
    Leftover host document route (host.answer listing request).1.status (host.answer listing request).2 := by
  have settles : Settles host (answerRoute listing document route) Response.IsDone fun result after =>
      Leftover host document route (statusOf result) after := by
    have sound := reached.sound
    rcases acts with rfl | rfl | rfl | rfl
    · exact settles_openMenu sound document
    · exact settles_click sound document
    · exact settles_changePage sound document
    · exact settles_closeMenu sound document
  have same : (host.answer listing request).1.status = statusOf ((answerRoute listing document route).run.run host).1 ∧
      (host.answer listing request).2 = ((answerRoute listing document route).run.run host).2 := by
    unfold Host.answer
    rw [routed]
    dsimp only
    rw [given]
    dsimp only
    rcases (answerRoute listing document route).run.run host with ⟨cause | response, after⟩
    · exact ⟨rfl, rfl⟩
    · exact ⟨rfl, rfl⟩
  rw [same.1] at refused ⊢
  rw [same.2]
  obtain ⟨-, ⟨response, answered, done⟩ | left⟩ := settles
  · rw [answered] at refused
    exact absurd done refused
  · exact left

/-- A request to open a menu. -/
def openRequest (document : Value) : Request where
  method := .post
  path := "/api/open"
  body := .document document

omit [Machine] in
/-- It is asked on the route of openings, whatever the document. -/
theorem route_openRequest (document : Value) : (openRequest document).route = .ok .openMenu := by
  have same : (openRequest document).route = (openRequest .null).route := rfl
  have routed : (openRequest .null).route.toOption = some .openMenu := by decide +kernel
  rw [same]
  cases found : (openRequest .null).route with
  | error status =>
    rw [found] at routed
    cases routed
  | ok route =>
    rw [found] at routed
    cases routed
    rfl

/-- A directory with one menu, which has the name of the actor for a title. -/
def namedListing : FileListing :=
  [("shop.json", .text "\x7b\"title\": \"\x7bplayer\x7d\"\x7d".toList)]

/-- Openings for an actor who is not known yet, with the statuses that refuse them: no menu is named, there is none of
the name, the level is no number, and the title cannot be drawn with a name that is no text. -/
def refusedOpenings : List (Value × Nat) :=
  [(.ofMembers [("actor_id", .text "ann")], 400),
    (.ofMembers [("actor_id", .text "ann"), ("menu", .text "gone")], 404),
    (.ofMembers [("actor", .ofMembers [("id", .text "ann"), ("level", .text "x")]), ("menu", .text "shop")], 500),
    (.ofMembers [("actor", .ofMembers [("id", .text "ann"), ("name", .int 5)]), ("menu", .text "shop")], 500)]

end

/-- In a host of one menu an opening that names no menu is refused, and leaves the actor behind. -/
theorem leftover_of_refused_open : ∃ host : Host, host.Reached ∧
    (openRequest (.ofMembers [("actor_id", .text "ann")])).route = .ok .openMenu ∧
    Leftover host (.ofMembers [("actor_id", .text "ann")]) .openMenu
      (host.answer [] (openRequest (.ofMembers [("actor_id", .text "ann")]))).1.status
      (host.answer [] (openRequest (.ofMembers [("actor_id", .text "ann")]))).2 := by
  have refused : (Host.create {} "menus" namedListing).toOption.any (fun host =>
      (host.answer [] (openRequest (.ofMembers [("actor_id", .text "ann")]))).1.status == 400) = true := by
    decide +kernel
  cases created : Host.create {} "menus" namedListing with
  | error cause =>
    rw [created] at refused
    cases refused
  | ok host =>
    rw [created] at refused
    have status : (host.answer [] (openRequest (.ofMembers [("actor_id", .text "ann")]))).1.status = 400 :=
      eq_of_beq refused
    exact ⟨host, .created created, route_openRequest _,
      leftover_of_refused (.created created) [] (route_openRequest _) (Or.inl rfl) rfl (by rw [status]; decide)⟩

/-- There are four openings that are refused and change the host all the same: each of them leaves an actor behind who
was not known before. -/
theorem refused_can_change : ∃ host : Host, host.Reached ∧ ∀ opening ∈ refusedOpenings,
    (openRequest opening.1).route = .ok .openMenu ∧ documentFor (openRequest opening.1) .openMenu = .ok opening.1 ∧
      (host.answer namedListing (openRequest opening.1)).1.status = opening.2 ∧
      ¬host.Unchanged (host.answer namedListing (openRequest opening.1)).2 := by
  have changes : (Host.create {} "menus" namedListing).toOption.any (fun host =>
      (host.known? (.text "ann")).isNone && refusedOpenings.all fun opening =>
        (host.answer namedListing (openRequest opening.1)).1.status == opening.2 &&
          ((host.answer namedListing (openRequest opening.1)).2.known? (.text "ann")).isSome) = true := by
    decide +kernel
  cases created : Host.create {} "menus" namedListing with
  | error cause =>
    rw [created] at changes
    cases changes
  | ok host =>
    rw [created] at changes
    obtain ⟨unknown, each⟩ := Bool.and_eq_true_iff.mp changes
    refine ⟨host, .created created, fun opening member => ⟨route_openRequest _, ?_, ?_⟩⟩
    · simp only [refusedOpenings, List.mem_cons, List.not_mem_nil, or_false] at member
      rcases member with rfl | rfl | rfl | rfl
      all_goals rfl
    · obtain ⟨status, known⟩ := Bool.and_eq_true_iff.mp (List.all_eq_true.mp each opening member)
      refine ⟨eq_of_beq status, fun unchanged => ?_⟩
      rw [unchanged.known, Option.isNone_iff_eq_none.mp unknown] at known
      cases known

end ChestMenu.Web
