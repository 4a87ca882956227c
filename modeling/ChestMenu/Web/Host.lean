import ChestMenu.Engine.Click
import ChestMenu.Engine.Menus
import ChestMenu.Engine.Refresh
import ChestMenu.Engine.Registry
import ChestMenu.Web.Request

/-!
# The web host

The web host has menus for actors who are named in requests. Whoever opens a menu becomes a known
actor; every other request for an unknown actor is refused and changes nothing.

Clients that listen are told of every drawing, of every effect and, after most requests, of the open
menus. A request that breaks off is answered by a status alone, and what it did before stays done.
-/
namespace ChestMenu.Web

open ChestMenu.Number

variable [Machine]

/-- What clients are told. -/
structure Event where
  name : String
  data : Value

/-- A web host: its engine, the known actors by their ids, whether a client listens, and what clients
were told and have not taken yet. -/
structure Host where
  engine : EngineState
  actors : OrderedMap ActorKey Nat := []
  isHeard : Bool := false
  told : List Event := []

/-- A step of the host. -/
abbrev Hosting := ExceptT Failure (StateM Host)

/-- What clients are told of an event of the engine. -/
def Event.ofEngine? : ChestMenu.Event → Option Event
  | .drawn surface => some ⟨"menu_render", surface.document⟩
  | .effect effect =>
    some ⟨"menu_effect",
      .ofMembers [("kind", .text effect.parts.1), ("args", .list effect.parts.2)]⟩
  | _ => none

/-- The name that a value has as a member of a document. -/
def memberName (v : Value) : String :=
  match v with
  | .bool b => if b then "true" else "false"
  | .real x =>
    match realParts x with
    | .nan => "NaN"
    | .infinite negative => if negative then "-Infinity" else "Infinity"
    | .finite .. => realText x
  | v => v.label

namespace Host

/-- Tells clients something. -/
def tell (host : Host) (events : List Event) : Host :=
  if host.isHeard then { host with told := host.told ++ events } else host

/-- The open menus by actor. -/
def openMenus (host : Host) : Value :=
  .map (Value.ofPairs (host.engine.openMenus.map fun (actor, menu) =>
    (.text (memberName actor), menu)))

/-- The surface of an actor, or null. -/
def surface (host : Host) (actor : ActorKey) : Value :=
  ((host.engine.screen.get? actor).map (·.document)).getD .null

/-- The surface of a known actor, or null. -/
def surfaceOf (host : Host) (ref : Nat) : Value :=
  host.surface (host.engine.actor ref).key

end Host

namespace Hosting

/-- Goes on with a result. -/
def ofExcept {α : Type} (result : Except Failure α) : Hosting α :=
  ExceptT.mk (pure result)

/-- Runs an operation of the engine, and tells clients what happened. -/
def operate {α : Type} (step : Engine α) : Hosting α := do
  let host ← get
  let (result, engine) := step.run.run host.engine
  let events := engine.journal.filterMap Event.ofEngine?
  set ({ host with engine := { engine with journal := [] } }.tell events)
  ofExcept result

/-- Tells clients the open menus. -/
def tellSessions : Hosting Unit :=
  modify fun host => host.tell [⟨"sessions", host.openMenus⟩]

end Hosting

/-- A member of a document that counts as an empty mapping if it counts as false. -/
def sectionOrEmpty (v : Value) : Value :=
  if v.truthy then v else .map []

/-- The pairs of a value, which has to be a mapping. -/
def requireMapping (v : Value) : Except Failure Value :=
  match v with
  | .map pairs => .ok (.map pairs)
  | _ => .error (.missingAttribute "get")

/-- The text of a value that has to be one. -/
def requireText (v : Value) : Except Failure String :=
  match v with
  | .text s => .ok s
  | v => do throw (.mismatchedTypes "str" (← v.requireKey).typeName)

/-- Whether a value has a member of a name. -/
def hasMember (v : Value) (name : String) : Except Failure Bool :=
  match v with
  | .map pairs => .ok (Value.lookup? name pairs).isSome
  | .text s => .ok (Text.occursIn name.toList s.toList)
  | .list xs => .ok (xs.any fun x => x.sameKey (.text name))
  | v => .error (.notIterable v.typeName)

/-- A member of a profile, if the profile has it. -/
def profileMember? (profile : Value) (name : String) : Except Failure (Option Value) := do
  if ← hasMember profile name then return some ((← requireMapping profile).get name)
  else return none

/-- Changes an actor. -/
def changeActor (ref : Nat) (change : Actor → Actor) : Hosting Unit :=
  modify fun host =>
    { host with engine := { host.engine with actors := host.engine.actors.modify ref change } }

/-- The known actor that a document names by `actor_id`. -/
def knownActor (document : Value) : Hosting (Option Nat) := do
  let id := (document.get? "actor_id").getD (.text "")
  return (← get).actors.get? (← Hosting.ofExcept (ActorKey.ofValue? id))

/-- The reference of an actor, who becomes known if need be. -/
def register (id profile : Value) : Hosting Nat := do
  let key ← Hosting.ofExcept (ActorKey.ofValue? id)
  match (← get).actors.get? key with
  | some ref => return ref
  | none =>
    let profile ← Hosting.ofExcept (requireMapping profile)
    let host ← get
    let ref := host.engine.actors.length
    let newcomer : Actor := { id, name := (profile.get? "name").getD id }
    set { host with
      engine := { host.engine with actors := host.engine.actors ++ [newcomer] }
      actors := host.actors.put key ref }
    return ref

/-- Takes over what a profile says of an actor, one member after another. -/
def takeProfile (ref : Nat) (profile : Value) : Hosting Unit := do
  let member (name : String) (take : Value → Except Failure (Actor → Actor)) : Hosting Unit := do
    match ← Hosting.ofExcept (profileMember? profile name) with
    | none => return ()
    | some v => changeActor ref (← Hosting.ofExcept (take v))
  member "name" fun name => return fun actor => { actor with name }
  member "health" fun v => do
    let health ← v.toReal
    return fun actor => { actor with health := .real health }
  member "level" fun v => do
    let level ← v.toInteger
    return fun actor => { actor with level := .int level }
  member "permissions" fun v => do
    let permissions ← v.distinctMembers
    return fun actor => { actor with permissions }

/-- The actor that a document is from, named by itself or by its profile. -/
def actorOf (document : Value) : Hosting (Option Nat) := do
  let direct := document.get "actor_id"
  let profile := sectionOrEmpty (document.get "actor")
  let id ←
    if direct.truthy then pure direct
    else do pure ((← Hosting.ofExcept (requireMapping profile)).get "id")
  if !id.truthy then return none
  let ref ← register id profile
  takeProfile ref profile
  return some ref

/-- An answer with a document. -/
def reply (status : Nat) (members : List (String × Value)) : Response :=
  ⟨status, some (.ofMembers members)⟩

/-- A refusal. -/
def refuse (status : Nat) (reason : String) : Response :=
  reply status [("error", .text reason)]

/-- The integer that a member of a document names. An infinite number breaks the request off. -/
def integerMember (document : Value) (name : String) : Hosting (Option Int) := do
  match (document.get name).toInteger with
  | .ok n => return some n
  | .error cause => if cause.isNoNumber then return none else throw cause

/-- The way to click that a document names, or with the left button. -/
def clickTypeMember (document : Value) : Hosting ClickType :=
  Hosting.ofExcept (ClickType.ofValue ((document.get? "click_type").getD (.text "LEFT")))

/-- Opens a menu. -/
def openMenu (document : Value) : Hosting Response := do
  match ← actorOf document with
  | none => return refuse 400 "actor_id is required"
  | some ref =>
    if !(document.get "menu").truthy then return refuse 400 "menu is required"
    let menu ← Hosting.ofExcept (requireText (document.get "menu"))
    let keep := (document.get "preserve_context").truthy
    if ← Hosting.operate (Engine.openMenu ref menu (document.get "context") keep) then
      Hosting.tellSessions
      let host ← get
      return reply 200 [("success", .bool true), ("surface", host.surfaceOf ref)]
    else return refuse 404 ("Unknown menu '" ++ menu ++ "'")

/-- Clicks on a slot. -/
def click (document : Value) : Hosting Response := do
  match ← knownActor document with
  | none => return refuse 404 "No open menu for actor"
  | some ref =>
    if ((← get).engine.session? ref).isNone then return refuse 404 "No open menu for actor"
    match ← integerMember document "slot" with
    | none => return refuse 400 "slot must be an integer"
    | some slot =>
      let type ← clickTypeMember document
      let outcome ← Hosting.operate (Engine.click ref slot type)
      Hosting.tellSessions
      let host ← get
      return reply 200 [("cancelled", .bool outcome.cancelled), ("silent", .bool outcome.silent),
        ("item_key", (outcome.itemKey.map .text).getD .null),
        ("executed", .list (outcome.executed.map .text)),
        ("surface", host.surfaceOf ref)]

/-- Goes to a page. -/
def changePage (document : Value) : Hosting Response := do
  match ← knownActor document with
  | none => return refuse 404 "Unknown actor"
  | some ref =>
    match ← integerMember document "page" with
    | none => return refuse 400 "page must be an integer"
    | some page =>
      let changed ← Hosting.operate (Engine.setPage ref page)
      let host ← get
      return reply 200 [("success", .bool changed), ("surface", host.surfaceOf ref)]

/-- Closes a menu. -/
def closeMenu (document : Value) : Hosting Response := do
  match ← knownActor document with
  | none => return refuse 404 "Unknown actor"
  | some ref =>
    let closed ← Hosting.operate (Engine.close ref)
    Hosting.tellSessions
    return reply 200 [("success", .bool closed)]

/-- The surface of an actor, with the tokens of the menu and the ticks that it is open. -/
def showSurface (id : String) : Hosting Response := do
  let host ← get
  let actor := ActorKey.text id
  match host.surface actor with
  | .null => return refuse 404 "No open menu for actor"
  | surface =>
    let table ←
      match host.actors.get? actor with
      | some ref => Hosting.operate (Engine.placeholderTable ref)
      | none => pure []
    let session := host.engine.sessions.get? actor
    let ofSession (value : Session → Int) : Value :=
      (session.map fun session => .int (value session)).getD .null
    return reply 200 [("surface", surface),
      ("placeholders", .ofMembers table),
      ("opened_tick", ofSession fun session => session.openedTick),
      ("ticks_open", ofSession fun session => (host.engine.tick : Int) - session.openedTick)]

/-- The open menus by actor. They are put in order, so ids may not be texts and numbers at once. -/
def showSessions : Hosting Response := do
  let host ← get
  let isText (id : Value) : Bool := id matches .text _
  let ids := host.engine.openMenus.map (·.1)
  if ids.any isText && !ids.all isText then throw (.mismatchedTypes "str" "int")
  return ⟨200, some host.openMenus⟩

/-- Texts in order. -/
def sortedTexts (texts : List String) : Value :=
  .list ((texts.mergeSort).map .text)

/-- Reads all menus again. A failure is told in the answer. -/
def reload (listing : FileListing) : Hosting Response := do
  let loaded ← tryCatch (do return Except.ok (← Hosting.operate (Engine.reloadMenus (some listing))))
    fun cause => return .error cause
  match loaded with
  | .error cause => return refuse 500 cause.message
  | .ok menus =>
    Hosting.tellSessions
    return reply 200 [("success", .bool true), ("menus", sortedTexts menus.keys)]

/-- What there is to tell of a menu. -/
def summary (menu : Menu) : Value :=
  .ofMembers [("id", .text menu.id), ("title", .text menu.title), ("size", .int menu.size),
    ("pages", .int menu.totalPages), ("items", sortedTexts menu.items.keys)]

/-- Answers a request on a route; the listing is what the directory of menus holds now. -/
def answerRoute (listing : FileListing) (document : Value) : Route → Hosting Response
  | .index => do
    return reply 200 [("service", .text "menu-engine"),
      ("menus", sortedTexts (← get).engine.menus.keys)]
  | .menus => do
    let menus := (← get).engine.menus.map (·.2)
    return ⟨200, some (.list ((menus.mergeSort fun a b => a.id ≤ b.id).map summary))⟩
  | .sessions => showSessions
  | .openMenu => openMenu document
  | .click => click document
  | .page => changePage document
  | .close => closeMenu document
  | .surface actor => showSurface actor
  | .reload => reload listing
  | .asset => return ⟨404, none⟩

/-- The document of a request to a route: a request to read has none, and reading the menus again
needs none. -/
def documentFor (request : Request) (route : Route) : Except Response Value :=
  match route with
  | .openMenu | .click | .page | .close =>
    match request.body.read with
    | .error status => .error ⟨status, none⟩
    | .ok value =>
      match requireMapping (sectionOrEmpty value) with
      | .ok document => .ok document
      | .error _ => .error ⟨500, none⟩
  | _ => .ok .null

namespace Host

/-- Answers a request. -/
def answer (host : Host) (listing : FileListing) (request : Request) : Response × Host :=
  match request.route with
  | .error status => (⟨status, none⟩, host)
  | .ok route =>
    match documentFor request route with
    | .error response => (response, host)
    | .ok document =>
      match (answerRoute listing document route).run.run host with
      | (.ok response, host) => (response, host)
      | (.error _, host) => (⟨500, none⟩, host)

/-- A client begins to listen, and is told the open menus. -/
def connect (host : Host) : Host :=
  { host with isHeard := true, told := [] }.tell [⟨"sessions", host.openMenus⟩]

/-- A client that listens clicks on a slot; a click that makes no sense is passed over. -/
def clientClick (host : Host) (data : Value) : Except Failure Unit × Host :=
  let step : Hosting Unit := do
    let document ← Hosting.ofExcept (requireMapping (sectionOrEmpty data))
    match ← knownActor document with
    | none => return ()
    | some ref =>
      match ← integerMember document "slot" with
      | none => return ()
      | some slot =>
        let _ ← Hosting.operate (Engine.click ref slot (← clickTypeMember document))
  step.run.run host

/-- What clients were told, which is taken away. -/
def take (host : Host) : List Event × Host :=
  (host.told, { host with told := [] })

/-- Lets ticks pass. -/
def passTicks (host : Host) (count : Nat) : Host :=
  ((Hosting.operate (Engine.tickTimes count)).run.run host).2

/-- The price of an item in the shop. -/
def salePrice : Int := 10

/-- A new host with the menus of a directory, a shop that buys and takes things, and a token for the
number of open menus. -/
def create (config : EngineConfig) (directory : String) (listing : FileListing) :
    Except Failure Host := do
  let engine ← EngineState.ofConfig config
  let setUp : Engine Unit := do
    let _ ← Engine.loadMenus directory (some listing)
    Engine.registerMenuHandler "shop" "SELL" (.sale salePrice) false
    Engine.registerInventoryHandler "shop" .deposit
    Engine.registerPlaceholder "online" .openMenus .everywhere
    Engine.start
  let (result, engine) := setUp.run.run engine
  let _ ← result
  return { engine }

end Host

end ChestMenu.Web
