import ChestMenu.Engine.Click
import ChestMenu.Engine.Menus
import ChestMenu.Engine.Refresh
import ChestMenu.Engine.Registry
import ChestMenu.Proofs.Outcome

/-!
# What a host may do with an engine

A host asks for operations, one call after another, and has callbacks that are called on a click. A callback is code
of the host. It may look at the engine, ask for effects, fail, catch failures, and ask for operations again, with
callbacks of its own; there is no bound on how deep such calls are nested.

Which operations are permitted is left open, so that one notion serves for hosts that may do anything and for
callbacks that act for one actor only. A property that each permitted operation keeps is kept by all code of the host
and holds in every state that is reached.
-/
namespace ChestMenu

open Engine

/-- An operation that a host asks an engine for. -/
inductive HostCall where
  | registerMenu (menu : Menu)
  | unregisterMenu (name : String)
  | loadMenus (directory : String) (listing : Option FileListing)
  | reloadMenus (listing : Option FileListing)
  | openMenu (ref : Nat) (name : String) (context : Value) (keep : Bool)
  | close (ref : Nat)
  | setPage (ref : Nat) (page : Int)
  | refresh (ref : Nat)
  | refreshSlots (ref : Nat) (slots : List SlotName)
  | updateContext (ref : Nat) (context : Value)
  /-- Changes the context and draws the menu again, as callbacks do. -/
  | updateAndRefresh (ref : Nat) (context : Value)
  | click (ref : Nat) (slot : Int) (type : ClickType)
  | tick
  | forceRefresh (ref : Nat)
  | forceRefreshAll
  | start
  | stop
  /-- Registers or removes handlers in one of the two registries. -/
  | changeHandlers (legacy : Bool) (change : HandlerRegistry → Except Failure HandlerRegistry)
  | registerSlotHandler (menu : String) (slot : Int) (callback : Callback)
  | registerInventoryHandler (menu : String) (handler : Callback)
  | registerPlaceholder (name : String) (resolver : Resolver) (scope : PlaceholderScope)
  | registerTypeResolver (type name : String) (resolver : Resolver)
  | registerPolicy (name : String) (policy : RefreshPolicy)

variable [Machine]

namespace HostCall

/-- The actor that an operation is for, if it is for one. -/
def actor? : HostCall → Option Nat
  | openMenu ref .. | close ref | setPage ref _ | refresh ref | refreshSlots ref _
  | updateContext ref _ | updateAndRefresh ref _ | click ref .. | forceRefresh ref => some ref
  | _ => none

/-- What an operation answers. -/
abbrev Answer : HostCall → Type
  | openMenu .. | close _ | setPage .. | refresh _ | refreshSlots .. | updateContext .. => Bool
  | unregisterMenu _ => Option Menu
  | loadMenus .. | reloadMenus _ => OrderedMap String Menu
  | click .. => ClickOutcome
  | tick => Nat
  | _ => Unit

/-- The operation of the engine that is asked for. -/
def run (calling : Calling) : (c : HostCall) → Engine c.Answer
  | registerMenu menu => Engine.registerMenu menu
  | unregisterMenu name => Engine.unregisterMenu name
  | loadMenus directory listing => Engine.loadMenus directory listing
  | reloadMenus listing => Engine.reloadMenus listing
  | openMenu ref name context keep => Engine.openMenu ref name context keep
  | close ref => Engine.close ref
  | setPage ref page => Engine.setPage ref page
  | refresh ref => Engine.refresh ref
  | refreshSlots ref slots => Engine.refreshSlots ref slots
  | updateContext ref context => Engine.updateContext ref context
  | updateAndRefresh ref context => Engine.updateAndRefresh ref context
  | click ref slot type => Engine.clickWith calling ref slot type
  | tick => Engine.tick
  | forceRefresh ref => Engine.forceRefresh ref
  | forceRefreshAll => Engine.forceRefreshAll
  | start => Engine.start
  | stop => Engine.stop
  | changeHandlers legacy change => Engine.withHandlers legacy change
  | registerSlotHandler menu slot callback => Engine.registerSlotHandler menu slot callback
  | registerInventoryHandler menu handler => Engine.registerInventoryHandler menu handler
  | registerPlaceholder name resolver scope => Engine.registerPlaceholder name resolver scope
  | registerTypeResolver type name resolver => Engine.registerTypeResolver type name resolver
  | registerPolicy name policy => Engine.registerPolicy name policy

end HostCall

/-- Code of a host that asks for no operations but those permitted. -/
inductive HostCode (permitted : HostCall → Prop) : {α : Type} → Engine α → Prop where
  | answer {α : Type} (a : α) : HostCode permitted (pure a)
  | fail {α : Type} (cause : Failure) : HostCode permitted (throw cause : Engine α)
  | look : HostCode permitted (get : Engine EngineState)
  | tell (event : Event) : HostCode permitted (record event)
  | andThen {α β : Type} {x : Engine α} {f : α → Engine β} (first : HostCode permitted x)
      (rest : ∀ a, HostCode permitted (f a)) : HostCode permitted (x >>= f)
  | rescue {α : Type} {x : Engine α} {otherwise : Failure → Engine α} (first : HostCode permitted x)
      (rest : ∀ cause, HostCode permitted (otherwise cause)) :
      HostCode permitted (tryCatch x otherwise)
  /-- The callbacks that a click has called are code of the host again. -/
  | ask (c : HostCall) (calling : Calling) (may : permitted c)
      (nested : ∀ ref, c.actor? = some ref →
        ∀ info callback, HostCode permitted (calling ref info callback)) :
      HostCode permitted (c.run calling)

/-- The states that are reached from a state by asking for permitted operations, one after another,
whether they give an answer or fail. -/
inductive Reaches (permitted : HostCall → Prop) (first : EngineState) : EngineState → Prop where
  | here : Reaches permitted first first
  | after {s : EngineState} (before : Reaches permitted first s) (c : HostCall) (calling : Calling)
      (code : HostCode permitted (c.run calling)) :
      Reaches permitted first (outcome (c.run calling) s).2

section

variable {permitted : HostCall → Prop} {P : EngineState → Prop}

/-- What effects and each permitted operation keep, if callbacks keep it, all code of a host keeps. The induction is
on the code. Where it asks for an operation, the callbacks that it hands over are code again, so what they keep is
known by induction when the operation is looked at. -/
theorem HostCode.keeps (told : ∀ event, Keeps P (record event))
    (each : ∀ c calling, permitted c →
      (∀ ref, c.actor? = some ref → ∀ info callback, Keeps P (calling ref info callback)) →
      Keeps P (c.run calling))
    {α : Type} {x : Engine α} (code : HostCode permitted x) : Keeps P x := by
  induction code with
  | answer a => exact keeps_pure a
  | fail cause => exact keeps_throw cause
  | look => exact keeps_get
  | tell event => exact told event
  | andThen _ _ first rest => exact keeps_bind first rest
  | rescue _ _ first rest => exact keeps_tryCatch first rest
  | ask c calling may _ nested => exact each c calling may nested

/-- What all code of a host keeps holds in every state that is reached from one where it holds. A run is a row of
calls, and each call is taken in the state that the one before left, with an answer or with a failure. -/
theorem Reaches.holds (kept : ∀ {α : Type} {x : Engine α}, HostCode permitted x → Keeps P x)
    {first s : EngineState} (run : Reaches permitted first s) (start : P first) : P s := by
  induction run with
  | here => exact start
  | after _ c calling code before => exact kept code _ before

/-- Code that asks for what is permitted asks for what is permitted anywhere more is. So what is shown for hosts that
may do anything holds for those that may do less. -/
theorem HostCode.mono {more : HostCall → Prop} (wider : ∀ c, permitted c → more c) {α : Type}
    {x : Engine α} (code : HostCode permitted x) : HostCode more x := by
  induction code with
  | answer a => exact .answer a
  | fail cause => exact .fail cause
  | look => exact .look
  | tell event => exact .tell event
  | andThen _ _ first rest => exact .andThen first rest
  | rescue _ _ first rest => exact .rescue first rest
  | ask c calling may _ nested => exact .ask c calling (wider c may) nested

end

namespace Engine

/-- A property that an engine keeps whatever it does by itself for an actor in the course of a click. -/
structure Served (P : EngineState → Prop) (ref : Nat) : Prop where
  told : ∀ event, Keeps P (record event)
  noted : ∀ notice, Keeps P (note notice)
  opened : ∀ name, Keeps P (openMenu ref name .null false)
  closed : Keeps P (close ref)
  turned : ∀ page, Keeps P (setPage ref page)
  refreshed : Keeps P (refresh ref)

variable {P : EngineState → Prop} {calling : Calling} {click : ClickContext}

/-- A failure that is noted does no harm to a property that notices do no harm to. The guard puts a notice in the
place of the failure, and goes on. -/
theorem keeps_guarded {notice : String → Failure → Notice} {step : Engine Unit}
    (noted : ∀ notice, Keeps P (note notice)) (kept : Keeps P step) :
    Keeps P (guarded click notice step) := by
  unfold guarded
  apply keeps_tryCatch kept
  intro cause
  exact keeps_bind keeps_get fun s => noted _

omit [Machine] in
/-- Calling a named handler keeps what callbacks keep. Finding the handler changes nothing, and if there is none,
nothing is called. -/
theorem keeps_fireTrigger {name : String} {style : TriggerStyle}
    (answers : ∀ info callback, Keeps P (calling click.actor info callback)) :
    Keeps P (fireTrigger calling name style click) := by
  unfold fireTrigger
  refine keeps_bind keeps_get fun s => ?_
  cases style with
  | legacy =>
    simp only
    split
    · exact keeps_bind (answers _ _) fun _ => keeps_pure ()
    · exact keeps_pure ()
  | context =>
    simp only
    split
    · exact keeps_bind (answers _ _) fun _ => keeps_pure ()
    · exact keeps_pure ()

omit [Machine] in
/-- Looking a session up changes nothing. -/
theorem keeps_sessionOf {ref : Nat} : Keeps P (sessionOf ref) := by
  unfold sessionOf keyOf
  exact keeps_bind keeps_get fun s => keeps_bind (keeps_bind keeps_get fun s => keeps_ofExcept _) fun _ =>
    keeps_pure _

/-- Turning a page by an action keeps what going to a page keeps. The page that is meant is found first; the sound
behind the turn is an effect and changes no session. -/
theorem keeps_changePage {change : String} (served : Served P click.actor) :
    Keeps P (changePage change click) := by
  unfold changePage
  refine keeps_bind keeps_get fun s => ?_
  refine keeps_bind keeps_sessionOf fun session => ?_
  split
  · exact keeps_pure ()
  · split
    · exact keeps_pure ()
    · split
      · refine keeps_bind (keeps_ofExcept _) fun page => ?_
        refine keeps_bind (served.turned page) fun turned => ?_
        split
        · exact served.told _
        · exact keeps_pure ()
      · exact keeps_pure ()

omit [Machine] in
/-- Filling in the actor's name changes nothing. -/
theorem keeps_withPlayer {actor : Actor} {text : String} : Keeps P (withPlayer actor text) := by
  unfold withPlayer
  split
  · exact keeps_pure _
  · exact keeps_throw _

/-- An action without a condition keeps what the engine and named handlers keep. There is one case for each kind of
action, and most of them come to a single operation or effect. -/
theorem keeps_runSimple {action : SimpleAction} (served : Served P click.actor)
    (fired : ∀ name style, Keeps P (fireTrigger calling name style click)) :
    Keeps P (runSimple calling click action) := by
  unfold runSimple
  refine keeps_bind keeps_get fun s => ?_
  cases action with
  | console text tag => exact keeps_bind keeps_withPlayer fun _ => served.told _
  | player text => exact keeps_bind keeps_withPlayer fun _ => served.told _
  | message text => exact keeps_bind keeps_withPlayer fun _ => served.told _
  | broadcast text => exact keeps_bind keeps_withPlayer fun _ => served.told _
  | sound name volume pitch => exact served.told _
  | close => exact keeps_bind served.closed fun _ => keeps_pure ()
  | openMenu name => exact keeps_bind (served.opened name) fun _ => keeps_pure ()
  | changePage change => exact keeps_changePage served
  | trigger name style => exact fired name style
  | refresh => exact keeps_bind served.refreshed fun _ => keeps_pure ()

mutual

/-- An action keeps what the engine and callbacks keep, whichever branches it comes to. The recursion is that of
actions: a conditional one runs the actions of one branch. -/
theorem keeps_runAction (served : Served P click.actor)
    (answers : ∀ info callback, Keeps P (calling click.actor info callback)) :
    (action : Action) → Keeps P (runAction calling click action)
  | .simple action => by
    unfold runAction
    exact keeps_guarded served.noted (keeps_runSimple served fun _ _ => keeps_fireTrigger answers)
  | .conditional condition text thenActions elseActions => by
    unfold runAction
    apply keeps_guarded served.noted
    refine keeps_bind keeps_get fun s => ?_
    refine keeps_bind (keeps_ofExcept _) fun chosen => ?_
    cases chosen with
    | true => exact keeps_runActions served answers thenActions
    | false => exact keeps_runActions served answers elseActions

/-- A list of actions keeps what each action keeps. One that fails is caught and noted, and the next has its turn all
the same. -/
theorem keeps_runActions (served : Served P click.actor)
    (answers : ∀ info callback, Keeps P (calling click.actor info callback)) :
    (actions : List Action) → Keeps P (runActions calling click actions)
  | [] => by
    unfold runActions
    exact keeps_pure ()
  | action :: actions => by
    unfold runActions
    exact keeps_bind (keeps_runAction served answers action) fun _ =>
      keeps_runActions served answers actions

end

/-- Running an item keeps what the engine and callbacks keep. The actions come first, and then the callback that the
item may have. -/
theorem keeps_runEntry {key : String} {entry : Entry} (served : Served P click.actor)
    (answers : ∀ info callback, Keeps P (calling click.actor info callback)) :
    Keeps P (runEntry calling click key entry) := by
  unfold runEntry
  split
  · exact keeps_pure _
  · apply keeps_bind (keeps_runActions served answers _)
    intro _
    split
    · exact keeps_pure _
    · apply keeps_bind
      · apply keeps_guarded served.noted
        exact keeps_bind keeps_get fun _ => keeps_bind (answers _ _) fun _ => keeps_pure ()
      · exact fun _ => keeps_pure _

/-- Calling the callback of a slot keeps what notices and callbacks keep. The callback is looked up when the actions
are done, so it may be one that they have registered. -/
theorem keeps_fireSlot (noted : ∀ notice, Keeps P (note notice))
    (answers : ∀ info callback, Keeps P (calling click.actor info callback)) :
    Keeps P (fireSlot calling click) := by
  unfold fireSlot
  refine keeps_bind keeps_get fun s => ?_
  split
  · exact keeps_pure ()
  · apply keeps_guarded noted
    exact keeps_bind keeps_get fun _ => keeps_bind (answers _ _) fun _ => keeps_pure ()

/-- A click on a slot of the menu keeps what the engine and callbacks keep. Running the item is guarded, and so is the
callback of the slot behind it. -/
theorem keeps_clickSlot {found : Option (String × Entry)} (served : Served P click.actor)
    (answers : ∀ info callback, Keeps P (calling click.actor info callback)) :
    Keeps P (clickSlot calling click found) := by
  have last : ∀ answer : ClickOutcome,
      Keeps P (fireSlot calling click >>= fun _ => pure answer) := fun answer =>
    keeps_bind (keeps_fireSlot served.noted answers) fun _ => keeps_pure answer
  unfold clickSlot
  dsimp only
  split
  · exact keeps_bind (keeps_runEntry served answers) fun _ => last _
  · exact keeps_bind (keeps_pure []) fun _ => last _

/-- Asking the handler of clicks in the inventory keeps what notices and callbacks keep. Of what the handler answers
only the decision is read, which changes no state. -/
theorem keeps_clickInventory {menu : Menu} (noted : ∀ notice, Keeps P (note notice))
    (answers : ∀ info callback, Keeps P (calling click.actor info callback)) :
    Keeps P (clickInventory calling click menu) := by
  unfold clickInventory
  split
  · exact keeps_pure _
  · refine keeps_bind keeps_get fun s => ?_
    split
    · exact keeps_pure _
    · apply keeps_bind
      · apply keeps_tryCatch (keeps_bind (answers _ _) fun _ => keeps_ofExcept _)
        intro cause
        split
        · exact keeps_pure _
        · exact keeps_throw cause
      · intro decision
        split
        · exact keeps_bind (noted _) fun _ => keeps_pure _
        · exact keeps_pure _
        · exact keeps_pure _
        · exact keeps_pure _

/-- A click keeps what the engine keeps for the actor and what callbacks for the actor keep. Which of the parts of a
click is come to depends on the session, the menu and the slot, and none of these guards changes anything. -/
theorem keeps_clickWith {ref : Nat} {slot : Int} {type : ClickType} (served : Served P ref)
    (answers : ∀ info callback, Keeps P (calling ref info callback)) :
    Keeps P (clickWith calling ref slot type) := by
  unfold clickWith keyOf
  refine keeps_bind (keeps_bind keeps_get fun _ => keeps_ofExcept _) fun key => ?_
  refine keeps_bind keeps_get fun s => ?_
  split
  · exact keeps_pure _
  · split
    · exact keeps_bind (served.noted _) fun _ => keeps_pure _
    · split
      · exact keeps_pure _
      · split
        · exact keeps_clickInventory served.noted answers
        · split
          · exact keeps_pure _
          · exact keeps_clickSlot served answers

end Engine

/-- The operations that a callback asks for on behalf of the actor who clicked. -/
def HostCall.IsOwn (ref : Nat) : HostCall → Prop
  | openMenu actor .. | close actor | setPage actor _ | refresh actor
  | updateAndRefresh actor _ => actor = ref
  | _ => False

namespace HostCode

variable {permitted : HostCall → Prop} {ref : Nat}

/-- A result that is there already is an answer or a failure. -/
theorem ofExcept {α : Type} (result : Except Failure α) :
    HostCode permitted (Engine.ofExcept result) := by
  cases result with
  | ok a => exact .answer a
  | error cause => exact .fail cause

/-- What an actor is kept under is found by a look at the engine. -/
theorem keyOf (actor : Nat) : HostCode permitted (Engine.keyOf actor) :=
  .andThen .look fun _ => ofExcept _

/-- An operation on behalf of an actor calls no callback. So it is code of a host whatever the callbacks are. -/
theorem own (c : HostCall) (may : c.IsOwn ref) :
    HostCode (HostCall.IsOwn ref) (c.run fun _ _ _ => pure .null) :=
  .ask c _ may fun _ _ _ _ => .answer Value.null

/-- The context of a session is found by a look at the engine. -/
theorem contextOf (type : Option String) : HostCode permitted (Engine.contextOf ref type) :=
  .andThen .look fun _ => .andThen (keyOf ref) fun _ => .answer _

/-- So is a context that is required. -/
theorem requireContext (type : String) : HostCode permitted (Engine.requireContext ref type) := by
  unfold Engine.requireContext
  refine .andThen (contextOf (some type)) fun context => ?_
  cases context with
  | some context => exact .answer context
  | none => exact .andThen .look fun _ => .fail _

/-- Changing the context and drawing again is an operation on behalf of the actor. Both are asked for by the id of the
one who clicked. -/
theorem updateAndRefresh (context : Value) :
    HostCode (HostCall.IsOwn ref) (Engine.updateAndRefresh ref context) :=
  own (.updateAndRefresh ref context) rfl

/-- Adding to a number in the context acts for the actor only. -/
theorem addToContext (key : String) (amount : Value) :
    HostCode (HostCall.IsOwn ref) (Engine.addToContext ref key amount) :=
  .andThen (requireContext "dict") fun _ => .andThen (ofExcept _) fun _ => updateAndRefresh _

/-- Selling acts for the actor only. -/
theorem sell (price : Int) : HostCode (HostCall.IsOwn ref) (Engine.sell ref price) := by
  refine .andThen .look fun s => .andThen (contextOf _) fun context => ?_
  cases context with
  | none => exact .tell _
  | some context =>
    exact .andThen (ofExcept _) fun _ => .andThen (updateAndRefresh _) fun _ => .tell _

/-- What needs the context of a click is done with it or fails. A callback that is called with the plain parts of a
click has no context to act with. -/
theorem contextual (click : Option ClickContext) (verb : Verb)
    {act : ClickContext → Engine (Option Value)}
    (code : ∀ click, HostCode permitted (act click)) :
    HostCode permitted (Engine.contextual click verb act) := by
  cases click with
  | some click => exact code click
  | none => exact .fail _

/-- What a verb says is done for the actor only. There is one case for each verb, and none of them names another
actor. -/
theorem perform (click : Option ClickContext) (verb : Verb) :
    HostCode (HostCall.IsOwn ref) (Engine.perform ref click verb) := by
  cases verb with
  | flags => exact contextual _ _ fun _ => .answer _
  | session => exact contextual _ _ fun _ => .andThen .look fun _ => .answer _
  | message text => exact .andThen .look fun _ => .andThen (.tell _) fun _ => .answer _
  | sound name volume pitch =>
    exact contextual _ _ fun _ => .andThen (ofExcept _) fun _ => .andThen (ofExcept _) fun _ =>
      .andThen .look fun _ => .andThen (.tell _) fun _ => .answer _
  | refresh => exact .andThen (own (.refresh ref) rfl) fun _ => .answer _
  | close => exact .andThen (own (.close ref) rfl) fun _ => .answer _
  | openMenu menu context =>
    exact .andThen (own (.openMenu ref menu _ false) rfl) fun _ => .answer _
  | openKeeping menu =>
    exact contextual _ _ fun _ => .andThen (own (.openMenu ref menu .null true) rfl) fun _ => .answer _
  | update context => exact contextual _ _ fun _ => .andThen (updateAndRefresh context) fun _ => .answer _
  | add key amount => exact contextual _ _ fun _ => .andThen (addToContext key amount) fun _ => .answer _
  | get type => exact contextual _ _ fun _ => contextOf type
  | has type => exact contextual _ _ fun _ => .andThen (contextOf _) fun _ => .answer _
  | require type => exact contextual _ _ fun _ => .andThen (requireContext type) fun _ => .answer _
  | page page => exact .andThen (own (.setPage ref page) rfl) fun _ => .answer _
  | raise kind message => exact .fail _
  | answer value => exact .answer _

/-- What several verbs say is done for the actor only. They are performed in order, up to one that answers or fails. -/
theorem performAll (click : Option ClickContext) (label : String) (verbs : List Verb) :
    HostCode (HostCall.IsOwn ref) (Engine.performAll ref click label verbs) := by
  induction verbs with
  | nil => exact .answer Value.null
  | cons verb verbs ih =>
    unfold Engine.performAll
    split
    · exact .answer Value.null
    · exact .answer _
    · rename_i same
      obtain ⟨rfl, rfl⟩ := List.cons.inj same
      refine .andThen (perform click _) fun answer => ?_
      cases answer with
      | none => exact ih
      | some value => exact .andThen (.tell _) fun _ => ih

/-- A callback acts for the actor who clicked and for no other. So whatever is kept by every operation for that actor,
scripts keep. -/
theorem call (info : CallInfo) (callback : Callback) :
    HostCode (HostCall.IsOwn ref) (Engine.call ref info callback) := by
  cases callback with
  | uncallable typeName => exact .fail _
  | sale price => exact .andThen (sell price) fun _ => .answer Value.null
  | deposit =>
    cases info with
    | context click =>
      change HostCode _ (if click.type.isShift then _ else _)
      split
      · exact .andThen .look fun _ => .andThen (.tell _) fun _ => .answer _
      · exact .answer _
    | trigger id click => exact .fail _
    | item id material => exact .fail _
    | slot id click => exact .fail _
  | script label verbs => exact .andThen (.tell _) fun _ => performAll _ label verbs

/-- An operation is code of a host if the callbacks of scripts are called and may ask for what they do. This is how
the states that are reached with scripts as callbacks are seen to be states that a host reaches. -/
theorem scripted (c : HostCall) (may : permitted c)
    (own : ∀ ref, c.actor? = some ref → ∀ other : HostCall, other.IsOwn ref → permitted other) :
    HostCode permitted (c.run Engine.call) :=
  .ask c Engine.call may fun ref found info callback => (call info callback).mono (own ref found)

end HostCode

omit [Machine] in
/-- What is asked for on behalf of an actor is for that actor. -/
theorem HostCall.IsOwn.actor? {c : HostCall} {ref : Nat} (own : c.IsOwn ref) :
    c.actor? = some ref := by
  cases c
  all_goals first | exact own.elim | exact congrArg some own

/-- A menu of two pages, with an item that says something, closes the menu and calls a callback. -/
def smallMenu : Menu where
  id := "shop"
  title := "Shop"
  size := 9
  items := [("bye", {
    template := { material := "DOOR" }
    slots := [0]
    actions := [.simple (.message "Bye"), .simple .close]
    onClick := some (.script "wave" [.message "Bye bye"]) })]
  pagination := some {
    slots := [1]
    items := [{ template := { material := "STONE" } }, { template := { material := "WOOD" } }] }

/-- An engine with that menu and two actors. -/
def smallShop : EngineState where
  config := {}
  actors := [{ id := .text "ann", name := .text "Ann" }, { id := .text "ben", name := .text "Ben" }]
  menus := [("shop", smallMenu)]
  legacyHandlers := { name := "legacy", scopes := [.actor, .menu, .everywhere] }
  contextHandlers := { name := "context", scopes := [.menu, .everywhere] }

end ChestMenu
