import ChestMenu.Engine.Session
import ChestMenu.Value.Sum

/-!
# Calling callbacks

A callback that is called with the context of a click may ask about the click and the actor's
session, and act on both. One that is called with the plain parts of a click can only send messages,
draw the menu again, go to another menu or page, and close it.
-/
namespace ChestMenu.Engine

variable [Machine]

/-- Asks the host for an effect. -/
def effect (e : Effect) : Engine Unit :=
  record (.effect e)

/-- The context of an actor's session, if it is of the type. -/
def contextOf (ref : Nat) (type : Option String) : Engine (Option Value) := do
  let s ← get
  let _ ← keyOf ref
  return s.context? ref type

/-- The context of an actor's session, which has to be of the type. -/
def requireContext (ref : Nat) (type : String) : Engine Value := do
  match ← contextOf ref (some type) with
  | some context => return context
  | none => throw (.contextMissing type ((← get).actor ref).label)

/-- Changes the context of an actor's session and draws the menu again. -/
def updateAndRefresh (ref : Nat) (context : Value) : Engine Unit := do
  let _ ← updateContext ref context
  let _ ← refresh ref

/-- What a session tells about itself. -/
def sessionSummary (session : Session) : Value :=
  .list [.text session.menu, .int session.page, .bool session.hasContext, session.context]

/-- Adds to a number in the context, which starts at zero. -/
def addToContext (ref : Nat) (key : String) (amount : Value) : Engine Unit := do
  let context ← requireContext ref "dict"
  let pairs := context.pairs?.getD []
  let sum ← ofExcept (((Value.lookup? key pairs).getD (.int 0)).add amount)
  updateAndRefresh ref (.map (Value.insertPair (.text key) sum pairs))

/-- Does what only a callback can do that was called with the context of a click. -/
def contextual (click : Option ClickContext) (verb : Verb)
    (act : ClickContext → Engine (Option Value)) : Engine (Option Value) :=
  match click with
  | some click => act click
  | none => throw (.missingAttribute verb.word)

/-- Does what a verb says and gives its value, if it has one. `click` is there if the callback was
called with the context of a click; only such a callback opens a menu with a context. -/
def perform (ref : Nat) (click : Option ClickContext) (verb : Verb) : Engine (Option Value) := do
  let answerOf (answer : Bool) : Option Value :=
    if click.isSome then none else some (.bool answer)
  match verb with
  | .message text =>
    effect (.message ((← get).actor ref).id text)
    return none
  | .refresh => return answerOf (← refresh ref)
  | .close => return answerOf (← close ref)
  | .openMenu menu context =>
    let context := if click.isSome then context else .null
    return some (.bool (← openMenu ref menu context false))
  | .page page => return some (.bool (← setPage ref page))
  | .raise kind message => throw (.reported kind message)
  | .answer _ => return none
  | .flags =>
    contextual click verb fun click =>
      return some (.list [.bool click.type.isLeft, .bool click.type.isRight,
        .bool click.type.isShift])
  | .session =>
    contextual click verb fun _ => return ((← get).session? ref).map sessionSummary
  | .sound name volume pitch =>
    contextual click verb fun _ => do
      let volume ← ofExcept volume.toReal
      let pitch ← ofExcept pitch.toReal
      effect (.sound ((← get).actor ref).id name volume pitch)
      return none
  | .openKeeping menu =>
    contextual click verb fun _ => return some (.bool (← openMenu ref menu .null true))
  | .update context =>
    contextual click verb fun _ => do
      updateAndRefresh ref context
      return none
  | .add key amount =>
    contextual click verb fun _ => do
      addToContext ref key amount
      return none
  | .get type => contextual click verb fun _ => contextOf ref type
  | .has type =>
    contextual click verb fun _ => return some (.bool (← contextOf ref (some type)).isSome)
  | .require type => contextual click verb fun _ => return some (← requireContext ref type)

/-- Does what the verbs of a callback say, up to its answer. -/
def performAll (ref : Nat) (click : Option ClickContext) (label : String) :
    List Verb → Engine Value
  | [] => return .null
  | .answer value :: _ => return value
  | verb :: verbs => do
    match ← perform ref click verb with
    | some value => record (.gave label verb.word value)
    | none => pure ()
    performAll ref click label verbs

/-- Adds a price to the gold in the context. Without a context that is a mapping nothing is sold. -/
def sell (ref : Nat) (price : Int) : Engine Unit := do
  let id := ((← get).actor ref).id
  match ← contextOf ref (some "dict") with
  | none => effect (.message id "Nothing to sell here.")
  | some context =>
    let pairs := context.pairs?.getD []
    let gold ← ofExcept ((Value.lookup? "gold" pairs).getD (.int 0)).toInteger
    updateAndRefresh ref (.map (Value.insertPair (.text "gold") (.int (gold + price)) pairs))
    effect (.message id ("Sold one item for " ++ Number.integerText price ++ " gold."))

/-- Decides about a thing that is put into a shop. -/
def receiveDeposit (ref : Nat) (info : CallInfo) : Engine Value := do
  match info with
  | .context click =>
    if click.type.isShift then
      effect (.message ((← get).actor ref).id "Shift-clicking items into the shop is disabled.")
      return .text "CANCEL"
    else return .text "ALLOW"
  | _ => throw (.missingAttribute "is_shift_click")

/-- What calling a callback for an actor does, told how it is called. -/
abbrev Calling := Nat → CallInfo → Callback → Engine Value

/-- Calls a callback, and gives its answer. -/
def call (ref : Nat) (info : CallInfo) : Callback → Engine Value
  | .uncallable typeName => throw (.notCallable typeName)
  | .sale price => do
    sell ref price
    return .null
  | .deposit => receiveDeposit ref info
  | .script label verbs => do
    record (.called label info)
    let click :=
      match info with
      | .context click => some click
      | _ => none
    performAll ref click label verbs

end ChestMenu.Engine
