import ChestMenu.Value.Basic

/-!
# Callbacks of the host

A callback is what a host registers to be called on a click. It is a script, a list of
things that it does one after another, or one of the two that a shop needs. A value that is none of
these can stand where a callback is expected; it cannot be called.
-/
namespace ChestMenu

/-- One thing that a callback does. -/
inductive Verb where
  /-- Tells which button was clicked and whether shift was held. -/
  | flags
  /-- Tells the state of the actor's session. -/
  | session
  /-- Sends the actor a message. -/
  | message (text : String)
  /-- Plays a sound to the actor. -/
  | sound (name : String) (volume pitch : Value)
  /-- Draws the actor's menu again. -/
  | refresh
  /-- Closes the actor's menu. -/
  | close
  /-- Opens another menu with a context. -/
  | openMenu (menu : String) (context : Value)
  /-- Opens another menu with the present context. -/
  | openKeeping (menu : String)
  /-- Changes the context. -/
  | update (context : Value)
  /-- Adds to a number in the context, which has to be a mapping. -/
  | add (key : String) (amount : Value)
  /-- Tells the context, if it is of the type. -/
  | get (type : Option String)
  /-- Tells whether there is a context of the type. -/
  | has (type : String)
  /-- Tells the context, which has to be of the type. -/
  | require (type : String)
  /-- Goes to a page. -/
  | page (page : Int)
  /-- Reports a failure. -/
  | raise (kind : ReportedKind) (message : String)
  /-- Ends the callback with an answer. -/
  | answer (value : Value)

/-- The word for a verb. -/
def Verb.word : Verb → String
  | flags => "flags"
  | session => "session"
  | message _ => "message"
  | sound .. => "sound"
  | refresh => "refresh"
  | close => "close"
  | openMenu .. => "open"
  | openKeeping _ => "open_keep"
  | update _ => "update"
  | add .. => "add"
  | get _ => "get"
  | has _ => "has"
  | require _ => "require"
  | page _ => "page"
  | raise .. => "raise"
  | answer _ => "return"

/-- What stands where a callback is expected. -/
inductive Callback where
  | script (label : String) (verbs : List Verb)
  /-- Sells an item: the price is added to the gold in the context. -/
  | sale (price : Int)
  /-- Lets the actor put things into a shop, but not with shift held. -/
  | deposit
  | uncallable (typeName : String)

/-- Whether a callback can be called. -/
def Callback.isCallable : Callback → Bool
  | uncallable _ => false
  | _ => true

/-- The label of a script. -/
def Callback.label? : Callback → Option String
  | script label _ => some label
  | _ => none

end ChestMenu
