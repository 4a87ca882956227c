import ChestMenu.Engine.Click
import ChestMenu.Engine.Menus
import ChestMenu.Engine.Refresh
import ChestMenu.Terminal.Options

/-!
# The terminal

At the terminal one actor opens menus and clicks on them by typing commands. Each command prints what
comes of it. A command that is not known, or lacks its argument, prints the help.

A page or a number of ticks that is no number ends the terminal with a failure; a slot that is none is
only answered. So does a text that the output does not take, and nothing of that text is printed.
-/
namespace ChestMenu

open ChestMenu.Number ChestMenu.Text

/-- What is printed on. It takes some texts, and others it does not. -/
class Output where
  takes : String → Bool

/-- The usual output takes every text without a half of a surrogate pair. -/
instance Output.usual : Output where
  takes text := !hasHalf text.toList

/-- An output that takes every text. -/
@[reducible] def Output.unlimited : Output where
  takes _ := true

variable [Machine] [Output]

/-- A terminal: its engine, whose only actor sits in front of it, and the texts that it has printed. -/
structure Terminal where
  engine : EngineState
  printed : List String := []

/-- A step of a terminal. -/
abbrev Typing := ExceptT Failure (StateM Terminal)

namespace Terminal

/-- The actor in front of a terminal, among the actors of its engine. -/
def player : Nat := 0

/-- What a terminal prints when it waits for a command. -/
def promptText : String := "-> "

/-- The help. -/
def helpLines : List String :=
  ["Commands:",
    "  open <menu>          open a menu (id or file name)",
    "  click <slot> [type]  click a slot; type is LEFT, RIGHT, SHIFT_LEFT, SHIFT_RIGHT or MIDDLE",
    "  page <n>             jump to a 0-based page",
    "  set <key>=<value>    put a value into the menu context and refresh",
    "  tick [n]             advance the refresh scheduler n ticks (default 1)",
    "  show                 print the open menu and its placeholders",
    "  reload               reload every menu file",
    "  close | quit"]

/-- Runs an operation of the engine. -/
def operate {α : Type} (step : Engine α) : Typing α := do
  let terminal ← get
  let (result, engine) := step.run.run terminal.engine
  set { terminal with engine }
  ExceptT.mk (pure result)

/-- Prints a text, if the output takes it. -/
def write (text : String) : Typing Unit := do
  if Output.takes text then
    modify fun terminal => { terminal with printed := terminal.printed ++ [text] }
  else throw .unwritable

/-- Prints a line. -/
def writeLine (line : String) : Typing Unit :=
  write (line ++ "\n")

/-- Prints the help. -/
def displayHelp : Typing Unit :=
  writeLine ("\n".intercalate helpLines)

/-- Prints the open menu. -/
def displayMenu : Typing (Option Surface) := do
  let engine := (← get).engine
  match engine.screen.get? (engine.actor player).key with
  | none =>
    writeLine "(no menu open)"
    return none
  | some surface =>
    writeLine (surface.format Surface.usualWidth)
    return some surface

/-- Prints the open menu, and nothing more. -/
def display : Typing Unit := do
  let _ ← displayMenu

/-- Prints the tokens of the open menu in order. -/
def displayTokens : Typing Unit := do
  let table ← operate (Engine.placeholderTable player)
  for (token, value) in table.mergeSort fun (a, _) (b, _) => a ≤ b do
    writeLine ("  " ++ token ++ " = " ++ value.label)

/-- Prints the open menu, since when it is open, and its tokens. -/
def displayAll : Typing Unit := do
  match ← displayMenu with
  | none => return ()
  | some _ =>
    let engine := (← get).engine
    match engine.session? player with
    | none => pure ()
    | some session =>
      writeLine ("  (open since tick " ++ naturalText session.openedTick ++ ", now " ++
        naturalText engine.tick ++ ")")
    displayTokens

/-- The value that a typed text stands for: an integer, a truth value or the text itself. -/
def typedValue (raw : String) : Value :=
  match readInteger? raw.toList with
  | some n => .int n
  | none =>
    match lower raw with
    | "true" => .bool true
    | "false" => .bool false
    | _ => .text raw

/-- An integer that has to be typed as one. -/
def typedInteger (raw : String) : Typing Int :=
  ExceptT.mk (pure (Value.text raw).toInteger)

/-- Clicks on a slot. -/
def clickOn (slot : String) (type : String) : Typing Unit := do
  match readInteger? slot.toList with
  | none => writeLine "Slot must be a number."
  | some slot =>
    let outcome ← operate (Engine.click player slot (.ofText type))
    let executed := Value.list (outcome.executed.map .text)
    writeLine ("[Click] item=" ++ outcome.itemKey.getD "None" ++ " cancelled=" ++
      (Value.bool outcome.cancelled).label ++ " actions=" ++ executed.label)
    display

/-- Puts a value into the context and draws the menu again. -/
def putIntoContext (key : String) (value : Value) : Typing Unit := do
  let engine := (← get).engine
  let context := engine.context? player (some "dict")
  let pairs := (context.bind Value.pairs?).getD []
  let _ ← operate (Engine.updateContext player (.map (Value.insertPair (.text key) value pairs)))
  let _ ← operate (Engine.refresh player)
  display

/-- Lets ticks pass. -/
def passTicks (count : Int) : Typing Unit := do
  operate (Engine.tickTimes count.toNat)
  let engine := (← get).engine
  let last := engine.lastRefresh.get? (engine.actor player).key
  writeLine ("[Scheduler] tick=" ++ naturalText engine.tick ++ " last_refresh=" ++
    (last.map naturalText).getD "None")

/-- Does what a line says, and tells whether the terminal goes on. The listing is what the directory
of menus holds now. -/
def obey (listing : Option FileListing) (line : String) : Typing Bool := do
  match (words line.toList).map String.ofList with
  | [] => return true
  | first :: arguments =>
    match lower first, arguments with
    | "quit", _ | "exit", _ => return false
    | "open", menu :: _ =>
      if ← operate (Engine.openMenu player menu .null true) then display
      else writeLine ("Unknown menu '" ++ menu ++ "'")
    | "click", slot :: rest => clickOn slot (rest.headD "LEFT")
    | "page", page :: _ =>
      if !(← operate (Engine.setPage player (← typedInteger page))) then
        writeLine "No such page."
      display
    | "set", entry :: _ =>
      match cutAt? ['='] entry.toList with
      | some (key, raw) => putIntoContext (String.ofList key) (typedValue (String.ofList raw))
      | none => displayHelp
    | "tick", [] => passTicks 1
    | "tick", count :: _ => passTicks (← typedInteger count)
    | "show", _ => displayAll
    | "reload", _ =>
      let _ ← operate (Engine.reloadMenus listing)
      display
    | "close", _ =>
      let _ ← operate (Engine.close player)
      writeLine "(menu closed)"
    | _, _ => displayHelp
    return true

/-- Opens the first menu, and tells whether there is such a menu. -/
def greet (menu : String) : Typing Bool := do
  if ← operate (Engine.openMenu player menu .null false) then
    display
    writeLine "Type 'help' for commands."
    return true
  else
    let engine := (← get).engine
    writeLine ("Menu '" ++ menu ++ "' not found in " ++ engine.config.menusDir.label)
    return false

/-- Ends a terminal. -/
def leave : Typing Unit :=
  operate Engine.stop

/-- Obeys lines until one ends the terminal or there are no more. -/
def obeyAll (listing : Option FileListing) : List String → Typing Unit
  | [] => do
    write promptText
    leave
  | line :: lines => do
    write promptText
    if ← obey listing line then obeyAll listing lines else leave

/-- A new terminal with the menus of a directory. -/
def create (options : TerminalOptions) (config : EngineConfig) (directory : String)
    (listing : Option FileListing) : Except Failure Terminal := do
  let engine ← EngineState.ofConfig config
  let (loaded, engine) :=
    (Engine.loadMenus directory listing).run.run { engine with actors := [options.actor] }
  let _ ← loaded
  return { engine }

/-- Runs a terminal on typed lines: what it prints, and the failure that ends it if there is one. -/
def run (options : TerminalOptions) (config : EngineConfig) (directory : String)
    (listing : Option FileListing) (lines : List String) : String × Option Failure :=
  match create options config directory listing with
  | .error cause => ("", some cause)
  | .ok terminal =>
    let typing : Typing Unit := do
      if ← greet options.menu then obeyAll listing lines
    match typing.run.run terminal with
    | (.ok _, terminal) => (String.join terminal.printed, none)
    | (.error cause, terminal) => (String.join terminal.printed, some cause)

end Terminal

end ChestMenu
