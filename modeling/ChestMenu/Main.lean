import ChestMenu.Terminal

/-!
# The terminal program

The terminal program reads the configuration and the directory of menus that its options name, and
then obeys what is typed until the input ends. What has to be reported, besides what the commands
print, goes to standard error.
-/
namespace ChestMenu

variable [Machine] [Output]

/-- What stands in a file, if it can be read. -/
def contentOfFile (file : String) : IO (Option FileContent) := do
  try
    let bytes ← IO.FS.readBinFile file
    return some (.bytes bytes.toList)
  catch _ => return none

/-- What a directory holds, if it can be read; what cannot be read in it counts as a directory. -/
def listingOfDirectory (directory : String) : IO (Option FileListing) := do
  try
    let entries ← ((← IO.currentDir) / directory).readDir
    let listing ← entries.toList.mapM fun entry => do
      let content ← contentOfFile entry.path.toString
      return (entry.fileName, content.getD .directory)
    return some listing
  catch _ => return none

/-- Writes the notices of an engine to standard error, and takes them away. -/
def reportNotices (engine : EngineState) : IO EngineState := do
  let ((notices, _), engine) := Engine.takeReports.run engine
  let errors ← IO.getStderr
  for notice in notices do
    errors.putStrLn (notice.text {})
  return engine

/-- Runs a step of a terminal: what it prints is printed, and a failure is thrown on. -/
def performTyping {α : Type} (terminal : Terminal) (step : Typing α) : IO (α × Terminal) := do
  let (result, after) := step.run.run { terminal with printed := [] }
  let output ← IO.getStdout
  output.putStr (String.join after.printed)
  output.flush
  let engine ← reportNotices after.engine
  match result with
  | .ok value => return (value, { after with engine })
  | .error cause => throw (IO.userError cause.message)

/-- Obeys typed lines until one ends the terminal or the input ends. -/
partial def obeyInput (directory : String) (terminal : Terminal) : IO Unit := do
  let ((), terminal) ← performTyping terminal (Terminal.write Terminal.promptText)
  let line ← (← IO.getStdin).getLine
  if line.isEmpty then
    let _ ← performTyping terminal Terminal.leave
  else
    let listing ← listingOfDirectory directory
    let (goesOn, terminal) ← performTyping terminal (Terminal.obey listing line)
    if goesOn then obeyInput directory terminal
    else
      let _ ← performTyping terminal Terminal.leave

/-- The file of the configuration if none is named. -/
def usualConfig : String := "config/engine.json"

/-- Runs the terminal with its options. -/
def runTerminal (options : TerminalOptions) : IO Unit := do
  let file := options.config.getD usualConfig
  let (config, notices) := (EngineConfig.ofFile file (← contentOfFile file)).run.run []
  match config with
  | .error cause => throw (IO.userError cause.message)
  | .ok config =>
    let errors ← IO.getStderr
    for notice in notices do
      errors.putStrLn (notice.text {})
    let directory := options.menus.getD config.menusDir.label
    match Terminal.create options config directory (← listingOfDirectory directory) with
    | .error cause => throw (IO.userError cause.message)
    | .ok terminal =>
      let (opened, terminal) ← performTyping terminal (Terminal.greet options.menu)
      if opened then obeyInput directory terminal

end ChestMenu

/-- The terminal program: its exit code is two if its options cannot be read. -/
def main (arguments : List String) : IO UInt32 := do
  match ChestMenu.TerminalOptions.ofArguments arguments with
  | .run options =>
    ChestMenu.runTerminal options
    return 0
  | .help =>
    ChestMenu.Terminal.helpLines.forM IO.println
    return 0
  | .refused =>
    (← IO.getStderr).putStrLn "the options cannot be read"
    return 2
