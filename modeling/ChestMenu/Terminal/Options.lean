import ChestMenu.Actor
import ChestMenu.Text.Case
import ChestMenu.Text.Search

/-!
# The options of the terminal

The options are given on a command line. An option is followed by its value, or has it behind an
equals sign; its name may be cut short as long as it is the start of one name only. A value may not
look like an option, but it may look like a negative number.

It is decided what each word is before any of them counts: a word that could be the start of several
names spoils the whole line.
-/
namespace ChestMenu

open ChestMenu.Number ChestMenu.Text

/-- Where the terminal finds its files, which menu it opens first, and for whom. -/
structure TerminalOptions where
  config : Option String := none
  menus : Option String := none
  menu : String := "main"
  name : String := "Steve"
  level : Int := 5
  health : Float := 20.0
  permissions : List String := []

/-- What a command line asks for. -/
inductive TerminalRequest where
  | run (options : TerminalOptions)
  | help
  | refused

namespace TerminalOptions

/-- The names of the options that take a value. -/
def names : List String :=
  ["--config", "--menus", "--menu", "--name", "--level", "--health", "--perm"]

/-- The names of the option that asks for help. -/
def helpNames : List String := ["-h", "--help"]

/-- Sets an option; nothing if the value is not one for it. -/
def set? (options : TerminalOptions) (name value : String) : Option TerminalOptions :=
  match name with
  | "--config" => some { options with config := some value }
  | "--menus" => some { options with menus := some value }
  | "--menu" => some { options with menu := value }
  | "--name" => some { options with name := value }
  | "--level" => (readInteger? value.toList).map fun level => { options with level }
  | "--health" => (readReal? value.toList).map fun health => { options with health }
  | "--perm" => some { options with permissions := options.permissions ++ [value] }
  | _ => none

/-- Whether a text consists of decimal digits. -/
def isNumeral (cs : List Char) : Bool :=
  !cs.isEmpty && cs.all fun c => (digitValue? c).isSome

/-- Whether a word looks like a negative number: digits behind a minus sign, perhaps with a point in
front of the last of them. A line feed at the end does not count. -/
def looksNegative (word : List Char) : Bool :=
  match if word.getLast? = some '\n' then word.dropLast else word with
  | '-' :: rest =>
    match cutAt? ['.'] rest with
    | some (whole, places) => (whole.isEmpty || isNumeral whole) && isNumeral places
    | none => isNumeral rest
  | _ => false

/-- Cuts a word at its first equals sign. -/
def splitWord (word : String) : String × Option String :=
  match cutAt? ['='] word.toList with
  | some (front, behind) => (String.ofList front, some (String.ofList behind))
  | none => (word, none)

/-- What a word of a command line is. -/
inductive Word where
  | option (name : String) (value : Option String)
  | unknown
  | value (text : String)

/-- The names that a word behind hyphens can be short for, with the value that is written at it. A
single hyphen is for names of one letter, which have their value behind the letter. -/
def namesFor (word : String) : List (String × Option String) :=
  let startsWith (name start : String) : Bool := start.toList.isPrefixOf name.toList
  if startsWith word "--" then
    let (front, value) := splitWord word
    (names.filter (startsWith · front) ++ helpNames.filter (startsWith · front)).map (·, value)
  else
    let letter := String.ofList (word.toList.take 2)
    (helpNames.filter (· = letter)).map (·, some (String.ofList (word.toList.drop 2)))

/-- What a word is; nothing if it is short for several names. -/
def wordOf? (word : String) : Option Word :=
  let known (name : String) : Bool := names.contains name || helpNames.contains name
  let (front, value) := splitWord word
  match word.toList with
  | '-' :: rest =>
    if rest.isEmpty then some (.value word)
    else if known word then some (.option word none)
    else if value.isSome && known front && front ≠ "-h" then some (.option front value)
    else
      match namesFor word with
      | [(name, value)] => some (.option name value)
      | _ :: _ :: _ => none
      | [] =>
        if looksNegative word.toList || rest.contains ' ' then some (.value word)
        else some .unknown
  | _ => some (.value word)

/-- Whether an option for help still asks for help with this text at it. Behind the letter there may be
the letter again and other letters, but no value. -/
def isStillHelp (name value : String) : Bool :=
  let behind := (value.toList.dropWhile (· = 'h')).head?
  name = "-h" && behind ≠ some '=' && behind ≠ some '-'

/-- Follows the words of a command line from left to right. A word that is no option is passed over,
but `known` says whether there was none so far. -/
def follow (options : TerminalOptions) (known : Bool) : List Word → TerminalRequest
  | [] => if known then .run options else .refused
  | .unknown :: rest | .value _ :: rest => follow options false rest
  | .option name (some value) :: rest =>
    if helpNames.contains name then if isStillHelp name value then .help else .refused
    else
      match options.set? name value with
      | some options => follow options known rest
      | none => .refused
  | .option name none :: rest =>
    if helpNames.contains name then .help
    else
      match rest with
      | .value value :: rest =>
        match options.set? name value with
        | some options => follow options known rest
        | none => .refused
      | _ => .refused

/-- What a command line asks for. Two hyphens alone end the options, and nothing may stand there. -/
def ofArguments (words : List String) : TerminalRequest :=
  let isEnd (word : String) : Bool := word = "--"
  match (words.takeWhile (!isEnd ·)).mapM wordOf? with
  | none => .refused
  | some options => follow {} (!words.any isEnd) options

/-- The actor in front of the terminal. -/
def actor (options : TerminalOptions) : Actor :=
  { id := .text ("cli-" ++ lower options.name)
    name := .text options.name
    health := .real options.health
    level := .int options.level
    permissions := options.permissions.eraseDups.map .text }

end TerminalOptions

end ChestMenu
