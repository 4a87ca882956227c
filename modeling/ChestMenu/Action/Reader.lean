import ChestMenu.Action
import ChestMenu.Text.Digit
import ChestMenu.Value.Text

/-!
# Reading actions

A line that is no action stands for none; nothing is refused.

The tags of a conditional line are looked for in any case, in the upper case of the line, and the
line is cut at the places found there.
-/
namespace ChestMenu

open ChestMenu.Number ChestMenu.Text

variable [Machine]

namespace SimpleAction

/-- A sound: a name, or a name, a volume and a pitch with one space between them. If the volume or
the pitch is no number, only the name counts. -/
def soundOfChars (value : List Char) : SimpleAction :=
  match splitOnChar ' ' value with
  | [name, volume, pitch] =>
    match readReal? volume, readReal? pitch with
    | some volume, some pitch => sound (String.ofList name) volume pitch
    | _, _ => sound (String.ofList name) usualLoudness usualLoudness
  | _ => sound (String.ofList value) usualLoudness usualLoudness

/-- A change of page: digits in the wide sense, perhaps with a sign in front. -/
def pageChange? (raw : List Char) : Option (List Char) :=
  let change := trimChars isBlank raw
  let digits :=
    match change with
    | c :: rest => if c = '+' || c = '-' then rest else change
    | [] => []
  if !digits.isEmpty && digits.all isDigit then some change else none

/-- A named action; names have no case and no blanks around them. -/
def triggerOf (name : List Char) (style : TriggerStyle) : SimpleAction :=
  trigger (String.ofList (upperChars (trimChars isBlank name))) style

/-- The action with a tag and a value. Where a value is needed, an empty one makes no action. -/
def ofTag? (tag : String) (value : List Char) : Option SimpleAction :=
  let text := String.ofList value
  let required (action : Option SimpleAction) : Option SimpleAction :=
    if value.isEmpty then none else action
  match tag with
  | "COMMAND" => required (some (console text .command))
  | "CONSOLE" => required (some (console text .console))
  | "PLAYER" => required (some (player text))
  | "SOUND" => required (some (soundOfChars value))
  | "MESSAGE" => some (message text)
  | "CLOSE" => some close
  | "OPEN" => required (some (openMenu text))
  | "BROADCAST" => some (broadcast text)
  | "PAGE" => required ((pageChange? value).map fun change => changePage (String.ofList change))
  | "ACTION" => required (some (triggerOf value .context))
  | "REFRESH" => some refresh
  | _ => none

/-- Cuts a line into the tag in brackets that it starts with, in upper case, and the value. -/
def splitTag? (line : List Char) : Option (String × List Char) :=
  match trimChars isBlank line with
  | '[' :: rest =>
    (cutAt? [']'] rest).map fun (tag, value) =>
      (String.ofList (upperChars (trimChars isBlank tag)), trimChars isBlank value)
  | _ => none

/-- Reads an action without a condition. -/
def ofChars? (line : List Char) : Option SimpleAction :=
  (splitTag? line).bind fun (tag, value) => ofTag? tag value

/-- Cuts a text in front of every opening bracket. -/
def chunks : List Char → List (List Char)
  | [] => [[]]
  | c :: cs =>
    match chunks cs with
    | [] => [[c]]
    | piece :: pieces => if c = '[' then [] :: (c :: piece) :: pieces else (c :: piece) :: pieces

/-- Reads the actions of a branch; what is none is passed over. -/
def branchOfChars (cs : List Char) : List SimpleAction :=
  (chunks cs).filterMap ofChars?

end SimpleAction

namespace Action

/-- Cuts a text at the first place where its upper case has the tag. -/
def cutAtTag? (tag : String) (cs : List Char) : Option (List Char × List Char) :=
  (find? tag.toList (upperChars cs)).map fun place => (cs.take place, cs.drop (place + tag.length))

/-- Reads a conditional line from behind its first tag. -/
def conditionalOfChars? (body : List Char) : Option Action := do
  let (front, rest) ← cutAtTag? "[THEN]" body
  let conditionText := trimChars isBlank front
  let (thenText, elseText) := (cutAtTag? "[ELSE]" rest).getD (rest, [])
  let condition ← Condition.ofChars? conditionText
  return conditional condition (String.ofList conditionText)
    ((SimpleAction.branchOfChars thenText).map simple) ((SimpleAction.branchOfChars elseText).map simple)

/-- Reads an action. -/
def ofChars? (line : List Char) : Option Action :=
  let stripped := trimChars isBlank line
  if "[IF]".toList.isPrefixOf (upperChars stripped) then conditionalOfChars? (stripped.drop 4)
  else (SimpleAction.ofChars? stripped).map simple

/-- Reads an action. -/
def ofText? (line : String) : Option Action :=
  ofChars? line.toList

/-- Reads the actions of a document. What counts as false stands for no lines, and each member of
another value is read by its text. -/
def ofLines (lines : Value) : Except Failure (List Action) := do
  if ← lines.truth then
    let texts ← (← lines.members).mapM (·.shown)
    return texts.filterMap ofText?
  else return []

end Action

end ChestMenu
