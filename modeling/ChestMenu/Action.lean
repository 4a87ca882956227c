import ChestMenu.Condition

/-!
# Actions

An action is what a click on an item does. A conditional action runs one of two lists of actions. Those of a line that
is read have no conditions in them; a host may put conditions into conditions. Every action has a written form, a tag
in brackets with a value behind it.
-/
namespace ChestMenu

open ChestMenu.Number

/-- Which handlers a named action is meant for. -/
inductive TriggerStyle where
  | context
  | legacy
deriving Repr, DecidableEq

/-- The tag that an action on the console was written with. -/
inductive ConsoleTag where
  | console
  | command
deriving Repr, DecidableEq

/-- The word in the brackets. -/
def ConsoleTag.word : ConsoleTag → String
  | console => "CONSOLE"
  | command => "COMMAND"

/-- An action without a condition. -/
inductive SimpleAction where
  | console (text : String) (tag : ConsoleTag)
  | player (text : String)
  | sound (name : String) (volume pitch : Float)
  | message (text : String)
  | broadcast (text : String)
  | close
  | openMenu (name : String)
  | changePage (change : String)
  | trigger (name : String) (style : TriggerStyle)
  | refresh
deriving DecidableEq

/-- An action. A conditional one keeps the text of its condition. -/
inductive Action where
  | simple (action : SimpleAction)
  | conditional (condition : Condition) (conditionText : String)
      (thenActions elseActions : List Action)

/-- A tag in brackets, and the value behind it unless that is empty. -/
def taggedLine (tag value : String) : String :=
  if value.isEmpty then "[" ++ tag ++ "]" else "[" ++ tag ++ "] " ++ value

namespace SimpleAction

/-- A sound of this volume and this pitch need not say so. -/
def usualLoudness : Float := 1.0

/-- The tag of an action; both forms of a console action have the tag `CONSOLE`. -/
def tag : SimpleAction → String
  | console .. => "CONSOLE"
  | player _ => "PLAYER"
  | sound .. => "SOUND"
  | message _ => "MESSAGE"
  | broadcast _ => "BROADCAST"
  | close => "CLOSE"
  | openMenu _ => "OPEN"
  | changePage _ => "PAGE"
  | trigger .. => "ACTION"
  | refresh => "REFRESH"

/-- The value of an action, as it stands behind the tag. -/
def value : SimpleAction → String
  | console text _ | player text | message text | broadcast text => text
  | sound name volume pitch =>
    if volume == usualLoudness && pitch == usualLoudness then name
    else name ++ " " ++ compactText volume ++ " " ++ compactText pitch
  | openMenu name => name
  | changePage change => change
  | trigger name _ => name
  | close | refresh => ""

/-- The written form of an action. A console action is written with the tag that it was read with,
and always with a space behind it. -/
def serialize : SimpleAction → String
  | console text tag => "[" ++ tag.word ++ "] " ++ text
  | action => taggedLine action.tag action.value

/-- Whether a page is meant relative to the present one. -/
def isRelative (change : String) : Bool :=
  change.toList.head?.any fun c => c = '+' || c = '-'

/-- The page that a change leads to; a change need not be a number. -/
def targetPage (change : String) (current : Int) : Except Failure Int :=
  match readInteger? change.toList with
  | some n => .ok (if isRelative change then current + n else n)
  | none => .error (.notANumeral change)

end SimpleAction

namespace Action

/-- The value of a conditional action, from the written forms of its branches. -/
def conditionalValue (conditionText : String) (thenLines elseLines : List String) : String :=
  let elsePart := if elseLines.isEmpty then [] else "[ELSE]" :: elseLines
  " ".intercalate (conditionText :: "[THEN]" :: thenLines ++ elsePart)

mutual

/-- The written form of an action. -/
def serialize : Action → String
  | simple action => action.serialize
  | conditional _ conditionText thenActions elseActions =>
    taggedLine "IF" (conditionalValue conditionText (serializeAll thenActions) (serializeAll elseActions))

/-- The written forms of several actions. -/
def serializeAll : List Action → List String
  | [] => []
  | action :: actions => serialize action :: serializeAll actions

end

/-- The value of an action, as it stands behind the tag. -/
def value : Action → String
  | simple action => action.value
  | conditional _ conditionText thenActions elseActions =>
    conditionalValue conditionText (serializeAll thenActions) (serializeAll elseActions)

/-- The tag of an action. -/
def tag : Action → String
  | simple action => action.tag
  | conditional .. => "IF"

end Action

end ChestMenu
