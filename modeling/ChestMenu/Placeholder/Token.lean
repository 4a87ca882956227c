import ChestMenu.OrderedMap
import ChestMenu.Text.Blank
import ChestMenu.Text.Case
import ChestMenu.Text.Search
import ChestMenu.Value.Basic

/-!
# Tokens in texts

A token is a name in braces; a table says what stands for which token. Tokens are replaced one after
another in the order of the table, so what one token brings in, a later one may replace. An unknown
token stays as it is written. Only a text can take the place of a token: where another value would
have to, nothing can be put together.
-/
namespace ChestMenu.Placeholder

open ChestMenu.Text

/-- What stands for tokens. -/
abbrev Table := OrderedMap String Value

/-- A table of texts. -/
def textTable (entries : List (String × String)) : Table :=
  entries.map fun (name, text) => (name, .text text)

/-- A name in braces; a name that is in braces already stays as it is. -/
def token (name : String) : String :=
  let cs := trimChars isBlank name.toList
  if cs.head? = some '\x7b' && cs.getLast? = some '\x7d' then String.ofList cs
  else String.ofList ('\x7b' :: cs ++ ['\x7d'])

/-- A text with one token replaced. -/
def replaceToken (text token : String) (value : Value) : Except Failure String :=
  match value.plain with
  | .text s => .ok (replaceAll token s text)
  | value =>
    if occursIn token.toList text.toList then .error (.notReplaceable value.kindName)
    else .ok text

/-- The text with all tokens of a table replaced. -/
def apply (table : Table) (text : String) : Except Failure String :=
  if text.isEmpty then .ok text
  else table.foldlM (fun text (token, value) => replaceToken text token value) text

/-- A table under the tokens of its names. -/
def tokenTable {α : Type} (entries : OrderedMap String α) : OrderedMap String α :=
  .ofPairs (entries.map fun (name, value) => (token name, value))

/-- Compares the sides of an expression without regard to case and blanks around them. -/
private def sameWord (left right : List Char) : Bool :=
  lowerChars (trimChars isBlank left) == lowerChars (trimChars isBlank right)

/-- Whether a text says that an item is visible: a word for a truth value, or two sides that are to be
equal or unequal. The first operator in the text counts. Whatever says nothing counts as visible. -/
def saysVisible (text : List Char) : Bool :=
  let lowered := String.ofList (lowerChars text)
  if lowered = "true" then true
  else if lowered = "false" then false
  else
    match cutAt? "==".toList text, cutAt? "!=".toList text with
    | none, none => true
    | some (left, right), none => sameWord left right
    | none, some (left, right) => !sameWord left right
    | some (left, right), some (left', right') =>
      if left.length < left'.length then sameWord left right else !sameWord left' right'

/-- Whether an expression says that an item is visible, once the tokens in it are replaced. No
expression, and one of blanks only, counts as visible. -/
def isVisibleIf (table : Table) (expression : Option String) : Except Failure Bool := do
  match expression with
  | none => return true
  | some expression =>
    if (trim expression).isEmpty then return true
    return saysVisible (trimChars isBlank (← apply table expression).toList)

end ChestMenu.Placeholder
