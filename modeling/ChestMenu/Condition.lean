import ChestMenu.Actor
import ChestMenu.Text.Case
import ChestMenu.Text.Search

/-!
# Conditions of actions

A condition names one subject in braces: the page, the actor's health or level with a comparison, a
permission that the actor has, or the name that the actor bears.

A condition without an operand never holds, and neither does a comparison whose operator is unknown.
A condition on the page does not hold for an actor who has no menu open.
-/
namespace ChestMenu

open ChestMenu.Number ChestMenu.Text

/-- What a condition is about. -/
inductive Subject where
  | page
  | health
  | level
  | permission
  | name
deriving Repr, DecidableEq

/-- The word for a subject. -/
def Subject.word : Subject → String
  | page => "page"
  | health => "health"
  | level => "level"
  | permission => "permission"
  | name => "name"

/-- The subjects in the order in which they are looked for. -/
def Subject.all : List Subject := [page, health, level, permission, name]

/-- A subject as it stands in a condition. -/
def Subject.token (subject : Subject) : List Char :=
  '\x7b' :: subject.word.toList ++ ['\x7d']

/-- A comparison of two numbers. -/
inductive Relation where
  | equal
  | unequal
  | greater
  | less
  | atLeast
  | atMost
deriving Repr, DecidableEq

/-- The relation that an operator stands for. -/
def Relation.ofText? : String → Option Relation
  | "==" => some equal
  | "equals" => some equal
  | "!=" => some unequal
  | ">" => some greater
  | "<" => some less
  | ">=" => some atLeast
  | "<=" => some atMost
  | _ => none

/-- Whether two integers are so related. -/
def Relation.holds (a b : Int) : Relation → Bool
  | equal => a == b
  | unequal => a != b
  | greater => b < a
  | less => a < b
  | atLeast => b ≤ a
  | atMost => a ≤ b

/-- Whether two floating-point numbers are so related. What is not a number is unequal to all. -/
def Relation.holdsReal (x y : Float) : Relation → Bool
  | equal => x == y
  | unequal => x != y
  | greater => y < x
  | less => x < y
  | atLeast => y ≤ x
  | atMost => x ≤ y

/-- A condition on an actor and the page of the menu that the actor has open. -/
inductive Condition where
  | never (subject : Subject)
  | page (operator : String) (operand : Int)
  | health (operator : String) (operand : Float)
  | level (operator : String) (operand : Int)
  | permission (permission : String)
  | name (name : String)
deriving DecidableEq

namespace Condition

/-- What a condition is about. -/
def subject : Condition → Subject
  | never subject => subject
  | page .. => .page
  | health .. => .health
  | level .. => .level
  | permission _ => .permission
  | name _ => .name

/-- The operator of a condition; permissions and names have one each. -/
def operator : Condition → String
  | never _ => ""
  | page operator _ | health operator _ | level operator _ => operator
  | permission _ => "has"
  | name _ => "equals"

/-- The operand of a condition, null if it never holds. -/
def operand : Condition → Value
  | never _ => .null
  | page _ n | level _ n => .int n
  | health _ x => .real x
  | permission wanted | name wanted => .text wanted

/-- Whether a condition never holds, for want of an operand. -/
def isNever : Condition → Bool
  | never _ => true
  | _ => false

/-- Whether a condition holds. An actor's health or level that is no number, or a name that is neither a
text nor bytes, breaks the evaluation off. Bytes are the same as no text. -/
def evaluate (actor : Actor) (page? : Option Int) : Condition → Except Failure Bool
  | never _ => .ok false
  | page operator operand =>
    .ok ((Relation.ofText? operator).any fun relation =>
      page?.any fun current => relation.holds current operand)
  | health operator operand =>
    match Relation.ofText? operator with
    | none => .ok false
    | some relation => do return relation.holdsReal (← actor.health.toReal) operand
  | level operator operand =>
    match Relation.ofText? operator with
    | none => .ok false
    | some relation => do return relation.holds (← actor.level.toInteger) operand
  | permission wanted => .ok (actor.hasPermission wanted)
  | name wanted =>
    match actor.name.plain with
    | .text s => .ok (lower s == lower wanted)
    | .bytes _ => .ok false
    | _ => .error (.missingAttribute "lower")

/-- The first subject that a text names. -/
def subject? (cs : List Char) : Option Subject :=
  Subject.all.find? fun subject => occursIn subject.token cs

/-- Reads a condition; nothing if the text names no subject, or an operand that is no number. -/
def ofChars? (text : List Char) : Option Condition :=
  let cs := trimChars isBlank text
  match subject? cs with
  | none => none
  | some subject =>
    let remainder := trimChars isBlank (replaceChars subject.token [] cs)
    let without (word : String) : String :=
      String.ofList (trimChars isBlank (removeFirst word.toList remainder))
    let compared {α : Type} (read? : List Char → Option α) (build : String → α → Condition) :
        Option Condition :=
      match firstWord? remainder with
      | none => some (never subject)
      | some (operator, operand) =>
        if operand.isEmpty then some (never subject)
        else (read? operand).map (build (String.ofList operator))
    match subject with
    | .permission => some (permission (without "has"))
    | .name => some (name (without "equals"))
    | .page => compared readInteger? page
    | .level => compared readInteger? level
    | .health => compared readReal? health

end Condition

end ChestMenu
