import ChestMenu.Machine
import ChestMenu.Text.Search

/-!
# Lists of slots

Lists of slots as they are written in a menu document: a number, a text such as `0-2, 7`, or a list
of these. Whatever is not a slot or a range of slots stands for no slot.

Each list that is gone into takes a call, and so does each text. A list that is nested deeper than there
is room for calls cannot be read, and a list inside itself is nested without end. Neither can a range be
read that there is no room for.
-/
namespace ChestMenu.Slots

open ChestMenu.Number ChestMenu.Text

variable [Machine]

/-- How many slots there are from one bound to the other, both included. -/
def count (a b : Int) : Nat :=
  (max a b - min a b).toNat + 1

/-- The integers from one bound to the other, ascending, both included. -/
def between (a b : Int) : Except Failure (List Int) :=
  if countLimit < count a b then .error .tooManyMembers
  else if Machine.room < count a b then .error .noRoom
  else .ok ((List.range (count a b)).map fun (n : Nat) => min a b + (n : Int))

/-- What is between two bounds is there if there is room for it. The limit for what is counted lies above all room. -/
theorem exists_slots_between {a b : Int} (fits : count a b ≤ Machine.room) : ∃ slots, between a b = .ok slots := by
  have less : Machine.room ≤ countLimit := Machine.room_le
  unfold between
  rw [if_neg (by omega), if_neg (by omega)]
  exact ⟨_, rfl⟩

/-- If there is no room for what is between two bounds, it is not there. The failure tells whether it is too much to be
counted. -/
theorem between_of_wide {a b : Int} (wide : Machine.room < count a b) :
    between a b = .error (if countLimit < count a b then .tooManyMembers else .noRoom) := by
  unfold between
  rw [if_pos wide]
  split <;> rfl

/-- The slots of one part of a text: a number, or two numbers with a hyphen between them. -/
def ofPart (part : List Char) : Except Failure (List Int) :=
  match (splitOnChar '-' part).map fun bound => readInteger? (trimChars isBlank bound) with
  | [some n] => .ok [n]
  | [some a, some b] => between a b
  | _ => .ok []

/-- The slots of a text, whose parts are separated by commas. -/
def ofChars (cs : List Char) : Except Failure (List Int) := do
  return (← (splitOnChar ',' cs).mapM ofPart).flatten

/-- The slots that a value in a document stands for, where there is room for so many more calls. A
place in a table is what stands there. -/
def ofValueWithin : Nat → Value → Except Failure (List Int)
  | 0, v =>
    match v.plain with
    | .int n => .ok [n]
    | .text _ | .list (_ :: _) | .tuple (_ :: _) => .error .tooDeep
    | _ => .ok []
  | calls + 1, v =>
    match v.plain with
    | .int n => .ok [n]
    | .text s => ofChars s.toList
    | .list xs | .tuple xs => do return (← xs.mapM (ofValueWithin calls)).flatten
    | _ => .ok []

/-- The slots that a value in a document stands for, read where the loading of a menu is innermost. -/
def ofValue (v : Value) : Except Failure (List Int) :=
  ofValueWithin (Machine.calls + 1) v

end ChestMenu.Slots
