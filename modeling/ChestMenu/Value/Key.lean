import ChestMenu.Value.Text

/-!
# Values looked up among texts

A value is looked up where texts are the keys. It is found as the key that is kept under its number, if it
equals that key; so an object whose class tells the number of a text may be found as the text. A value that
cannot have a number, its type being wrong for that, is compared with all keys instead.
-/
namespace ChestMenu.Value

variable [Machine]

/-- The number under which a value is kept as a key. It is left open for a value that equals no text. -/
def number (v : Value) : Except Failure (Option Int) :=
  match v, v.keyFault? with
  | record _ _ _ manner, _ => manner.number
  | text s, _ => .ok (some (Machine.textNumber s))
  | _, none => .ok none
  | _, some cause => .error cause

/-- Whether a value is equal to a text. -/
def equalsText (v : Value) (word : String) : Except Failure Bool :=
  match v with
  | text s => .ok (s = word)
  | record _ _ _ manner => manner.equalsText word
  | _ => .ok false

/-- Whether a value is found under a text that is a key: it is kept under its number and equals it. -/
def isFoundAs (v : Value) (word : String) : Except Failure Bool := do
  if (← v.number) = some (Machine.textNumber word) then v.equalsText word else return false

/-- The one among several things, each kept under a text, that a value is found as. A missing key that is
reported where it is looked for counts as not found. -/
def lookUp {α : Type} (v : Value) (word : α → String) (kept : List α) : Except Failure (Option α) :=
  match kept.findM? fun a => v.isFoundAs (word a) with
  | .ok found => .ok found
  | .error cause =>
    if cause.isMissingKey then .ok none
    else if cause.isWrongType then kept.findM? fun a => v.equalsText (word a)
    else .error cause

/-- A text is found under itself alone, whatever numbers there are. Texts with different numbers are different, and
those with one number are compared. -/
theorem isFoundAs_text (s word : String) : (text s).isFoundAs word = .ok (s = word) := by
  unfold isFoundAs
  by_cases same : s = word
  · simp [number, equalsText, same, bind, Except.bind]
  · by_cases sameNumber : Machine.textNumber s = Machine.textNumber word <;>
      simp [number, equalsText, same, sameNumber, bind, Except.bind, pure, Except.pure]

/-- A value with the number of another that equals the same texts is found under the same. -/
theorem isFoundAs_congr {v w : Value} (number : v.number = w.number) (equal : v.equalsText = w.equalsText)
    (word : String) : v.isFoundAs word = w.isFoundAs word := by
  unfold isFoundAs
  rw [number, equal]

end ChestMenu.Value
