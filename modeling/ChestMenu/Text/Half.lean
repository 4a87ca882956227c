/-!
# Halves of surrogate pairs

A document can name a half of a surrogate pair by its number, as in `"\ud800"`. Such a half is no
character and no output takes it, but a text may hold it like a character: it counts as one, and it is
different from all others.

In a text a half is written as two characters: one that is reserved for use inside programs, and one for
private use that tells which half it is. A document that holds these two characters one behind the other
is not told from one that names the half.
-/
namespace ChestMenu.Text

/-- The character that a half is marked by. -/
def halfMark : Char := Char.ofNat 0x10FFFE

/-- Whether a number is that of a half. -/
def isHalf (code : Nat) : Bool :=
  0xD800 ≤ code && code < 0xE000

/-- The number of the half that two characters stand for. -/
def halfOf? (mark c : Char) : Option Nat :=
  if mark = halfMark && 0xE000 ≤ c.toNat && c.toNat < 0xE800 then some (c.toNat - 0x800) else none

/-- The characters for a number: those of a half, or the one that the number has. -/
def ofCode (code : Nat) : List Char :=
  if isHalf code then [halfMark, Char.ofNat (code + 0x800)] else [Char.ofNat code]

/-- The number of the character that two halves make together. -/
def pairCode (high low : Nat) : Nat :=
  0x10000 + (high - 0xD800) * 0x400 + (low - 0xDC00)

/-- What a text counts: its characters, and each half as the two that stand for it. -/
def units : List Char → List (List Char)
  | c :: d :: cs => if (halfOf? c d).isSome then [c, d] :: units cs else [c] :: units (d :: cs)
  | [c] => [[c]]
  | [] => []

/-- Whether a text holds a half. -/
def hasHalf (cs : List Char) : Bool :=
  (units cs).any fun unit => unit.length = 2

/-- Each half is written in a way of its own: behind the mark stands one character, from which the half can be told. -/
theorem halfOf?_ofCode {code : Nat} (half : isHalf code = true) :
    ∃ c, ofCode code = [halfMark, c] ∧ halfOf? halfMark c = some code := by
  refine ⟨Char.ofNat (code + 0x800), by rw [ofCode, if_pos half], ?_⟩
  rw [isHalf, Bool.and_eq_true, decide_eq_true_eq, decide_eq_true_eq] at half
  have valid : (code + 0x800).isValidChar := .inr ⟨by omega, by omega⟩
  have number : (Char.ofNat (code + 0x800)).toNat = code + 0x800 := by
    rw [Char.ofNat, dif_pos valid]
    rfl
  rw [halfOf?, number, if_pos (by simp; omega), Nat.add_sub_cancel]

/-- A text that names a half holds it, so an output that takes no halves does not take the text. -/
theorem hasHalf_ofCode {code : Nat} (half : isHalf code = true) : hasHalf (ofCode code) = true := by
  obtain ⟨c, written, read⟩ := halfOf?_ofCode half
  rw [written, hasHalf, units, read]
  rfl

/-- Cutting a text into what it counts loses nothing. A mark and the character behind it are one, and any other
character is one by itself. -/
theorem flatten_units (cs : List Char) : (units cs).flatten = cs := by
  fun_induction units cs with
  | case1 c d cs half ih => simp [ih]
  | case2 c d cs half ih => simp [ih]
  | case3 | case4 => rfl

end ChestMenu.Text
