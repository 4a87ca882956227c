import ChestMenu.Number.Integer
import ChestMenu.Text.Digit
import Mathlib.Data.List.Basic
import Mathlib.Data.List.TakeWhile

/-!
# Numerals

A text without underscores is read as a number without sign exactly if it is made of decimal digits, at least one and
no more than the limit; the digits may be of any script, and the number is theirs. The text that is written for a
number is made of plain digits, so it is read again as that number, whatever its sign, if it is short enough.

Digits in the wide sense are more: a character may be one and have no value.
-/
namespace ChestMenu.Number

open ChestMenu.Text

variable {cs : List Char} {c : Char} {n : Nat}

/-- A text of decimal digits that is short enough to be read. -/
structure IsNumeral (cs : List Char) : Prop where
  nonempty : cs ≠ []
  digits : ∀ c ∈ cs, (digitValue? c).isSome
  short : cs.length ≤ digitLimit

instance (cs : List Char) : Decidable (IsNumeral cs) :=
  decidable_of_iff (cs ≠ [] ∧ (cs.all fun c => (digitValue? c).isSome) = true ∧ cs.length ≤ digitLimit) <| by
    rw [List.all_eq_true]
    exact ⟨fun ⟨nonempty, digits, short⟩ => ⟨nonempty, digits, short⟩, fun ⟨nonempty, digits, short⟩ =>
      ⟨nonempty, digits, short⟩⟩

/-- The number that the digits of a text stand for. -/
def digitsNumber (cs : List Char) : Nat :=
  ofDigits (cs.filterMap digitValue?)

/-- Of a text without underscores the digits in front are taken. They end at the first character that is no digit,
since there is no underscore to go on behind. -/
theorem takeDigits_of_plain (plain : '_' ∉ cs) (afterDigit : Bool) :
    takeDigits afterDigit cs =
      ((cs.takeWhile fun c => (digitValue? c).isSome).filterMap digitValue?,
        cs.dropWhile fun c => (digitValue? c).isSome) := by
  unfold takeDigits
  induction cs generalizing afterDigit with
  | nil => rfl
  | cons c cs ih =>
    obtain ⟨apart, plain⟩ := not_or.mp (mt List.mem_cons.mpr plain)
    unfold takeDigitsBy
    cases value : digitValue? c with
    | none =>
      have noUnderscore : (afterDigit && decide (c = '_') && (cs.head?.bind digitValue?).isSome) = false := by
        rw [decide_eq_false (Ne.symm apart), Bool.and_false, Bool.false_and]
      simp [value, noUnderscore]
    | some d => simp [value, ih plain]

/-- If all characters are digits, all are taken and nothing is left. -/
theorem takeDigits_of_digits (digits : ∀ c ∈ cs, (digitValue? c).isSome) :
    takeDigits false cs = (cs.filterMap digitValue?, []) := by
  have plain : '_' ∉ cs := fun member => absurd (digits '_' member) (by decide)
  rw [takeDigits_of_plain plain, List.takeWhile_eq_self_iff.mpr digits, List.dropWhile_eq_nil_iff.mpr digits]

/-- As many values are taken as there are digits. No character has two values, and no digit has none. -/
theorem length_filterMap_digits (digits : ∀ c ∈ cs, (digitValue? c).isSome) :
    (cs.filterMap digitValue?).length = cs.length :=
  List.filterMap_length_eq_length.mpr digits

/-- A text without underscores is read as a number without sign exactly if it is a numeral. The number is then that of
its digits. -/
theorem readNatural?_eq_some_iff (plain : '_' ∉ cs) :
    readNatural? cs = some n ↔ IsNumeral cs ∧ digitsNumber cs = n := by
  by_cases digits : ∀ c ∈ cs, (digitValue? c).isSome
  · have count := length_filterMap_digits digits
    unfold readNatural?
    rw [takeDigits_of_digits digits]
    cases taken : cs.filterMap digitValue? with
    | nil =>
      rw [taken] at count
      have empty : cs = [] := List.length_eq_zero_iff.mp count.symm
      exact iff_of_false (Option.some_ne_none n).symm fun numeral => numeral.1.nonempty empty
    | cons d ds =>
      rw [taken] at count
      have nonempty : cs ≠ [] := by
        rintro rfl
        cases taken
      dsimp only
      rw [count, digitsNumber, taken]
      by_cases short : cs.length ≤ digitLimit
      · rw [if_pos short, Option.some_inj]
        exact (and_iff_right ⟨nonempty, digits, short⟩).symm
      · rw [if_neg short]
        exact iff_of_false (Option.some_ne_none n).symm fun numeral => short numeral.1.short
  · have rest : cs.dropWhile (fun c => (digitValue? c).isSome) ≠ [] := fun all =>
      digits (List.dropWhile_eq_nil_iff.mp all)
    have unread : readNatural? cs = none := by
      unfold readNatural?
      rw [takeDigits_of_plain plain]
      split
      · rfl
      · rename_i all
        exact absurd (congrArg Prod.snd all) rest
      · rfl
    rw [unread]
    exact iff_of_false (Option.some_ne_none n).symm fun numeral => digits numeral.1.digits

/-- A text without underscores is read as the number of its digits, if it can be read. -/
theorem readNatural?_of_plain (plain : '_' ∉ cs) :
    readNatural? cs = if IsNumeral cs then some (digitsNumber cs) else none := by
  ext n
  rw [readNatural?_eq_some_iff plain, Option.ite_none_right_eq_some, Option.some_inj]

/-- A plain digit has a value. It is the distance to the zero. -/
theorem digitValue?_of_isDigit (isPlain : c.isDigit) : digitValue? c = some (c.toNat - '0'.toNat) := by
  have bounds : 0x30 ≤ c.toNat ∧ c.toNat ≤ 0x39 := Char.isDigit_iff_toNat.mp isPlain
  unfold digitValue?
  simp [bounds]

/-- The written form of a number has plain digits only. They are those with which numbers are written in the first
place. -/
theorem isDigit_of_mem_written (member : c ∈ Nat.toDigits 10 n) : c.isDigit :=
  Nat.isDigit_of_mem_toDigits (by decide) (by decide) member

/-- Each character of the written form of a number has a value as a digit. -/
theorem isSome_of_mem_written (member : c ∈ Nat.toDigits 10 n) : (digitValue? c).isSome := by
  rw [digitValue?_of_isDigit (isDigit_of_mem_written member), Option.isSome_some]

/-- The digits of the written form stand for the number. Writing divides by ten again and again, and reading
multiplies. -/
theorem digitsNumber_written (n : Nat) : digitsNumber (Nat.toDigits 10 n) = n := by
  have values : (Nat.toDigits 10 n).filterMap digitValue? = (Nat.toDigits 10 n).map fun c => c.toNat - '0'.toNat :=
    List.filterMap_eq_map_iff_forall_eq_some.mpr fun c member =>
      digitValue?_of_isDigit (isDigit_of_mem_written member)
  calc digitsNumber (Nat.toDigits 10 n)
      = ((Nat.toDigits 10 n).map fun c => c.toNat - '0'.toNat).foldl (fun n d => 10 * n + d) 0 := by
        rw [digitsNumber, values, ofDigits]
    _ = Nat.ofDigitChars 10 (Nat.toDigits 10 n) 0 := by rw [List.foldl_map, Nat.ofDigitChars_eq_foldl]
    _ = n := Nat.ofDigitChars_ten_toDigits

/-- Two numbers with one written form are the same, since the form can be read again. -/
theorem naturalText_injective : Function.Injective naturalText := by
  intro m n same
  have digits : Nat.toDigits 10 m = Nat.toDigits 10 n := String.ofList_injective same
  rw [← digitsNumber_written m, digits, digitsNumber_written]

/-- The written form of a number has no more digits than the power of ten above it says. This is what keeps short
numbers below the limit for digits. -/
theorem length_written_le {limit : Nat} (positive : 0 < limit) (small : n < Nat.pow 10 limit) :
    (Nat.toDigits 10 n).length ≤ limit :=
  (Nat.length_toDigits_le_iff (by decide) positive).mpr small

/-- The written form of a short number is a numeral. It has a digit, only digits, and not too many. -/
theorem isNumeral_written (short : n < Nat.pow 10 digitLimit) : IsNumeral (Nat.toDigits 10 n) where
  nonempty := Nat.toDigits_ne_nil
  digits _ member := isSome_of_mem_written member
  short := length_written_le (by decide) short

/-- The written form of a short number is read as the number. The limit for digits is what keeps longer ones from
being read. -/
theorem readNatural?_written (short : n < Nat.pow 10 digitLimit) : readNatural? (Nat.toDigits 10 n) = some n :=
  (readNatural?_eq_some_iff Nat.underscore_not_in_toDigits).mpr ⟨isNumeral_written short, digitsNumber_written n⟩

/-- A plain digit is no blank. -/
theorem isBlank_of_isDigit (isPlain : c.isDigit) : isBlank c = false := by
  have bounds : 0x30 ≤ c.toNat ∧ c.toNat ≤ 0x39 := Char.isDigit_iff_toNat.mp isPlain
  unfold isBlank
  simp only [Bool.or_eq_false_iff, Bool.and_eq_false_iff, decide_eq_false_iff_not, beq_eq_false_iff_ne]
  omega

/-- The written form of a number has no sign. It has digits only. -/
theorem not_mem_written_of_sign (isSign : c = '-' ∨ c = '+') : c ∉ Nat.toDigits 10 n := by
  intro member
  have isPlain := isDigit_of_mem_written member
  rcases isSign with rfl | rfl <;> exact absurd isPlain (by decide)

/-- A trimmed text is trimmed for a numeral, too. The blanks that may stand around a numeral are some of all blanks. -/
theorem trimChars_isNumeralBlank (trimmed : trimChars isBlank cs = cs) : trimChars isNumeralBlank cs = cs := by
  have plain {c : Char} (noBlank : isBlank c = false) : isNumeralBlank c = false := by
    unfold isNumeralBlank
    rw [noBlank, Bool.false_and]
  rw [← trimmed]
  exact trimChars_eq_self (fun c first => plain (head?_trimChars first)) fun c last => plain (getLast?_trimChars last)

/-- A trimmed text with a minus in front is read as what stands behind it, with the sign changed. Zero may have a
minus, too. -/
theorem readInteger?_minus (trimmed : trimChars isBlank ('-' :: cs) = '-' :: cs) :
    readInteger? ('-' :: cs) = (readNatural? cs).map fun (n : Nat) => -(n : Int) := by
  simp only [readInteger?, trimChars_isNumeralBlank trimmed]
  cases readNatural? cs <;> rfl

/-- A trimmed text with a plus in front is read as what stands behind it. The plus changes nothing. -/
theorem readInteger?_plus (trimmed : trimChars isBlank ('+' :: cs) = '+' :: cs) :
    readInteger? ('+' :: cs) = (readNatural? cs).map Int.ofNat := by
  simp only [readInteger?, trimChars_isNumeralBlank trimmed]

/-- A trimmed text without a sign in front is read as a number without sign. Then it is not negative. -/
theorem readInteger?_unsigned (trimmed : trimChars isBlank cs = cs) (noMinus : cs.head? ≠ some '-')
    (noPlus : cs.head? ≠ some '+') : readInteger? cs = (readNatural? cs).map Int.ofNat := by
  rw [readInteger?, trimChars_isNumeralBlank trimmed]
  split
  · exact absurd rfl noMinus
  · exact absurd rfl noPlus
  · rfl

/-- What is read from a text without a minus is not negative. There is no other way to be negative. -/
theorem nonneg_of_readInteger? {z : Int} (plain : '-' ∉ cs) (read : readInteger? cs = some z) : 0 ≤ z := by
  unfold readInteger? at read
  split at read
  · rename_i rest trimmed
    have member : '-' ∈ trimChars isNumeralBlank cs := trimmed ▸ List.mem_cons_self
    exact absurd ((infix_trimChars _ cs).subset member) plain
  · obtain ⟨n, -, rfl⟩ := Option.map_eq_some_iff.mp read
    exact Int.natCast_nonneg n
  · obtain ⟨n, -, rfl⟩ := Option.map_eq_some_iff.mp read
    exact Int.natCast_nonneg n

/-- The written form of an integer is made of plain digits and a minus. The minus stands in front of it, if it is
negative. -/
theorem of_mem_integerText {z : Int} (member : c ∈ (integerText z).toList) : c = '-' ∨ c.isDigit := by
  have digits {n : Nat} (isDigit : c ∈ (naturalText n).toList) : c.isDigit := by
    rw [naturalText, String.toList_ofList] at isDigit
    exact isDigit_of_mem_written isDigit
  cases z with
  | ofNat n => exact .inr (digits member)
  | negSucc n =>
    rw [integerText, String.toList_append, List.mem_append] at member
    exact member.imp List.mem_singleton.mp digits

/-- The written form of an integer has no blanks, so trimming leaves it as it is. -/
theorem isBlank_of_mem_integerText {z : Int} (member : c ∈ (integerText z).toList) : isBlank c = false := by
  rcases of_mem_integerText member with rfl | isPlain
  · decide
  · exact isBlank_of_isDigit isPlain

/-- The written form of an integer is not empty: it has a digit at least. -/
theorem toList_integerText_ne_nil (z : Int) : (integerText z).toList ≠ [] := by
  cases z with
  | ofNat n => simp [integerText, naturalText]
  | negSucc n => simp [integerText, naturalText]

/-- The written form of a short natural number is read as the number. It has neither a sign nor blanks to be taken
off. -/
theorem readInteger?_written (short : n < Nat.pow 10 digitLimit) :
    readInteger? (Nat.toDigits 10 n) = some (n : Int) := by
  have trimmed : trimChars isBlank (Nat.toDigits 10 n) = Nat.toDigits 10 n :=
    trimChars_of_plain fun c member => isBlank_of_isDigit (isDigit_of_mem_written member)
  rw [readInteger?_unsigned trimmed (fun first => not_mem_written_of_sign (.inl rfl) (List.mem_of_head? first))
    (fun first => not_mem_written_of_sign (.inr rfl) (List.mem_of_head? first)), readNatural?_written short]
  rfl

/-- The written form of a short integer is read as the integer. The cases are those of its sign. -/
theorem readInteger?_integerText {z : Int} (short : z.natAbs < Nat.pow 10 digitLimit) :
    readInteger? (integerText z).toList = some z := by
  have trimmed : trimChars isBlank (integerText z).toList = (integerText z).toList :=
    trimChars_of_plain fun _ member => isBlank_of_mem_integerText member
  cases z with
  | ofNat n =>
    rw [integerText, naturalText, String.toList_ofList]
    exact readInteger?_written short
  | negSucc n =>
    have written : (integerText (.negSucc n)).toList = '-' :: Nat.toDigits 10 (n + 1) := by
      simp [integerText, naturalText]
    have smaller : n + 1 < Nat.pow 10 digitLimit := short
    rw [written] at trimmed ⊢
    rw [readInteger?_minus trimmed, readNatural?_written smaller]
    rfl

end ChestMenu.Number
