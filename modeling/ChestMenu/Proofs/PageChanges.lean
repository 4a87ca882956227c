import ChestMenu.Proofs.Numerals
import ChestMenu.Proofs.Rereading
import ChestMenu.Proofs.WellFormed

/-!
# Page changes

A page change that is read is made of digits with or without a sign in front: a page further on, a page back, or a
page by its number. That the text is one is decided when the line is read; what number it stands for, and so what page
it leads to, only when the action is performed.

The two do not go by the same digits. To be read a page change needs digits in the wide sense and may have any number
of them; to lead anywhere its digits must be decimal and no more than the limit. A page change in between is an action
like any other until someone clicks on it.
-/
namespace ChestMenu

open ChestMenu.Number ChestMenu.Text

namespace SimpleAction

/-- Where a page change leads from: the present page, onward or back, or the first page of all. -/
inductive Turn where
  | onward
  | back
  | straight

namespace Turn

/-- The sign in front of the digits. -/
def sign : Turn → List Char
  | onward => ['+']
  | back => ['-']
  | straight => []

/-- The page that a turn by a number leads to. -/
def target (current : Int) (n : Nat) : Turn → Int
  | onward => current + n
  | back => current - n
  | straight => n

end Turn

/-- A text is a page change: a sign or none, and digits in the wide sense. -/
structure IsPageChange (change : List Char) (turn : Turn) (digits : List Char) : Prop where
  written : change = turn.sign ++ digits
  nonempty : digits ≠ []
  wide : ∀ c ∈ digits, isDigit c = true

/-- Signs and underscores are no digits in any sense. So a text of digits in the wide sense is read without regard to
them. -/
theorem not_mem_of_wide {digits : List Char} (wide : ∀ c ∈ digits, isDigit c = true) :
    '_' ∉ digits ∧ '+' ∉ digits ∧ '-' ∉ digits :=
  ⟨fun member => absurd (wide _ member) (by decide), fun member => absurd (wide _ member) (by decide),
    fun member => absurd (wide _ member) (by decide)⟩

/-- What is read as a page change is one, without blanks at its ends. The sign, if there is one, is the first
character, and the digits are all that follow. -/
theorem isPageChange_of_pageChange? {raw change : List Char} (read : pageChange? raw = some change) :
    trimChars isBlank change = change ∧ ∃ turn digits, IsPageChange change turn digits := by
  have isTrimmed := eq_of_pageChange? read
  refine ⟨by rw [isTrimmed, trimChars_trimChars], ?_⟩
  unfold pageChange? at read
  rw [← isTrimmed] at read
  obtain ⟨accepted, -⟩ := Option.ite_none_right_eq_some.mp read
  simp only [Bool.and_eq_true, Bool.not_eq_true', List.isEmpty_eq_false_iff, List.all_eq_true] at accepted
  obtain ⟨nonempty, wide⟩ := accepted
  cases change with
  | nil => exact absurd rfl nonempty
  | cons c rest =>
    dsimp only at nonempty wide
    by_cases isSign : c = '+' ∨ c = '-'
    · rw [if_pos (by simpa using isSign)] at nonempty wide
      rcases isSign with rfl | rfl
      · exact ⟨.onward, rest, rfl, nonempty, wide⟩
      · exact ⟨.back, rest, rfl, nonempty, wide⟩
    · rw [if_neg (by simpa using isSign)] at nonempty wide
      exact ⟨.straight, c :: rest, rfl, nonempty, wide⟩

/-- A page change is read as a number if its digits can be. The sign counts as that of the number. -/
theorem IsPageChange.readInteger? {change digits : List Char} {turn : Turn} (isChange : IsPageChange change turn digits)
    (trimmed : trimChars isBlank change = change) :
    ChestMenu.Number.readInteger? change =
      if IsNumeral digits then some (turn.target 0 (digitsNumber digits)) else none := by
  obtain ⟨rfl, nonempty, wide⟩ := isChange
  obtain ⟨noUnderscore, noPlus, noMinus⟩ := not_mem_of_wide wide
  have read := readNatural?_of_plain noUnderscore
  cases turn with
  | onward =>
    rw [show Turn.onward.sign ++ digits = '+' :: digits from rfl] at trimmed ⊢
    rw [readInteger?_plus trimmed, read]
    split <;> simp [Turn.target]
  | back =>
    rw [show Turn.back.sign ++ digits = '-' :: digits from rfl] at trimmed ⊢
    rw [readInteger?_minus trimmed, read]
    split <;> simp [Turn.target]
  | straight =>
    rw [show Turn.straight.sign ++ digits = digits from rfl] at trimmed ⊢
    rw [readInteger?_unsigned trimmed (fun first => noMinus (List.mem_of_head? first))
      (fun first => noPlus (List.mem_of_head? first)), read]
    split <;> simp [Turn.target]

/-- A page change is relative exactly if it has a sign. The sign is all that is looked at. -/
theorem IsPageChange.isRelative {change digits : List Char} {turn : Turn} (isChange : IsPageChange change turn digits) :
    SimpleAction.isRelative (String.ofList change) = !turn.sign.isEmpty := by
  obtain ⟨rfl, -, wide⟩ := isChange
  obtain ⟨-, noPlus, noMinus⟩ := not_mem_of_wide wide
  unfold SimpleAction.isRelative
  rw [String.toList_ofList]
  cases turn with
  | onward => rfl
  | back => rfl
  | straight =>
    cases digits with
    | nil => rfl
    | cons c rest =>
      have apart : c ≠ '+' ∧ c ≠ '-' := by
        constructor <;> rintro rfl <;> simp_all
      simp [Turn.sign, apart]

/-- A page change leads to the page that is meant if its digits can be read, and otherwise nowhere. Where it leads
nowhere, it does so from every page. -/
theorem IsPageChange.targetPage {change digits : List Char} {turn : Turn} (isChange : IsPageChange change turn digits)
    (trimmed : trimChars isBlank change = change) (current : Int) :
    SimpleAction.targetPage (String.ofList change) current =
      if IsNumeral digits then .ok (turn.target current (digitsNumber digits))
      else .error (.notANumeral (String.ofList change)) := by
  unfold SimpleAction.targetPage
  rw [isChange.isRelative, String.toList_ofList, isChange.readInteger? trimmed]
  by_cases numeral : IsNumeral digits
  · simp only [if_pos numeral]
    cases turn <;> simp [Turn.target, Turn.sign, Int.sub_eq_add_neg]
  · simp only [if_neg numeral]

/-- What is read from a line as a page change is one, without blanks at its ends. Only the tag for pages gives such an
action. -/
theorem isPageChange_of_ofChars? {line : List Char} {change : String}
    (read : ofChars? line = some (.changePage change)) :
    trimChars isBlank change.toList = change.toList ∧ ∃ turn digits, IsPageChange change.toList turn digits := by
  obtain ⟨⟨tag, value⟩, -, read⟩ := Option.bind_eq_some_iff.mp read
  obtain ⟨_, _, _, isSound⟩ := Action.exists_soundOfChars value
  unfold ofTag? at read
  dsimp only at read
  split at read
  case h_9 =>
    obtain ⟨-, read⟩ := Option.ite_none_left_eq_some.mp read
    obtain ⟨change, isChange, same⟩ := Option.map_eq_some_iff.mp read
    cases same
    rw [String.toList_ofList]
    exact isPageChange_of_pageChange? isChange
  all_goals simp [isSound, triggerOf] at read

end SimpleAction

namespace Action

/-- Every page change in an action that is read is a sign or none and digits in the wide sense. From every page it
leads to the page that is written, counted from the present one if it has a sign, exactly if its digits are decimal
and not too many. Otherwise it fails, from every page.

Proof: the action is one of the pieces that the line was cut into, and reading the piece decides that it has the form
of a page change. The page is found from the same text, by the sign in front and by what its digits are read as. -/
theorem pageChange_exact {line : String} {action : Action} (read : ofText? line = some action) {change : String}
    (member : .changePage change ∈ action.simpleParts) :
    ∃ turn digits, SimpleAction.IsPageChange change.toList turn digits ∧
      ∀ current, SimpleAction.targetPage change current =
        if IsNumeral digits then .ok (turn.target current (digitsNumber digits))
        else .error (.notANumeral change) := by
  obtain ⟨piece, isPart⟩ := exists_of_mem_simpleParts read member
  obtain ⟨trimmed, turn, digits, isChange⟩ := SimpleAction.isPageChange_of_ofChars? isPart
  refine ⟨turn, digits, isChange, fun current => ?_⟩
  have leads := isChange.targetPage trimmed current
  rwa [String.ofList_toList] at leads

/-- A page back in a branch leads from every page to the one before. -/
theorem pageChange_back :
    ofText? "[IF] {page} == 0 [THEN] [OPEN] main.yml [ELSE] [PAGE] -1" =
      some (conditional (.page "==" 0) "{page} == 0" [simple (.openMenu "main.yml")] [simple (.changePage "-1")]) ∧
    ∀ current, SimpleAction.targetPage "-1" current = .ok (current - 1) := by
  have read : ofText? "[IF] {page} == 0 [THEN] [OPEN] main.yml [ELSE] [PAGE] -1" =
      some (conditional (.page "==" 0) "{page} == 0" [simple (.openMenu "main.yml")] [simple (.changePage "-1")]) := rfl
  obtain ⟨turn, digits, ⟨written, -, wide⟩, leads⟩ := pageChange_exact read (List.mem_cons_of_mem _ List.mem_cons_self)
  refine ⟨read, fun current => ?_⟩
  have sign : turn = .back ∧ digits = ['1'] := by
    cases turn with
    | onward => cases written
    | back => exact ⟨rfl, (List.cons.inj written).2.symm⟩
    | straight =>
      have minus : '-' ∈ digits := by
        rw [← show "-1".toList = digits from written]
        exact List.mem_cons_self
      exact absurd minus (SimpleAction.not_mem_of_wide wide).2.2
  rw [leads current, sign.1, sign.2]
  rfl

/-- A raised digit is read as a page change, but it has no value as a decimal digit, so the change leads nowhere. -/
theorem pageChange_raised :
    ∃ change, ofText? "[PAGE] ²" = some (.simple (.changePage change)) ∧
      ∀ current, SimpleAction.targetPage change current = .error (.notANumeral change) :=
  ⟨"²", rfl, fun _ => rfl⟩

end Action

end ChestMenu
