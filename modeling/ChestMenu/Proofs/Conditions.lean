import ChestMenu.Condition
import ChestMenu.Proofs.Numerals

/-!
# What conditions say

A condition is written as its subject, an operator and an operand, with blanks between the parts and around them. Read
and evaluated it says of the actor what is written: the operator's relation between the level or the page and the
number, that the actor has the permission, or that the actor bears the name up to the case of letters.

The subject is found by its token wherever it stands, and all its tokens are taken out, so the operand must not have a
token in it. Otherwise a permission or a name may be any text without blanks at its ends: only the first operator is
taken out, and that is the one in front. A number is written in decimal, and a number that is too long for that is
read by nobody.
-/
namespace ChestMenu

open ChestMenu.Number ChestMenu.Text

/-- The parts of a condition as they are written. -/
def Condition.IsWritten (text : List Char) (subject : Subject) (operator operand : List Char) : Prop :=
  ∃ front gap gap' back, (∀ c ∈ front ++ gap ++ gap' ++ back, isBlank c = true) ∧ gap' ≠ [] ∧
    text = front ++ subject.token ++ gap ++ operator ++ gap' ++ operand ++ back

/-- What an operator says of two integers. -/
inductive Relation.Means : String → (Int → Int → Prop) → Prop
  | equal : Means "==" (· = ·)
  | equals : Means "equals" (· = ·)
  | unequal : Means "!=" (· ≠ ·)
  | greater : Means ">" (· > ·)
  | less : Means "<" (· < ·)
  | atLeast : Means ">=" (· ≥ ·)
  | atMost : Means "<=" (· ≤ ·)

/-- An operator stands for the relation that it means. There are seven operators, and two of them stand for the same
relation. -/
theorem Relation.Means.holds_iff {operator : String} {R : Int → Int → Prop} (means : Means operator R) :
    ∃ relation, ofText? operator = some relation ∧ ∀ a b, holds a b relation = true ↔ R a b := by
  cases means <;> exact ⟨_, rfl, by simp [holds]⟩

/-- What the operator of a condition is made of: it is a word, and no subject begins in it. -/
structure Condition.IsOperator (operator : List Char) : Prop where
  nonempty : operator ≠ []
  plain : ∀ c ∈ operator, isBlank c = false
  noBrace : '\x7b' ∉ operator

instance (operator : List Char) : Decidable (Condition.IsOperator operator) :=
  decidable_of_iff (operator ≠ [] ∧ (operator.all fun c => !isBlank c) = true ∧ '\x7b' ∉ operator) <| by
    simp only [List.all_eq_true, Bool.not_eq_true']
    exact ⟨fun ⟨nonempty, plain, noBrace⟩ => ⟨nonempty, plain, noBrace⟩, fun ⟨nonempty, plain, noBrace⟩ =>
      ⟨nonempty, plain, noBrace⟩⟩

/-- The operators of comparisons are words without blanks and without a subject in them, so a condition can be read
around them. -/
theorem Relation.Means.isOperator {operator : String} {R : Int → Int → Prop} (means : Means operator R) :
    Condition.IsOperator operator.toList := by
  cases means <;> decide

namespace Subject

/-- A subject is found in front of a text exactly if it stands in front or in the text. Tokens of subjects do not
overlap, since each is closed where it ends. -/
theorem token_infix_iff (other subject : Subject) (behind : List Char) :
    other.token <:+: subject.token ++ behind ↔ other = subject ∨ other.token <:+: behind := by
  by_cases same : other = subject
  · rw [same]
    exact iff_of_true (List.prefix_append _ _).isInfix (.inl rfl)
  · rw [or_iff_right same]
    -- No subject begins inside another one, and two that begin at the same place are the same.
    cases other <;> cases subject <;>
      first
      | exact absurd rfl same
      | simp [token, word, List.infix_cons_iff, List.cons_prefix_cons]

/-- No subject stands in a text. -/
def Absent (text : List Char) : Prop := ∀ subject : Subject, ¬subject.token <:+: text

instance (text : List Char) : Decidable (Absent text) :=
  decidable_of_iff ((all.all fun subject => !occursIn subject.token text) = true) <| by
    have complete (subject : Subject) : subject ∈ all := by cases subject <;> decide
    simp [Absent, ← occursIn_iff_infix, complete]

end Subject

namespace Condition

variable {text operator operand : List Char} {subject : Subject}

/-- In front of a text without subjects the subject is found. There is no other subject that could be found before
it. -/
theorem subject?_append (absent : Subject.Absent operand) : subject? (subject.token ++ operand) = some subject := by
  have found (other : Subject) : occursIn other.token (subject.token ++ operand) = (other == subject) := by
    rw [Bool.eq_iff_iff, occursIn_iff_infix, Subject.token_infix_iff, or_iff_left (absent other), beq_iff_eq]
  unfold subject?
  simp only [found]
  cases subject <;> rfl

/-- It is taken out and nothing else is. The operand has no token of a subject in it. -/
theorem replaceChars_token (absent : Subject.Absent operand) :
    replaceChars subject.token [] (subject.token ++ operand) = operand := by
  have nonempty : subject.token ≠ [] := List.cons_ne_nil _ _
  rw [replaceChars_append_self nonempty, replaceChars_of_not_infix nonempty (absent subject), List.nil_append]

/-- An operand is written without blanks at its ends, and no subject stands in it. -/
structure IsOperand (operand : List Char) : Prop where
  nonempty : operand ≠ []
  trimmed : trimChars isBlank operand = operand
  absent : Subject.Absent operand

/-- An operand does not end with a blank, and neither does a text that ends with it. -/
theorem IsOperand.getLast? (isOperand : IsOperand operand) (front : List Char) :
    ∀ c, (front ++ operand).getLast? = some c → isBlank c = false := by
  intro c last
  rw [List.getLast?_append_of_ne_nil _ isOperand.nonempty] at last
  exact getLast?_trimChars (isOperand.trimmed.symm ▸ last)

/-- An operand does not start with a blank. -/
theorem IsOperand.head? (isOperand : IsOperand operand) : ∀ c, operand.head? = some c → isBlank c = false :=
  fun _ first => head?_trimChars (isOperand.trimmed.symm ▸ first)

/-- Of a condition the subject is found, and the operator and the operand are left. Blanks around them have been taken
off. -/
theorem IsWritten.remainder (written : IsWritten text subject operator operand) (isOperator : IsOperator operator)
    (isOperand : IsOperand operand) :
    subject? (trimChars isBlank text) = some subject ∧
      ∃ gap, gap ≠ [] ∧ (∀ c ∈ gap, isBlank c = true) ∧
        trimChars isBlank (replaceChars subject.token [] (trimChars isBlank text)) = operator ++ gap ++ operand := by
  obtain ⟨front, gap, gap', back, blank, apart, rfl⟩ := written
  simp only [List.mem_append, or_imp, forall_and] at blank
  obtain ⟨⟨⟨blankFront, blankGap⟩, blankGap'⟩, blankBack⟩ := blank
  have noBrace {blanks : List Char} (blank : ∀ c ∈ blanks, isBlank c = true) : '\x7b' ∉ blanks := fun member =>
    absurd (blank _ member) (by decide)
  -- A subject could only begin in the operand, and there it does not.
  have absent : Subject.Absent (gap ++ operator ++ gap' ++ operand) := by
    intro other
    have nowhere : '\x7b' ∉ gap ++ operator ++ gap' := by
      simp only [List.mem_append, not_or]
      exact ⟨⟨noBrace blankGap, isOperator.noBrace⟩, noBrace blankGap'⟩
    exact mt (infix_append_iff_of_first nowhere).mp (isOperand.absent other)
  have trimmed : trimChars isBlank (front ++ subject.token ++ gap ++ operator ++ gap' ++ operand ++ back) =
      subject.token ++ (gap ++ operator ++ gap' ++ operand) := by
    rw [trimChars_append_right blankBack]
    simp only [List.append_assoc]
    rw [trimChars_append_left blankFront]
    refine trimChars_eq_self (fun c first => ?_) (fun c last => ?_)
    · cases first
      decide
    · exact isOperand.getLast? (subject.token ++ gap ++ operator ++ gap') c (by simpa using last)
  rw [trimmed, replaceChars_token absent]
  refine ⟨subject?_append absent, gap', apart, blankGap', ?_⟩
  rw [List.append_assoc, List.append_assoc, trimChars_append_left blankGap, ← List.append_assoc]
  refine trimChars_eq_self (fun c first => isOperator.plain c ?_) (isOperand.getLast? (operator ++ gap'))
  rw [List.append_assoc, List.head?_append_of_ne_nil _ isOperator.nonempty] at first
  exact List.mem_of_head? first

/-- The decimal form of an integer is an operand. It has neither blanks nor subjects in it. -/
theorem isOperand_integerText (n : Int) : IsOperand (integerText n).toList where
  nonempty := toList_integerText_ne_nil n
  trimmed := trimChars_of_plain fun _ member => isBlank_of_mem_integerText member
  absent subject inside := by
    have brace : '\x7b' ∈ (integerText n).toList := inside.subset List.mem_cons_self
    rcases of_mem_integerText brace with isMinus | isPlain
    · exact absurd isMinus (by decide)
    · exact absurd isPlain (by decide)

/-- In a comparison the operator is the first word that is left, and the operand is what follows. An operator is one
word, so the word ends where it does. -/
theorem IsWritten.firstWord? (written : IsWritten text subject operator operand) (isOperator : IsOperator operator)
    (isOperand : IsOperand operand) :
    ChestMenu.Text.firstWord? (trimChars isBlank (replaceChars subject.token [] (trimChars isBlank text))) =
      some (operator, operand) := by
  obtain ⟨-, gap, apart, blank, left⟩ := written.remainder isOperator isOperand
  rw [left, firstWord?_append isOperator.nonempty isOperator.plain apart blank isOperand.head?]

/-- The subjects that are compared with integers. -/
inductive Compares : Subject → (String → Int → Condition) → Prop
  | level : Compares .level .level
  | page : Compares .page .page

/-- A comparison with an integer is read as it is written. The operand is read as the integer of which it is the
decimal form. -/
theorem IsWritten.ofChars?_compares {build : String → Int → Condition} {n : Int} (compares : Compares subject build)
    (written : IsWritten text subject operator (integerText n).toList) (isOperator : IsOperator operator)
    (short : n.natAbs < Nat.pow 10 digitLimit) : ofChars? text = some (build (String.ofList operator) n) := by
  have isOperand := isOperand_integerText n
  have found := (written.remainder isOperator isOperand).1
  have cut := written.firstWord? isOperator isOperand
  have hasOperand : ¬(integerText n).toList.isEmpty = true := mt List.isEmpty_iff.mp isOperand.nonempty
  unfold ofChars?
  cases compares <;> simp only [found, cut, if_neg hasOperand, readInteger?_integerText short, Option.map_some]

/-- Behind the operator the operand is left, whatever stands in it. The operator is removed where it stands first, and
that is in front. -/
theorem trimChars_removeFirst {gap : List Char} (blank : ∀ c ∈ gap, isBlank c = true) (isOperand : IsOperand operand) :
    trimChars isBlank (removeFirst operator (operator ++ gap ++ operand)) = operand := by
  rw [removeFirst, List.append_assoc, cutAt?_append_self]
  exact (trimChars_append_left blank).trans isOperand.trimmed

/-- The subjects of which a text is said, each with its word in front of the text. -/
inductive Tells : Subject → String → (String → Condition) → Prop
  | permission : Tells .permission "has" .permission
  | name : Tells .name "equals" .name

/-- A condition on a permission or a name is read as it is written. The word for it comes first, and the operand is
what is wanted. -/
theorem IsWritten.ofChars?_tells {build : String → Condition} {word wanted : String} (tells : Tells subject word build)
    (written : IsWritten text subject word.toList wanted.toList) (isOperand : IsOperand wanted.toList) :
    ofChars? text = some (build wanted) := by
  have isOperator : IsOperator word.toList := by cases tells <;> decide
  obtain ⟨found, gap, -, blank, left⟩ := written.remainder isOperator isOperand
  unfold ofChars?
  cases tells <;> simp only [found, left, trimChars_removeFirst blank isOperand, String.ofList_toList]

/-- A text is read as a condition that can be evaluated and holds exactly if something is so. -/
def Says (text : List Char) (actor : Actor) (page? : Option Int) (so : Prop) : Prop :=
  ∃ condition holds, ofChars? text = some condition ∧ condition.evaluate actor page? = .ok holds ∧ (holds = true ↔ so)

end Condition

/-- A value is a text, by itself or as an object of a type of texts. -/
def Value.IsText (s : String) (v : Value) : Prop :=
  v = .text s ∨ ∃ className attributes manner, v = .record className (.text s) attributes manner

/-- What a text is kept under finds exactly the values that are this text. An object that extends the text is such a
value. -/
theorem Value.sameKey_text_iff {v : Value} {s : String} : v.sameKey (.text s) = true ↔ v.IsText s := by
  have noNumber : (text s).numeric? = none := rfl
  unfold IsText sameKey
  split
  case h_13 =>
    -- What is left is compared by its number, and a text has none.
    rw [noNumber]
    refine iff_of_false ?number ?text
    case number => split <;> simp_all
    case text => rintro (rfl | ⟨_, _, _, rfl⟩) <;> grind
  all_goals simp_all

/-- An actor has a permission that is among the actor's. Permissions are compared as keys are. -/
theorem Actor.hasPermission_iff {actor : Actor} {wanted : String} :
    actor.hasPermission wanted = true ↔ ∃ permission ∈ actor.permissions, permission.IsText wanted := by
  simp only [hasPermission, List.any_eq_true, Value.sameKey_text_iff]

namespace Condition

/-- Conditions say what is written. A comparison with a short number holds exactly if the level or the page and the
number are so related, and one with the page never holds without a page. A condition on a permission holds exactly if
it is among the actor's, and one on a name exactly if it is the actor's up to the case of letters.

Proof: a text that is so written falls into words, and its operator and its operand are what stands behind the subject
(`IsWritten.ofChars?_compares`, `IsWritten.ofChars?_tells`). What the condition then says is evaluated with one lemma
for the relation that each operator stands for. -/
theorem says_what_is_written (text : List Char) (actor : Actor) (page? : Option Int) :
    (∀ operator R n level, Relation.Means operator R → n.natAbs < Nat.pow 10 digitLimit →
      IsWritten text .level operator.toList (integerText n).toList → actor.level.toInteger = .ok level →
        Says text actor page? (R level n)) ∧
    (∀ operator R n, Relation.Means operator R → n.natAbs < Nat.pow 10 digitLimit →
      IsWritten text .page operator.toList (integerText n).toList →
        Says text actor page? (∃ page, page? = some page ∧ R page n)) ∧
    (∀ wanted : String, IsOperand wanted.toList → IsWritten text .permission "has".toList wanted.toList →
      Says text actor page? (∃ permission ∈ actor.permissions, permission.IsText wanted)) ∧
    ∀ wanted name : String, IsOperand wanted.toList → IsWritten text .name "equals".toList wanted.toList →
      actor.name.plain = .text name → Says text actor page? (lower name = lower wanted) := by
  refine ⟨?level, ?page, ?permission, ?name⟩
  case level =>
    intro operator R n level means short written known
    obtain ⟨relation, isRelation, holds⟩ := means.holds_iff
    have read := written.ofChars?_compares .level means.isOperator short
    rw [String.ofList_toList] at read
    refine ⟨_, relation.holds level n, read, ?_, holds level n⟩
    simp only [evaluate, isRelation, known]
    rfl
  case page =>
    intro operator R n means short written
    obtain ⟨relation, isRelation, holds⟩ := means.holds_iff
    have read := written.ofChars?_compares .page means.isOperator short
    rw [String.ofList_toList] at read
    refine ⟨_, page?.any fun page => relation.holds page n, read, ?_, ?_⟩
    · simp only [evaluate, isRelation, Option.any_some]
    · simp only [Option.any_eq_true, holds]
  case permission =>
    intro wanted isOperand written
    exact ⟨_, _, written.ofChars?_tells .permission isOperand, rfl, Actor.hasPermission_iff⟩
  case name =>
    intro wanted name isOperand written known
    refine ⟨_, lower name == lower wanted, written.ofChars?_tells .name isOperand, ?_, beq_iff_eq⟩
    simp only [evaluate, known]

/-- A guest with operators in the name and in a permission. -/
def equalGuest : Actor where
  id := .text "bob"
  name := .text "Bob equals Bob"
  level := .int 30
  permissions := [.text "has.has", .text "shop"]

/-- Of the guest, who has the level thirty, two permissions and a name with an operator in it, conditions say the
level, the page, the permission and the name as they are. -/
theorem says_of_equalGuest :
    Says "{level} >=\t-5 ".toList equalGuest none ((30 : Int) ≥ -5) ∧
    Says "  {page}equals 2".toList equalGuest (some 1) (∃ page : Int, some 1 = some page ∧ page = 2) ∧
    Says "{permission} has has.has".toList equalGuest none
      (∃ permission ∈ equalGuest.permissions, permission.IsText "has.has") ∧
    Says "{name} equals BOB EQUALS BOB".toList equalGuest none (lower "Bob equals Bob" = lower "BOB EQUALS BOB") := by
  refine ⟨?level, ?page, ?permission, ?name⟩
  case level =>
    exact (says_what_is_written _ equalGuest none).1 ">=" _ (-5) 30 .atLeast (by decide +kernel)
      ⟨[], [' '], ['\t'], [' '], List.all_eq_true.mp (by decide), by decide, by decide⟩ rfl
  case page =>
    exact (says_what_is_written _ equalGuest (some 1)).2.1 "equals" _ 2 .equals (by decide +kernel)
      ⟨[' ', ' '], [], [' '], [], List.all_eq_true.mp (by decide), by decide, by decide⟩
  case permission =>
    exact (says_what_is_written _ equalGuest none).2.2.1 "has.has" ⟨by decide, by decide, by decide⟩
      ⟨[], [' '], [' '], [], List.all_eq_true.mp (by decide), by decide, by decide⟩
  case name =>
    exact (says_what_is_written _ equalGuest none).2.2.2 "BOB EQUALS BOB" "Bob equals Bob"
      ⟨by decide, by decide, by decide⟩
      ⟨[], [' '], [' '], [], List.all_eq_true.mp (by decide), by decide, by decide⟩ rfl

end Condition

end ChestMenu
