import ChestMenu.Placeholder.Token

/-!
# What a comparison says of the value of a token

A rule such as `{rank} == vip` is read after the token was replaced: the text is cut at the first sign of comparison
in it, and its two sides are compared as words. A value without such a sign is therefore compared as it is, whatever
else it contains, and the words for truth values mean nothing in it.

A value with a sign of its own is cut there, and then its own sign decides: the side in front of it has no sign, and
the side behind it has that of the rule, so the two differ. The rule says visible if the value's sign asks for a
difference and hidden if it asks for the same, whatever the rule itself asks for.
-/
namespace ChestMenu.Placeholder

open ChestMenu.Text

/-- A name as a token. -/
def inBraces (name : String) : String :=
  String.ofList ('\x7b' :: name.toList ++ ['\x7d'])

/-- What a comparison asks for. -/
inductive Comparison where
  | equal
  | unequal
deriving DecidableEq

namespace Comparison

/-- How a comparison is written. -/
def sign : Comparison → List Char
  | equal => ['=', '=']
  | unequal => ['!', '=']

/-- What a comparison says of sides that are the same, or not. -/
def verdict : Comparison → Bool → Bool
  | equal, same => same
  | unequal, same => !same

/-- The first comparison that is written in a text. -/
def first? : List Char → Option Comparison
  | [] => none
  | c :: cs =>
    if equal.sign <+: c :: cs then some equal
    else if unequal.sign <+: c :: cs then some unequal
    else first? cs

/-- What a rule has behind its token. -/
def against (comparison : Comparison) (literal : String) : String :=
  String.ofList (' ' :: comparison.sign ++ ' ' :: literal.toList)

/-- The rule that compares a token with a literal text. -/
def rule (comparison : Comparison) (name literal : String) : String :=
  inBraces name ++ comparison.against literal

end Comparison

/-- Two texts are the same word: they differ in nothing but case and blanks around them. -/
def SameWord (left right : List Char) : Prop :=
  lowerChars (trimChars isBlank left) = lowerChars (trimChars isBlank right)

instance (left right : List Char) : Decidable (SameWord left right) :=
  inferInstanceAs (Decidable (_ = _))

namespace Comparison

variable {comparison other : Comparison} {cs ds before behind : List Char} {c : Char}

/-- No sign of comparison is empty, so a text can be cut at it. -/
theorem sign_ne_nil (comparison : Comparison) : comparison.sign ≠ [] := by
  cases comparison <;> exact List.cons_ne_nil _ _

/-- Blanks are in no sign. A sign is therefore not broken by trimming. -/
theorem not_mem_sign_of_isBlank (blank : isBlank c = true) (comparison : Comparison) : c ∉ comparison.sign := by
  intro member
  have marks : comparison.sign.all (!isBlank ·) = true := by cases comparison <;> decide
  have mark := List.all_eq_true.mp marks c member
  rw [blank] at mark
  cases mark

/-- Trimming a text around a sign drops blanks in front and behind. Nothing behind a sign is taken for a blank in
front of it. -/
theorem trimChars_around_sign (comparison : Comparison) (front back : List Char) :
    ∃ blanks start kept blanks', front = blanks ++ start ∧ back = kept ++ blanks' ∧ (∀ c ∈ blanks, isBlank c = true) ∧
      (∀ c ∈ blanks', isBlank c = true) ∧
      trimChars isBlank (front ++ comparison.sign ++ back) = start ++ comparison.sign ++ kept := by
  have ends : ∀ c ∈ comparison.sign, isBlank c = false := fun c member =>
    Bool.eq_false_iff.mpr fun blank => not_mem_sign_of_isBlank blank comparison member
  exact trimChars_around comparison.sign_ne_nil (fun c isFirst => ends c (List.mem_of_head? isFirst))
    (fun c isLast => ends c (List.mem_of_getLast? isLast)) front back

/-- A text starts with one sign at most. The two signs differ in their first characters. -/
theorem sign_unique (starts : comparison.sign <+: cs) (starts' : other.sign <+: cs) : comparison = other := by
  have same : comparison.sign = other.sign :=
    (List.prefix_of_prefix_length_le starts starts' (by cases comparison <;> cases other <;> decide)).eq_of_length
      (by cases comparison <;> cases other <;> rfl)
  cases comparison <;> cases other <;> first | rfl | cases same

/-- A text that starts with a sign has it for its first. By `sign_unique` there is no other that could come first. -/
theorem first?_of_starts (starts : comparison.sign <+: c :: cs) : first? (c :: cs) = some comparison := by
  unfold first?
  split
  · rename_i isEqual
    rw [sign_unique starts isEqual]
  · split
    · rename_i isUnequal
      rw [sign_unique starts isUnequal]
    · cases comparison <;> contradiction

/-- A text that starts with no sign has the first sign of what follows its first character. -/
theorem first?_cons (plain : ∀ comparison : Comparison, ¬comparison.sign <+: c :: cs) :
    first? (c :: cs) = first? cs := by
  rw [first?, if_neg (plain equal), if_neg (plain unequal)]

/-- No sign goes across a character that is in none. So the signs in front of such a character and those behind it can
be looked at apart. -/
theorem first?_append_cons (absent : ∀ comparison : Comparison, c ∉ comparison.sign) :
    first? (cs ++ c :: ds) = (first? cs).or (first? ds) := by
  induction cs with
  | nil =>
    refine first?_cons fun comparison starts => comparison.sign_ne_nil ?_
    have front : comparison.sign <+: [] ++ c :: ds := starts
    exact List.prefix_nil.mp ((prefix_append_cons_iff (absent comparison)).mp front)
  | cons d cs ih =>
    have starts (comparison : Comparison) : comparison.sign <+: d :: (cs ++ c :: ds) ↔ comparison.sign <+: d :: cs := by
      rw [← List.cons_append, prefix_append_cons_iff (absent comparison)]
    by_cases found : ∃ comparison : Comparison, comparison.sign <+: d :: cs
    · obtain ⟨comparison, first⟩ := found
      rw [first?_of_starts first, List.cons_append, first?_of_starts ((starts comparison).mpr first), Option.some_or]
    · have plain := not_exists.mp found
      have plain' := fun comparison => mt (starts comparison).mp (plain comparison)
      rw [first?_cons plain, List.cons_append, first?_cons plain', ih]

/-- Blanks around a text make no difference to its first sign. No sign goes across a blank. -/
theorem first?_blanks {blanks blanks' : List Char} (blank : ∀ c ∈ blanks, isBlank c = true)
    (blank' : ∀ c ∈ blanks', isBlank c = true) (cs : List Char) : first? (blanks ++ cs ++ blanks') = first? cs := by
  have front : ∀ {blanks : List Char}, (∀ c ∈ blanks, isBlank c = true) → ∀ cs, first? (blanks ++ cs) = first? cs := by
    intro blanks blank cs
    induction blanks with
    | nil => rfl
    | cons b blanks ih =>
      obtain ⟨isBlank, blank⟩ := List.forall_mem_cons.mp blank
      have passed : first? ([] ++ b :: (blanks ++ cs)) = first? (blanks ++ cs) :=
        first?_append_cons (not_mem_sign_of_isBlank isBlank)
      exact passed.trans (ih blank)
  rw [List.append_assoc, front blank]
  cases blanks' with
  | nil => rw [List.append_nil]
  | cons b blanks' =>
    obtain ⟨isBlank, blank'⟩ := List.forall_mem_cons.mp blank'
    have nothing : first? blanks' = none := by
      have alone := front blank' []
      rwa [List.append_nil] at alone
    rw [first?_append_cons (not_mem_sign_of_isBlank isBlank), nothing, Option.or_none]

/-- A text without signs has no first one. The induction is on the text. -/
theorem first?_eq_none_iff : first? cs = none ↔ ∀ comparison : Comparison, ¬comparison.sign <:+: cs := by
  induction cs with
  | nil => exact iff_of_true rfl fun comparison inside => comparison.sign_ne_nil (List.infix_nil.mp inside)
  | cons c cs ih =>
    by_cases found : ∃ comparison : Comparison, comparison.sign <+: c :: cs
    · obtain ⟨comparison, starts⟩ := found
      rw [first?_of_starts starts]
      exact iff_of_false (Option.some_ne_none _) fun plain => plain comparison starts.isInfix
    · have plain := not_exists.mp found
      rw [first?_cons plain, ih]
      exact forall_congr' fun comparison => by rw [List.infix_cons_iff, or_iff_right (plain comparison)]

/-- A text is cut at its first sign, and every other sign stands further behind. This is what the order in which signs
are tried comes to. -/
theorem cutAt?_of_first? (found : first? cs = some comparison) :
    ∃ before behind, cutAt? comparison.sign cs = some (before, behind) ∧ first? before = none ∧
      ∀ other front back, cutAt? other.sign cs = some (front, back) → other ≠ comparison →
        before.length < front.length := by
  induction cs with
  | nil => cases found
  | cons c cs ih =>
    by_cases written : ∃ first : Comparison, first.sign <+: c :: cs
    · obtain ⟨first, starts⟩ := written
      cases (first?_of_starts starts).symm.trans found
      obtain ⟨behind, joined⟩ := starts
      refine ⟨[], behind, by rw [← joined, cutAt?_append_self], rfl, fun other front back cut apart => ?_⟩
      cases front with
      | cons d front => exact Nat.zero_lt_succ _
      | nil =>
        have starts' : other.sign <+: c :: cs := ⟨back, (eq_of_cutAt? cut).symm⟩
        exact absurd (sign_unique starts' ⟨behind, joined⟩) apart
    · have plain := not_exists.mp written
      rw [first?_cons plain] at found
      obtain ⟨before, behind, cut, clear, later⟩ := ih found
      refine ⟨c :: before, behind, by rw [cutAt?_cons (plain comparison), cut]; rfl, ?_, fun other front back => ?_⟩
      · have part : c :: before <+: c :: cs := by
          rw [eq_of_cutAt? cut, List.append_assoc]
          exact List.prefix_append (c :: before) _
        rw [first?_cons fun comparison starts => plain comparison (starts.trans part), clear]
      · rw [cutAt?_cons (plain other)]
        intro cut' apart
        obtain ⟨⟨front', back'⟩, found', same⟩ := Option.map_eq_some_iff.mp cut'
        cases same
        exact Nat.succ_lt_succ (later other front' back found' apart)

/-- A text with a sign in it is no word for a truth value. Such words have no equals sign in them, and every sign has
one. -/
theorem lowerChars_ne_of_first? (found : first? cs = some comparison) (word : List Char) (plain : '=' ∉ word) :
    lowerChars cs ≠ word := by
  rintro rfl
  obtain ⟨before, behind, cut, -⟩ := cutAt?_of_first? found
  have inside : ['='] <:+: cs := by
    rw [eq_of_cutAt? cut]
    cases comparison
    · exact ⟨before, '=' :: behind, by simp [sign]⟩
    · exact ⟨before ++ ['!'], behind, by simp [sign]⟩
  have marks : ∀ s ∈ ['='], isSign s = true := List.forall_mem_singleton.mpr (by decide)
  exact plain (((infix_lowerChars marks).mpr inside).subset List.mem_cons_self)

/-- A trimmed text with a sign in it is cut at the first, and its sides are compared as words. What stands behind
other signs is part of the side behind. -/
theorem saysVisible_of_first? (found : first? cs = some comparison)
    (cut : cutAt? comparison.sign cs = some (before, behind)) :
    saysVisible (trimChars isBlank cs) = comparison.verdict (decide (SameWord before behind)) := by
  obtain ⟨blanks, start, kept, blanks', rfl, rfl, blank, blank', trimmed⟩ :=
    comparison.trimChars_around_sign before behind
  have parts : cs = blanks ++ (start ++ comparison.sign ++ kept) ++ blanks' := by
    rw [eq_of_cutAt? cut]
    simp only [List.append_assoc]
  have cut' : cutAt? comparison.sign (start ++ comparison.sign ++ kept) = some (start, kept) := by
    rw [parts] at cut
    exact cutAt?_of_append_left (cutAt?_of_append_right (by rw [List.append_assoc] at cut ⊢; exact cut))
  have found' : first? (start ++ comparison.sign ++ kept) = some comparison := by
    rw [parts, first?_blanks blank blank'] at found
    exact found
  obtain ⟨front, back, first, -, later⟩ := cutAt?_of_first? found'
  cases cut'.symm.trans first
  have words : decide (SameWord (blanks ++ start) (kept ++ blanks')) = decide (SameWord start kept) := by
    rw [decide_eq_decide, SameWord, trimChars_append_left blank, trimChars_append_right blank', SameWord]
  rw [eq_of_cutAt? cut, trimmed, words, saysVisible]
  have noTrue : String.ofList (lowerChars (start ++ comparison.sign ++ kept)) ≠ "true" := fun same =>
    lowerChars_ne_of_first? found' "true".toList (by decide) (by rw [← same, String.toList_ofList])
  have noFalse : String.ofList (lowerChars (start ++ comparison.sign ++ kept)) ≠ "false" := fun same =>
    lowerChars_ne_of_first? found' "false".toList (by decide) (by rw [← same, String.toList_ofList])
  have equalSign : "==".toList = equal.sign := rfl
  have unequalSign : "!=".toList = unequal.sign := rfl
  rw [if_neg noTrue, if_neg noFalse, equalSign, unequalSign]
  have compared : (lowerChars (trimChars isBlank start) == lowerChars (trimChars isBlank kept)) =
      decide (SameWord start kept) := by
    rw [Bool.eq_iff_iff, beq_iff_eq, decide_eq_true_eq, SameWord]
  cases comparison with
  | equal =>
    rw [cut']
    rcases second : cutAt? unequal.sign (start ++ equal.sign ++ kept) with _ | ⟨left, right⟩
    · exact compared
    · exact (if_pos (later unequal left right second (by decide))).trans compared
  | unequal =>
    rw [cut']
    rcases second : cutAt? equal.sign (start ++ unequal.sign ++ kept) with _ | ⟨left, right⟩
    · exact congrArg (!·) compared
    · exact (if_neg (Nat.lt_asymm (later equal left right second (by decide)))).trans (congrArg (!·) compared)

/-- A value without signs is what is compared. The sign of the rule is then the first. -/
theorem cut_of_plain {value : List Char} (plain : first? value = none) (comparison : Comparison)
    (literal : List Char) :
    first? (value ++ (' ' :: comparison.sign ++ ' ' :: literal)) = some comparison ∧
      cutAt? comparison.sign (value ++ (' ' :: comparison.sign ++ ' ' :: literal)) =
        some (value ++ [' '], ' ' :: literal) := by
  have space (other : Comparison) : ' ' ∉ other.sign := not_mem_sign_of_isBlank (by decide) other
  have starts : comparison.sign <+: comparison.sign ++ ' ' :: literal := List.prefix_append _ _
  have uncut : cutAt? comparison.sign value = none := by
    have absent := first?_eq_none_iff.mp plain comparison
    rwa [← occursIn_iff_infix, occursIn, Option.not_isSome_iff_eq_none] at absent
  constructor
  · rw [List.cons_append, first?_append_cons space, plain, Option.none_or]
    cases comparison <;> exact first?_of_starts starts
  · rw [List.cons_append, cutAt?_append_cons_of_none uncut (space comparison) comparison.sign_ne_nil,
      cutAt?_append_self]
    rfl

/-- A value with a sign is cut at its own, and what the rule has stands in the side behind it. The sign of the rule is
not looked at any more. -/
theorem cut_of_signed {value : List Char} (signed : first? value = some other) (comparison : Comparison)
    (literal : List Char) :
    first? (value ++ (' ' :: comparison.sign ++ ' ' :: literal)) = some other ∧
      ∃ before behind, cutAt? other.sign (value ++ (' ' :: comparison.sign ++ ' ' :: literal)) = some (before, behind) ∧
        first? before = none ∧ comparison.sign <:+: behind := by
  have space (other : Comparison) : ' ' ∉ other.sign := not_mem_sign_of_isBlank (by decide) other
  obtain ⟨before, behind, cut, clear, -⟩ := cutAt?_of_first? signed
  refine ⟨?_, before, behind ++ ' ' :: (comparison.sign ++ ' ' :: literal), ?_, clear, ?_⟩
  · rw [List.cons_append, first?_append_cons space, signed, Option.some_or]
  · exact cutAt?_append_cons cut (space other) other.sign_ne_nil
  · exact ⟨behind ++ [' '], ' ' :: literal, by simp⟩

/-- A text without signs is no word with one. Trimming and lower case leave signs in place. -/
theorem not_sameWord (plain : first? before = none) (signed : comparison.sign <:+: behind) :
    ¬SameWord before behind := by
  intro same
  have marks : ∀ s ∈ comparison.sign, isSign s = true :=
    List.all_eq_true.mp (by cases comparison <;> decide)
  obtain ⟨front, back, rfl⟩ := signed
  obtain ⟨-, start, kept, -, -, -, -, -, trimmed⟩ := comparison.trimChars_around_sign front back
  have inside : comparison.sign <:+: lowerChars (trimChars isBlank (front ++ comparison.sign ++ back)) := by
    rw [infix_lowerChars marks, trimmed]
    exact ⟨start, kept, rfl⟩
  rw [← same, infix_lowerChars marks] at inside
  exact first?_eq_none_iff.mp plain comparison (inside.trans (infix_trimChars isBlank before))

end Comparison

/-- A text behind without a closing brace is left alone by the replacing of a token. A token ends with such a brace,
so none reaches into it. -/
theorem replaceToken_append {text behind name : String} (value : Value) (plain : '\x7d' ∉ behind.toList) :
    replaceToken (text ++ behind) (inBraces name) value =
      (replaceToken text (inBraces name) value).map (· ++ behind) := by
  have token : (inBraces name).toList = ('\x7b' :: name.toList) ++ ['\x7d'] := String.toList_ofList
  unfold replaceToken
  split
  · rw [replaceAll, replaceAll, token, String.toList_append, replaceChars_append_of_last plain, String.ofList_append,
      String.ofList_toList]
    rfl
  · have occurs : occursIn (inBraces name).toList (text ++ behind).toList =
        occursIn (inBraces name).toList text.toList := by
      rw [Bool.eq_iff_iff, occursIn_iff_infix, occursIn_iff_infix, token, String.toList_append, infix_append_iff plain]
    rw [occurs]
    split <;> rfl

/-- A text behind without a closing brace is left alone by the replacing of all tokens of a table. The induction is on
the table. -/
theorem apply_append {table : Table} (keys : ∀ pair ∈ table, ∃ name, pair.1 = inBraces name) {text behind : String}
    (nonempty : text ≠ "") (plain : '\x7d' ∉ behind.toList) :
    apply table (text ++ behind) = (apply table text).map (· ++ behind) := by
  have each (text : String) : table.foldlM (fun text pair => replaceToken text pair.1 pair.2) (text ++ behind) =
      (table.foldlM (fun text pair => replaceToken text pair.1 pair.2) text).map (· ++ behind) := by
    induction table generalizing text with
    | nil => rfl
    | cons pair table ih =>
      obtain ⟨⟨name, isToken⟩, others⟩ := List.forall_mem_cons.mp keys
      rw [List.foldlM_cons, List.foldlM_cons, isToken, replaceToken_append pair.2 plain]
      cases replaceToken text (inBraces name) pair.2 with
      | error cause => rfl
      | ok replaced => exact ih others replaced
  unfold apply
  rw [if_neg (by simpa using fun empty _ => nonempty empty), if_neg (by simpa using nonempty)]
  exact each text

variable {table : Table} {name value literal : String} {comparison : Comparison}

/-- A rule is read with what its token stands for. The sign and the literal have no token in them. -/
theorem isVisibleIf_rule (keys : ∀ pair ∈ table, ∃ name, pair.1 = inBraces name)
    (resolved : apply table (inBraces name) = .ok value) (plain : '\x7d' ∉ literal.toList) :
    isVisibleIf table (some (comparison.rule name literal)) =
      .ok (saysVisible (trimChars isBlank (value.toList ++ (' ' :: comparison.sign ++ ' ' :: literal.toList)))) := by
  have closed : '\x7d' ∉ (comparison.against literal).toList := by
    rw [Comparison.against, String.toList_ofList]
    cases comparison <;> simpa [Comparison.sign] using plain
  have nonempty : inBraces name ≠ "" := fun empty => by
    have noChars := congrArg String.toList empty
    rw [inBraces, String.toList_ofList] at noChars
    cases noChars
  have written : (trim (comparison.rule name literal)).isEmpty = false := by
    obtain ⟨-, start, kept, -, -, -, -, -, trimmed⟩ := comparison.trimChars_around_sign
      ('\x7b' :: name.toList ++ ['\x7d', ' ']) (' ' :: literal.toList)
    have chars : (comparison.rule name literal).toList =
        ('\x7b' :: name.toList ++ ['\x7d', ' ']) ++ comparison.sign ++ ' ' :: literal.toList := by
      simp [Comparison.rule, Comparison.against, inBraces]
    have kept : trimChars isBlank (comparison.rule name literal).toList ≠ [] := by
      rw [chars, trimmed]
      simp [comparison.sign_ne_nil]
    simpa [trim] using kept
  have replaced : apply table (comparison.rule name literal) = .ok (value ++ comparison.against literal) := by
    rw [Comparison.rule, apply_append keys nonempty closed, resolved]
    rfl
  unfold isVisibleIf
  dsimp only
  rw [if_neg (by rw [written]; exact Bool.false_ne_true), replaced]
  change Except.ok (saysVisible (trimChars isBlank (value ++ comparison.against literal).toList)) = _
  rw [String.toList_append, Comparison.against, String.toList_ofList]

/-- A rule that compares a token with a literal text says of the two what the first sign of comparison in the value
says, or what its own does if the value has none. What has a sign is another word than the literal. This is the whole
of what a rule can say, with nothing left out. -/
theorem isVisibleIf_rule_of_first? (comparison : Comparison) (keys : ∀ pair ∈ table, ∃ name, pair.1 = inBraces name)
    (resolved : apply table (inBraces name) = .ok value) (closed : '\x7d' ∉ literal.toList)
    (plain : Comparison.first? literal.toList = none) :
    isVisibleIf table (some (comparison.rule name literal)) =
        .ok (((Comparison.first? value.toList).getD comparison).verdict
          (decide (SameWord value.toList literal.toList))) ∧
      (SameWord value.toList literal.toList → Comparison.first? value.toList = none) := by
  rw [isVisibleIf_rule keys resolved closed]
  cases signed : Comparison.first? value.toList with
  | none =>
    obtain ⟨found, cut⟩ := Comparison.cut_of_plain signed comparison literal.toList
    have same : SameWord (value.toList ++ [' ']) (' ' :: literal.toList) ↔
        SameWord value.toList literal.toList := by
      have blank : trimChars isBlank ([' '] ++ literal.toList) = trimChars isBlank literal.toList :=
        trimChars_append_left isBlank_of_mem_space
      rw [SameWord, SameWord, trimChars_append_right isBlank_of_mem_space, ← blank]
      rfl
    rw [Comparison.saysVisible_of_first? found cut, decide_eq_decide.mpr same]
    exact ⟨rfl, fun _ => rfl⟩
  | some first =>
    obtain ⟨found, before, behind, cut, clear, inside⟩ :=
      Comparison.cut_of_signed signed comparison literal.toList
    obtain ⟨front, back, own, -⟩ := Comparison.cutAt?_of_first? signed
    have marked : first.sign <:+: value.toList := ⟨front, back, (eq_of_cutAt? own).symm⟩
    have apart : ¬SameWord value.toList literal.toList := fun same =>
      Comparison.not_sameWord plain marked same.symm
    rw [Comparison.saysVisible_of_first? found cut, decide_eq_false (Comparison.not_sameWord clear inside),
      decide_eq_false apart]
    exact ⟨rfl, fun same => absurd same apart⟩

/-- A rule that compares a token with a literal text compares what the token stands for with it, as words, unless the
value has a sign of comparison of its own and the first one is not that of the rule. Such a value is another word than
the literal, and the rule still says what the value's sign says of that.

Proof: the text that is compared is the value with the sign and the literal behind it, since the value takes the place
of the token alone. Its first sign is that of the rule if the value has none, and otherwise the value's own, and
`isVisibleIf_rule_of_first?` gives the answer for each. A value with a sign in it cannot be the same word as a literal
without one. -/
theorem visible_of_rule (keys : ∀ pair ∈ table, ∃ name, pair.1 = inBraces name)
    (resolved : apply table (inBraces name) = .ok value) (closed : '\x7d' ∉ literal.toList)
    (plain : ∀ comparison : Comparison, ¬comparison.sign <:+: literal.toList) :
    (Comparison.first? value.toList ≠ some .unequal →
        isVisibleIf table (some (Comparison.equal.rule name literal)) =
          .ok (decide (SameWord value.toList literal.toList))) ∧
      (Comparison.first? value.toList ≠ some .equal →
        isVisibleIf table (some (Comparison.unequal.rule name literal)) =
          .ok (!decide (SameWord value.toList literal.toList))) ∧
      (Comparison.first? value.toList = some .unequal →
        ¬SameWord value.toList literal.toList ∧
          isVisibleIf table (some (Comparison.equal.rule name literal)) = .ok true) ∧
      (Comparison.first? value.toList = some .equal →
        ¬SameWord value.toList literal.toList ∧
          isVisibleIf table (some (Comparison.unequal.rule name literal)) = .ok false) := by
  have noSign := Comparison.first?_eq_none_iff.mpr plain
  obtain ⟨ifEqual, same⟩ := isVisibleIf_rule_of_first? .equal keys resolved closed noSign
  obtain ⟨ifUnequal, -⟩ := isVisibleIf_rule_of_first? .unequal keys resolved closed noSign
  rcases signed : Comparison.first? value.toList with _ | first
  · rw [signed] at ifEqual ifUnequal
    exact ⟨fun _ => ifEqual, fun _ => ifUnequal, nofun, nofun⟩
  · have apart : ¬SameWord value.toList literal.toList := fun isSame =>
      Option.some_ne_none first (signed.symm.trans (same isSame))
    rw [signed, decide_eq_false apart] at ifEqual ifUnequal
    rw [decide_eq_false apart]
    cases first with
    | equal => exact ⟨fun _ => ifEqual, fun own => absurd rfl own, nofun, fun _ => ⟨apart, ifUnequal⟩⟩
    | unequal => exact ⟨fun own => absurd rfl own, fun _ => ifUnequal, fun _ => ⟨apart, ifEqual⟩, nofun⟩

/-- A table of one token puts its value for the token, and nothing else stands in the text. -/
theorem apply_inBraces (name value : String) : apply [(inBraces name, .text value)] (inBraces name) = .ok value := by
  have token : (inBraces name).toList = '\x7b' :: name.toList ++ ['\x7d'] := String.toList_ofList
  have nonempty : (inBraces name).toList ≠ [] := by simp [token]
  have whole : replaceAll (inBraces name) value (inBraces name) = value := by
    have replaced : replaceChars (inBraces name).toList value.toList ((inBraces name).toList ++ []) =
        value.toList ++ replaceChars (inBraces name).toList value.toList [] := replaceChars_append_self nonempty
    rw [List.append_nil, replaceChars_nil nonempty, List.append_nil] at replaced
    rw [replaceAll, replaced, String.ofList_toList]
  have present : (inBraces name).isEmpty = false := by
    simpa using fun empty => nonempty (by rw [empty]; rfl)
  rw [apply, if_neg (by rw [present]; exact Bool.false_ne_true)]
  change Except.ok (replaceAll (inBraces name) value (inBraces name)) = _
  rw [whole]

/-- A rank in capitals with blanks around it is the rank of the rule, and another rank is not. -/
theorem visible_rank :
    isVisibleIf [(inBraces "rank", .text " VIP ")] (some "\x7brank\x7d == vip") = .ok true ∧
      isVisibleIf [(inBraces "rank", .text " VIP ")] (some "\x7brank\x7d != vip") = .ok false := by
  have keys : ∀ pair ∈ [(inBraces "rank", Value.text " VIP ")], ∃ name, pair.1 = inBraces name :=
    fun pair member => ⟨"rank", by rw [List.mem_singleton.mp member]⟩
  have plain : ∀ comparison : Comparison, ¬comparison.sign <:+: "vip".toList :=
    Comparison.first?_eq_none_iff.mp (by decide)
  have same : SameWord " VIP ".toList "vip".toList := by decide
  obtain ⟨ifEqual, ifUnequal, -⟩ := visible_of_rule keys (apply_inBraces "rank" " VIP ") (by decide) plain
  have isEqual := ifEqual (by decide)
  have isUnequal := ifUnequal (by decide)
  rw [decide_eq_true same] at isEqual isUnequal
  exact ⟨isEqual, isUnequal⟩

/-- A rank that says of itself what it differs from passes for the rank of the rule, though it is another word.
Likewise one that says what it equals is said not to differ. -/
theorem visible_rank_signed :
    isVisibleIf [(inBraces "rank", .text "a != b")] (some "\x7brank\x7d == vip") = .ok true ∧
      isVisibleIf [(inBraces "rank", .text "a == b")] (some "\x7brank\x7d != vip") = .ok false ∧
      ¬SameWord "a != b".toList "vip".toList ∧ ¬SameWord "a == b".toList "vip".toList :=
  ⟨rfl, rfl, by decide, by decide⟩

end ChestMenu.Placeholder
