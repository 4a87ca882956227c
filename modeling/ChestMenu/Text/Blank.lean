/-!
# Blank characters, and the cuts that are made at them

A text is trimmed by dropping the blanks at both its ends, and it falls into words, the maximal runs
of characters that are not blank.

Every function is given on lists of characters, where it is a recursion on the list, and again on
strings. The lemmas say what the cuts keep: a trimmed text starts and ends with no blank, and
trimming a second time changes nothing.
-/
namespace ChestMenu.Text

/-- A blank is a control that moves the writing position, one of the four information separators,
or a space of any width. The zero-width space and the byte order mark are not blank. -/
def isBlank (c : Char) : Bool :=
  let code := c.toNat
  (0x09 ≤ code && code ≤ 0x0D) || (0x1C ≤ code && code ≤ 0x20) || code == 0x85 || code == 0xA0 ||
    code == 0x1680 || (0x2000 ≤ code && code ≤ 0x200A) || code == 0x2028 || code == 0x2029 ||
    code == 0x202F || code == 0x205F || code == 0x3000

/-- A space is blank. -/
theorem isBlank_of_mem_space : ∀ c ∈ [' '], isBlank c = true :=
  List.forall_mem_singleton.mpr (by decide)

/-- Drops the characters with property `p` from both ends. -/
def trimChars (p : Char → Bool) (cs : List Char) : List Char :=
  ((cs.dropWhile p).reverse.dropWhile p).reverse

/-- The text without the blanks at its ends. -/
def trim (s : String) : String :=
  String.ofList (trimChars isBlank s.toList)

/-- The first word and what follows the blanks behind it; nothing if there is no word. -/
def firstWord? (cs : List Char) : Option (List Char × List Char) :=
  match cs.dropWhile isBlank with
  | [] => none
  | c :: rest =>
    some ((c :: rest).takeWhile (!isBlank ·), ((c :: rest).dropWhile (!isBlank ·)).dropWhile isBlank)

/-- Adds a character in front of the words of a text; `open` says that the first word goes on. -/
private def wordStep (c : Char) : Bool × List (List Char) → Bool × List (List Char)
  | (inWord, ws) =>
    if isBlank c then (false, ws)
    else
      match inWord, ws with
      | true, w :: rest => (true, (c :: w) :: rest)
      | _, _ => (true, [c] :: ws)

/-- The words of a text, in order. -/
def words (cs : List Char) : List (List Char) :=
  (cs.foldr wordStep (false, [])).2

section

variable {p : Char → Bool} {cs blanks : List Char} {c : Char}

/-- Blanks in front of a text are dropped, however many there are. -/
theorem trimChars_append_left (blank : ∀ c ∈ blanks, p c = true) : trimChars p (blanks ++ cs) = trimChars p cs := by
  unfold trimChars
  rw [List.dropWhile_append_of_pos blank]

/-- Blanks behind a text are dropped, however many there are. -/
theorem trimChars_append_right (blank : ∀ c ∈ blanks, p c = true) : trimChars p (cs ++ blanks) = trimChars p cs := by
  unfold trimChars
  rw [List.dropWhile_append]
  split
  · rename_i nothing
    have dropped : blanks.dropWhile p = [] := by
      rw [← List.append_nil blanks, List.dropWhile_append_of_pos blank, List.dropWhile_nil]
    rw [dropped, List.isEmpty_iff.mp nothing]
  · rw [List.reverse_append, List.dropWhile_append_of_pos (by simpa using blank)]

/-- A trimmed text is a part of the text. Nothing is dropped from the middle. -/
theorem infix_trimChars (p : Char → Bool) (cs : List Char) : trimChars p cs <:+: cs := by
  have front : (cs.dropWhile p).reverse.dropWhile p <:+ (cs.dropWhile p).reverse := List.dropWhile_suffix p
  have kept : trimChars p cs <+: cs.dropWhile p := List.reverse_suffix.mp (by simpa [trimChars] using front)
  exact kept.isInfix.trans (List.dropWhile_suffix p).isInfix

/-- A trimmed text does not start with a blank. -/
theorem head?_trimChars (first : (trimChars p cs).head? = some c) : p c = false := by
  have front : (cs.dropWhile p).reverse.dropWhile p <:+ (cs.dropWhile p).reverse := List.dropWhile_suffix p
  obtain ⟨rest, joined⟩ : trimChars p cs <+: cs.dropWhile p :=
    List.reverse_suffix.mp (by simpa [trimChars] using front)
  have same : (cs.dropWhile p).head? = some c := by
    rw [← joined, List.head?_append, first, Option.some_or]
  have dropped := List.head?_dropWhile_not p cs
  rw [same] at dropped
  simpa using dropped

/-- A trimmed text does not end with a blank. -/
theorem getLast?_trimChars (last : (trimChars p cs).getLast? = some c) : p c = false := by
  unfold trimChars at last
  rw [List.getLast?_reverse] at last
  have dropped := List.head?_dropWhile_not p (cs.dropWhile p).reverse
  rw [last] at dropped
  simpa using dropped

/-- A text that neither starts nor ends with a blank is trimmed. -/
theorem trimChars_eq_self (first : ∀ c, cs.head? = some c → p c = false)
    (last : ∀ c, cs.getLast? = some c → p c = false) : trimChars p cs = cs := by
  have kept : ∀ {xs : List Char}, (∀ c, xs.head? = some c → p c = false) → xs.dropWhile p = xs := by
    intro xs starts
    cases xs with
    | nil => rfl
    | cons x xs => exact List.dropWhile_cons_of_neg (by simpa using starts x rfl)
  unfold trimChars
  rw [kept first, kept (by simpa using last), List.reverse_reverse]

/-- A text without blanks is trimmed, also if it is empty. -/
theorem trimChars_of_plain (plain : ∀ c ∈ cs, p c = false) : trimChars p cs = cs :=
  trimChars_eq_self (fun c first => plain c (List.mem_of_head? first)) fun c last =>
    plain c (List.mem_of_getLast? last)

/-- Trimming a second time changes nothing. What is left starts and ends with something else, or is empty. -/
theorem trimChars_trimChars (p : Char → Bool) (cs : List Char) : trimChars p (trimChars p cs) = trimChars p cs :=
  trimChars_eq_self (fun _ => head?_trimChars) fun _ => getLast?_trimChars

/-- Trimming a text that goes on behind something without blanks at its ends drops blanks from its end only. These
come from behind, so the part in front is kept whole. -/
theorem trimChars_append_of_ends {front : List Char} (nonempty : front ≠ [])
    (first : ∀ c, front.head? = some c → p c = false) (last : ∀ c, front.getLast? = some c → p c = false)
    (back : List Char) :
    ∃ kept blanks, back = kept ++ blanks ∧ (∀ c ∈ blanks, p c = true) ∧
      trimChars p (front ++ back) = front ++ kept := by
  have blank : ∀ c ∈ (back.reverse.takeWhile p).reverse, p c = true := by
    intro c member
    exact List.all_eq_true.mp List.all_takeWhile c (List.mem_reverse.mp member)
  have split : back = (back.reverse.dropWhile p).reverse ++ (back.reverse.takeWhile p).reverse := by
    rw [← List.reverse_append, List.takeWhile_append_dropWhile, List.reverse_reverse]
  refine ⟨_, _, split, blank, ?_⟩
  conv => lhs; rw [split, ← List.append_assoc, trimChars_append_right blank]
  refine trimChars_eq_self (fun c starts => first c ?_) fun c ends => ?_
  · cases front with
    | nil => exact absurd rfl nonempty
    | cons d front => exact starts
  · rw [List.getLast?_append, List.getLast?_reverse] at ends
    have dropped := List.head?_dropWhile_not p back.reverse
    cases rest : (back.reverse.dropWhile p).head? with
    | none =>
      rw [rest] at ends
      exact last c ends
    | some d =>
      rw [rest] at ends dropped
      cases ends
      simpa using dropped

/-- Trimming a text around something without blanks at its ends drops blanks in front and behind. What is kept on
either side is a part of what stood there. -/
theorem trimChars_around {middle : List Char} (nonempty : middle ≠ [])
    (first : ∀ c, middle.head? = some c → p c = false) (last : ∀ c, middle.getLast? = some c → p c = false)
    (front back : List Char) :
    ∃ blanks start kept blanks', front = blanks ++ start ∧ back = kept ++ blanks' ∧ (∀ c ∈ blanks, p c = true) ∧
      (∀ c ∈ blanks', p c = true) ∧ trimChars p (front ++ middle ++ back) = start ++ middle ++ kept := by
  have blank : ∀ c ∈ front.takeWhile p, p c = true := fun c member => List.all_eq_true.mp List.all_takeWhile c member
  have split : front = front.takeWhile p ++ front.dropWhile p := List.takeWhile_append_dropWhile.symm
  have whole : front.dropWhile p ++ middle ≠ [] := List.append_ne_nil_of_right_ne_nil _ nonempty
  have starts : ∀ c, (front.dropWhile p ++ middle).head? = some c → p c = false := by
    intro c found
    have dropped := List.head?_dropWhile_not p front
    rw [List.head?_append] at found
    cases rest : (front.dropWhile p).head? with
    | none =>
      rw [rest] at found
      exact first c found
    | some d =>
      rw [rest] at found dropped
      cases found
      simpa using dropped
  have ends : ∀ c, (front.dropWhile p ++ middle).getLast? = some c → p c = false := by
    intro c found
    rw [List.getLast?_append, List.getLast?_eq_some_getLast nonempty] at found
    exact last c ((List.getLast?_eq_some_getLast nonempty).trans found)
  obtain ⟨kept, blanks', parts, blank', trimmed⟩ := trimChars_append_of_ends whole starts ends back
  refine ⟨_, _, kept, blanks', split, parts, blank, blank', ?_⟩
  rw [← trimmed]
  conv => lhs; rw [split, List.append_assoc, List.append_assoc, trimChars_append_left blank, ← List.append_assoc]

/-- A text that starts with a word and goes on behind blanks is cut there. All blanks between the word and the rest
are dropped. -/
theorem firstWord?_append {word gap rest : List Char} (nonempty : word ≠ [])
    (plain : ∀ c ∈ word, isBlank c = false) (apart : gap ≠ []) (blank : ∀ c ∈ gap, isBlank c = true)
    (starts : ∀ c, rest.head? = some c → isBlank c = false) :
    firstWord? (word ++ gap ++ rest) = some (word, rest) := by
  have inWord : ∀ c ∈ word, (!isBlank c) = true := by simpa using plain
  have behindGap : rest.dropWhile isBlank = rest := by
    cases rest with
    | nil => rfl
    | cons c rest => exact List.dropWhile_cons_of_neg (by simpa using starts c rfl)
  have taken : (word ++ gap ++ rest).takeWhile (!isBlank ·) = word := by
    rw [List.append_assoc, List.takeWhile_append_of_pos inWord]
    cases gap with
    | nil => exact absurd rfl apart
    | cons c gap =>
      rw [List.cons_append, List.takeWhile_cons_of_neg (by simpa using blank c List.mem_cons_self), List.append_nil]
  have left : ((word ++ gap ++ rest).dropWhile (!isBlank ·)).dropWhile isBlank = rest := by
    rw [List.append_assoc, List.dropWhile_append_of_pos inWord]
    cases gap with
    | nil => exact absurd rfl apart
    | cons c gap =>
      rw [List.cons_append, List.dropWhile_cons_of_neg (by simpa using blank c List.mem_cons_self), ← List.cons_append,
        List.dropWhile_append_of_pos blank, behindGap]
  cases word with
  | nil => exact absurd rfl nonempty
  | cons c word =>
    have first : ¬isBlank c = true := by simpa using plain c List.mem_cons_self
    unfold firstWord?
    simp only [List.cons_append, List.dropWhile_cons_of_neg first] at taken left ⊢
    rw [taken, left]

/-- What is no blank is not dropped, wherever in the text it stands. -/
theorem filter_trimChars (p : Char → Bool) (cs : List Char) :
    (trimChars p cs).filter (!p ·) = cs.filter (!p ·) := by
  have kept : ∀ xs : List Char, (xs.dropWhile p).filter (!p ·) = xs.filter (!p ·) := by
    intro xs
    induction xs with
    | nil => rfl
    | cons x xs ih => by_cases blank : p x = true <;> simp [blank, ih]
  unfold trimChars
  rw [List.filter_reverse, kept, List.filter_reverse, List.reverse_reverse, kept]

end

end ChestMenu.Text
