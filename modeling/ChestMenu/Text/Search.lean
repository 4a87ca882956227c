/-!
# Finding one text in another, cutting at what is found, and replacing it

A search runs from the left, the occurrences that are replaced do not overlap, and the empty text occurs before every
character and at the end.

The lemmas say which characters around a text make no difference to where it is cut and what is replaced in it: those
that no occurrence of the pattern can go across.
-/
namespace ChestMenu.Text

/-- The text before the first occurrence of `pattern` and the text behind it. -/
def cutAt? (pattern : List Char) : List Char → Option (List Char × List Char)
  | [] => if pattern.isEmpty then some ([], []) else none
  | c :: cs =>
    if pattern.isPrefixOf (c :: cs) then some ([], (c :: cs).drop pattern.length)
    else (cutAt? pattern cs).map fun (before, behind) => (c :: before, behind)

/-- How many characters stand before the first occurrence of `pattern`. -/
def find? (pattern cs : List Char) : Option Nat :=
  (cutAt? pattern cs).map (·.1.length)

/-- Whether `pattern` occurs in the text. -/
def occursIn (pattern cs : List Char) : Bool :=
  (cutAt? pattern cs).isSome

/-- Replaces the occurrences of a nonempty `pattern`; the first argument counts the characters of
an occurrence that are still to be passed over. -/
private def replaceFrom (pattern replacement : List Char) : Nat → List Char → List Char
  | _, [] => []
  | skip + 1, _ :: cs => replaceFrom pattern replacement skip cs
  | 0, c :: cs =>
    if pattern.isPrefixOf (c :: cs) then
      replacement ++ replaceFrom pattern replacement (pattern.length - 1) cs
    else c :: replaceFrom pattern replacement 0 cs

/-- Puts `replacement` before every character and at the end. -/
private def interleave (replacement : List Char) : List Char → List Char
  | [] => replacement
  | c :: cs => replacement ++ c :: interleave replacement cs

/-- The text with every occurrence of `pattern` replaced. -/
def replaceChars (pattern replacement cs : List Char) : List Char :=
  if pattern.isEmpty then interleave replacement cs else replaceFrom pattern replacement 0 cs

/-- The text with every occurrence of `pattern` replaced. -/
def replaceAll (pattern replacement s : String) : String :=
  String.ofList (replaceChars pattern.toList replacement.toList s.toList)

/-- The text with the first occurrence of `pattern` removed. -/
def removeFirst (pattern cs : List Char) : List Char :=
  match cutAt? pattern cs with
  | none => cs
  | some (before, behind) => before ++ behind

/-- The pieces of a text between the occurrences of a separating character; one more piece than
there are separators. -/
def splitOnChar (separator : Char) : List Char → List (List Char)
  | [] => [[]]
  | c :: cs =>
    if c = separator then [] :: splitOnChar separator cs
    else
      match splitOnChar separator cs with
      | [] => [[c]]
      | piece :: pieces => (c :: piece) :: pieces

section

variable {pattern cs before behind : List Char} {c : Char}

/-- A text that is cut is made up of the text before the pattern, the pattern and the text behind it. -/
theorem eq_of_cutAt? (cut : cutAt? pattern cs = some (before, behind)) : cs = before ++ pattern ++ behind := by
  induction cs generalizing before with
  | nil =>
    unfold cutAt? at cut
    split at cut
    · rename_i empty
      cases cut
      rw [List.isEmpty_iff.mp empty]
      rfl
    · cases cut
  | cons c cs ih =>
    unfold cutAt? at cut
    split at cut
    · rename_i starts
      cases cut
      obtain ⟨rest, joined⟩ := List.isPrefixOf_iff_prefix.mp starts
      rw [← joined, List.drop_left, List.nil_append]
    · obtain ⟨⟨front, back⟩, later, same⟩ := Option.map_eq_some_iff.mp cut
      cases same
      rw [ih later, List.cons_append, List.cons_append]

/-- A text can be cut at a pattern exactly if the pattern is a part of it. This ties the search to the relation of the
library. -/
theorem occursIn_iff_infix : occursIn pattern cs = true ↔ pattern <:+: cs := by
  unfold occursIn
  induction cs with
  | nil => cases pattern <;> simp [cutAt?]
  | cons c cs ih =>
    rw [List.infix_cons_iff, ← ih, cutAt?, ← List.isPrefixOf_iff_prefix]
    split
    · rename_i starts
      simp [starts]
    · rename_i starts
      simp [starts]

/-- A text is cut at a pattern that begins with a character found nowhere else in it, where the pattern
stands for the first time. -/
theorem cutAt?_append {first : Char} {rest : List Char} (once : first ∉ rest)
    (absent : ¬(first :: rest) <:+: before) :
    cutAt? (first :: rest) (before ++ (first :: rest ++ behind)) = some (before, behind) := by
  induction before with
  | nil =>
    rw [List.nil_append, List.cons_append, cutAt?, if_pos (by simp), ← List.cons_append, List.drop_left]
  | cons c before ih =>
    rw [List.infix_cons_iff, not_or] at absent
    -- The pattern would have to begin again inside itself.
    have later : ¬(first :: rest).isPrefixOf (c :: (before ++ (first :: rest ++ behind))) = true := by
      intro starts
      obtain ⟨rfl, goesOn⟩ := List.cons_prefix_cons.mp (List.isPrefixOf_iff_prefix.mp starts)
      rcases List.prefix_or_prefix_of_prefix goesOn (List.prefix_append before _) with inside | ⟨more, joined⟩
      · exact absent.1 (List.cons_prefix_cons.mpr ⟨rfl, inside⟩)
      · rw [← joined, List.prefix_append_right_inj] at goesOn
        cases more with
        | nil => exact absent.1 (List.cons_prefix_cons.mpr ⟨rfl, by simp [← joined]⟩)
        | cons d more =>
          obtain ⟨rfl, -⟩ := List.cons_prefix_cons.mp goesOn
          exact once (by simp [← joined])
    rw [List.cons_append, cutAt?, if_neg later, ih absent.2]
    rfl

/-- The pattern does not occur before the place of the first occurrence. The search goes from the front and ends with
the first. -/
theorem not_infix_of_cutAt? (cut : cutAt? pattern cs = some (before, behind)) (nonempty : pattern ≠ []) :
    ¬pattern <:+: before := by
  induction cs generalizing before with
  | nil =>
    unfold cutAt? at cut
    split at cut
    · cases cut
      simpa using nonempty
    · cases cut
  | cons c cs ih =>
    unfold cutAt? at cut
    split at cut
    · cases cut
      simpa using nonempty
    · rename_i starts
      obtain ⟨⟨front, back⟩, later, same⟩ := Option.map_eq_some_iff.mp cut
      cases same
      rw [List.infix_cons_iff, not_or]
      refine ⟨fun inside => starts (List.isPrefixOf_iff_prefix.mpr ?_), ih later⟩
      rw [eq_of_cutAt? later, List.append_assoc]
      exact inside.trans (List.prefix_append (c :: front) _)

/-- A text that starts with the pattern is cut in front, with nothing before the pattern. -/
theorem cutAt?_append_self (pattern behind : List Char) : cutAt? pattern (pattern ++ behind) = some ([], behind) := by
  cases pattern with
  | nil => cases behind <;> rfl
  | cons c pattern =>
    have starts : (c :: pattern).isPrefixOf (c :: pattern ++ behind) = true :=
      List.isPrefixOf_iff_prefix.mpr (List.prefix_append _ _)
    rw [List.cons_append, cutAt?, ← List.cons_append, if_pos starts, List.drop_left]

/-- A text that does not start with the pattern is cut where what follows is. Its first character is then one of those
before the pattern. -/
theorem cutAt?_cons (other : ¬pattern <+: c :: cs) :
    cutAt? pattern (c :: cs) = (cutAt? pattern cs).map fun (before, behind) => (c :: before, behind) := by
  rw [cutAt?, if_neg (by rwa [List.isPrefixOf_iff_prefix])]

/-- If a text is cut behind its first character, it does not start with the pattern, and what follows is cut at the
same place. -/
theorem not_prefix_of_cutAt?_cons (cut : cutAt? pattern (c :: cs) = some (c :: before, behind)) :
    ¬pattern <+: c :: cs ∧ cutAt? pattern cs = some (before, behind) := by
  by_cases starts : pattern <+: c :: cs
  · obtain ⟨rest, joined⟩ := starts
    rw [← joined, cutAt?_append_self] at cut
    cases cut
  · rw [cutAt?_cons starts] at cut
    obtain ⟨⟨front, back⟩, later, same⟩ := Option.map_eq_some_iff.mp cut
    cases same
    exact ⟨starts, later⟩

/-- What stands in front of the place of the cut can be left out. The place is then counted from where the rest
begins. -/
theorem cutAt?_of_append_left {front : List Char}
    (cut : cutAt? pattern (front ++ cs) = some (front ++ before, behind)) :
    cutAt? pattern cs = some (before, behind) := by
  induction front with
  | nil => exact cut
  | cons d front ih => exact ih (not_prefix_of_cutAt?_cons cut).2

/-- What stands behind the pattern can be left out. The pattern itself has to be kept. -/
theorem cutAt?_of_append_right {back : List Char}
    (cut : cutAt? pattern (cs ++ back) = some (before, behind ++ back)) :
    cutAt? pattern cs = some (before, behind) := by
  have parts : cs = before ++ pattern ++ behind := by
    have joined := eq_of_cutAt? cut
    rw [← List.append_assoc] at joined
    exact List.append_cancel_right joined
  subst parts
  induction before with
  | nil => exact cutAt?_append_self pattern behind
  | cons d before ih =>
    obtain ⟨other, later⟩ := not_prefix_of_cutAt?_cons cut
    have apart : ¬pattern <+: d :: (before ++ pattern ++ behind) := fun starts =>
      other (starts.trans (List.prefix_append _ back))
    exact (cutAt?_cons apart).trans (congrArg _ (ih later))

/-- No occurrence of a pattern in front goes across a character that is not in it. It ends in front of the character,
or does not stand there. -/
theorem prefix_append_cons_iff (absent : c ∉ pattern) : pattern <+: before ++ c :: behind ↔ pattern <+: before := by
  refine ⟨fun starts => ?_, fun starts => starts.trans (List.prefix_append before _)⟩
  rcases List.prefix_or_prefix_of_prefix starts (List.prefix_append before _) with inside | ⟨more, joined⟩
  · exact inside
  · rw [← joined, List.prefix_append_right_inj] at starts
    cases more with
    | nil =>
      rw [List.append_nil] at joined
      exact joined ▸ List.prefix_rfl
    | cons d more =>
      obtain ⟨rfl, -⟩ := List.cons_prefix_cons.mp starts
      exact absurd (by simp [← joined]) absent

/-- No occurrence of a pattern goes across a character that is not in it. It stands on one of the two sides. -/
theorem infix_append_cons_iff (absent : c ∉ pattern) (nonempty : pattern ≠ []) :
    pattern <:+: before ++ c :: behind ↔ pattern <:+: before ∨ pattern <:+: behind := by
  induction before with
  | nil =>
    have apart : ¬pattern <+: [] ++ c :: behind := fun starts =>
      nonempty (List.prefix_nil.mp ((prefix_append_cons_iff absent).mp starts))
    rw [List.nil_append] at apart ⊢
    simp [List.infix_cons_iff, apart, nonempty]
  | cons d before ih =>
    rw [List.cons_append, List.infix_cons_iff, List.infix_cons_iff, or_assoc, ← List.cons_append]
    exact or_congr (prefix_append_cons_iff absent) ih

/-- No occurrence of a pattern begins in a text in which its first character is not found. It can only stand in what
follows. -/
theorem infix_append_iff_of_first {first : Char} {rest : List Char} (absent : first ∉ before) :
    first :: rest <:+: before ++ behind ↔ first :: rest <:+: behind := by
  induction before with
  | nil => rfl
  | cons c before ih =>
    obtain ⟨other, absent⟩ := not_or.mp (mt List.mem_cons.mpr absent)
    rw [List.cons_append, List.infix_cons_iff, ih absent, List.cons_prefix_cons]
    exact or_iff_right fun both => other both.1

/-- A text that can be cut in front of a character that is not in the pattern is cut there. What stands behind the
character comes later anyway. -/
theorem cutAt?_append_cons {cs front back : List Char} (cut : cutAt? pattern cs = some (front, back))
    (absent : c ∉ pattern) (nonempty : pattern ≠ []) :
    cutAt? pattern (cs ++ c :: behind) = some (front, back ++ c :: behind) := by
  induction cs generalizing front with
  | nil => simp [cutAt?, nonempty] at cut
  | cons d cs ih =>
    have starts : pattern <+: d :: cs ++ c :: behind ↔ pattern <+: d :: cs := prefix_append_cons_iff absent
    by_cases first : pattern <+: d :: cs
    · obtain ⟨rest, joined⟩ := first
      rw [← joined, cutAt?_append_self] at cut
      cases cut
      rw [← joined, List.append_assoc, cutAt?_append_self]
    · rw [cutAt?_cons first] at cut
      obtain ⟨⟨front', back'⟩, later, same⟩ := Option.map_eq_some_iff.mp cut
      cases same
      have apart : ¬pattern <+: d :: (cs ++ c :: behind) := mt starts.mp first
      rw [List.cons_append, cutAt?_cons apart, ih later]
      rfl

/-- If it cannot be cut in front of the character, it is cut behind it, and all before belongs to the first part. -/
theorem cutAt?_append_cons_of_none {cs : List Char} (uncut : cutAt? pattern cs = none) (absent : c ∉ pattern)
    (nonempty : pattern ≠ []) :
    cutAt? pattern (cs ++ c :: behind) =
      (cutAt? pattern behind).map fun (front, back) => (cs ++ c :: front, back) := by
  induction cs with
  | nil =>
    refine cutAt?_cons fun starts => nonempty ?_
    have front : pattern <+: [] ++ c :: behind := starts
    exact List.prefix_nil.mp ((prefix_append_cons_iff absent).mp front)
  | cons d cs ih =>
    have starts : pattern <+: d :: cs ++ c :: behind ↔ pattern <+: d :: cs := prefix_append_cons_iff absent
    have other : ¬pattern <+: d :: cs := by
      rintro ⟨rest, joined⟩
      rw [← joined, cutAt?_append_self] at uncut
      cases uncut
    rw [cutAt?_cons other, Option.map_eq_none_iff] at uncut
    have apart : ¬pattern <+: d :: (cs ++ c :: behind) := mt starts.mp other
    rw [List.cons_append, cutAt?_cons apart, ih uncut, Option.map_map]
    rfl

end

/-- A text is cut at a character as lists are cut at a member. So the lemmas of the library apply. -/
theorem splitOnChar_eq_splitOn (separator : Char) (cs : List Char) :
    splitOnChar separator cs = cs.splitOn separator := by
  rw [List.splitOn_eq_splitOnP]
  induction cs with
  | nil => rfl
  | cons c cs ih =>
    rw [splitOnChar, List.splitOnP_cons_eq_if_modifyHead, ih]
    by_cases isSeparator : c = separator
    · simp [isSeparator]
    · rw [if_neg isSeparator, if_neg (by simpa using isSeparator)]
      cases pieces : cs.splitOnP (· == separator) with
      | nil => exact absurd pieces (List.splitOnP_ne_nil _ _)
      | cons piece pieces => rfl

/-- The pieces of two texts with a separator between them are those of both. The separator belongs to neither of
them. -/
theorem splitOnChar_append (separator : Char) (cs ds : List Char) :
    splitOnChar separator (cs ++ separator :: ds) = splitOnChar separator cs ++ splitOnChar separator ds := by
  simp only [splitOnChar_eq_splitOn, List.splitOn_eq_splitOnP]
  exact List.splitOnP_append_cons cs ds (beq_self_eq_true separator)

/-- A text without the separator is a piece of its own. -/
theorem splitOnChar_of_not_mem {separator : Char} {cs : List Char} (absent : separator ∉ cs) :
    splitOnChar separator cs = [cs] := by
  rw [splitOnChar_eq_splitOn, List.splitOn_eq_singleton absent]

/-- Put together again with the separator between them the pieces are the text. So nothing is lost by cutting. -/
theorem intercalate_splitOnChar (separator : Char) (cs : List Char) :
    [separator].intercalate (splitOnChar separator cs) = cs := by
  rw [splitOnChar_eq_splitOn, List.intercalate_splitOn]

/-- No piece has the separator in it. -/
theorem not_mem_of_mem_splitOnChar {separator : Char} {cs piece : List Char}
    (member : piece ∈ splitOnChar separator cs) : separator ∉ piece := by
  induction cs generalizing piece with
  | nil =>
    rw [List.mem_singleton.mp member]
    exact List.not_mem_nil
  | cons c cs ih =>
    unfold splitOnChar at member
    split at member
    · rcases List.mem_cons.mp member with rfl | later
      · exact List.not_mem_nil
      · exact ih later
    · rename_i other
      split at member
      · rw [List.mem_singleton.mp member, List.mem_singleton]
        exact Ne.symm other
      · rename_i first rest split
        rcases List.mem_cons.mp member with rfl | later
        · rw [List.mem_cons, not_or]
          exact ⟨Ne.symm other, ih (by simp [split])⟩
        · exact ih (by simp [split, later])

/-- The pieces are parts of the text, with their characters in the same order. -/
theorem sublist_of_mem_splitOnChar {separator : Char} {cs piece : List Char}
    (member : piece ∈ splitOnChar separator cs) : piece.Sublist cs := by
  induction cs generalizing piece with
  | nil => simp_all [splitOnChar]
  | cons c cs ih =>
    unfold splitOnChar at member
    split at member
    · rcases List.mem_cons.mp member with rfl | later
      · exact List.nil_sublist _
      · exact (ih later).cons c
    · split at member
      · rename_i none
        rw [List.mem_singleton.mp member]
        exact (List.nil_sublist cs).cons_cons c
      · rename_i first rest split
        rcases List.mem_cons.mp member with rfl | later
        · exact (ih (by simp [split])).cons_cons c
        · exact (ih (by simp [split, later])).cons c

section

variable {pattern replacement cs behind : List Char} {c first last : Char}

/-- A text that ends with a character found nowhere behind a text does not go across its end. That character would
have to stand behind. -/
theorem prefix_append_iff (absent : last ∉ behind) :
    pattern ++ [last] <+: cs ++ behind ↔ pattern ++ [last] <+: cs := by
  refine ⟨fun starts => ?_, fun starts => starts.trans (List.prefix_append cs behind)⟩
  rcases List.prefix_or_prefix_of_prefix starts (List.prefix_append cs behind) with inside | ⟨more, joined⟩
  · exact inside
  · rw [← joined, List.prefix_append_right_inj] at starts
    cases ends : more.getLast? with
    | none =>
      rw [List.getLast?_eq_none_iff.mp ends, List.append_nil] at joined
      exact joined ▸ List.prefix_rfl
    | some d =>
      have same : d = last := by simpa [List.getLast?_append, ends] using congrArg List.getLast? joined
      subst same
      exact absurd (starts.subset (List.mem_of_getLast? ends)) absent

/-- A pattern that ends with a character found nowhere behind a text occurs in the longer text only if it does in the
shorter one. -/
theorem infix_append_iff (absent : last ∉ behind) :
    pattern ++ [last] <:+: cs ++ behind ↔ pattern ++ [last] <:+: cs := by
  induction cs with
  | nil =>
    have nowhere : ∀ {text : List Char}, last ∉ text → ¬pattern ++ [last] <:+: text :=
      fun absent inside => absent (inside.subset (by simp))
    exact iff_of_false (nowhere absent) (nowhere List.not_mem_nil)
  | cons c cs ih =>
    rw [List.cons_append, List.infix_cons_iff, List.infix_cons_iff, ih, ← List.cons_append, prefix_append_iff absent]

/-- Of a nonempty pattern the occurrences are replaced one after another. An empty pattern would occur everywhere,
which is a case of its own. -/
private theorem replaceChars_of_ne_nil (nonempty : pattern ≠ []) (replacement cs : List Char) :
    replaceChars pattern replacement cs = replaceFrom pattern replacement 0 cs :=
  if_neg (by simpa using nonempty)

/-- Characters that are still to be passed over are left out. They belong to an occurrence that was replaced already. -/
private theorem replaceFrom_append (passed cs : List Char) :
    replaceFrom pattern replacement passed.length (passed ++ cs) = replaceFrom pattern replacement 0 cs := by
  induction passed with
  | nil => rfl
  | cons c passed ih => exact ih

/-- In the empty text nothing is replaced. There is no room for the pattern there. -/
theorem replaceChars_nil (nonempty : pattern ≠ []) : replaceChars pattern replacement [] = [] := by
  rw [replaceChars_of_ne_nil nonempty, replaceFrom]

/-- A character with which the pattern does not begin stays. The rest is gone through in the same way. -/
theorem replaceChars_cons (nonempty : pattern ≠ []) (other : ¬pattern <+: c :: cs) :
    replaceChars pattern replacement (c :: cs) = c :: replaceChars pattern replacement cs := by
  rw [replaceChars_of_ne_nil nonempty, replaceChars_of_ne_nil nonempty, replaceFrom,
    if_neg (by simpa using other)]

/-- A text in which the pattern does not occur stays as it is. -/
theorem replaceChars_of_not_infix (nonempty : pattern ≠ []) (absent : ¬pattern <:+: cs) :
    replaceChars pattern replacement cs = cs := by
  induction cs with
  | nil => exact replaceChars_nil nonempty
  | cons c cs ih =>
    rw [List.infix_cons_iff, not_or] at absent
    rw [replaceChars_cons nonempty absent.1, ih absent.2]

/-- The pattern in front of a text is replaced, and the text behind it is gone through from its start. -/
theorem replaceChars_append_self (nonempty : pattern ≠ []) :
    replaceChars pattern replacement (pattern ++ cs) = replacement ++ replaceChars pattern replacement cs := by
  rw [replaceChars_of_ne_nil nonempty, replaceChars_of_ne_nil nonempty]
  cases pattern with
  | nil => exact absurd rfl nonempty
  | cons c pattern =>
    rw [List.cons_append, replaceFrom, if_pos (by simp)]
    exact congrArg _ (replaceFrom_append pattern cs)

/-- A text in front without the first character of the pattern stays. No occurrence can begin in it. -/
theorem replaceChars_append_of_first (absent : first ∉ cs) :
    replaceChars (first :: pattern) replacement (cs ++ behind) =
      cs ++ replaceChars (first :: pattern) replacement behind := by
  induction cs with
  | nil => rfl
  | cons c cs ih =>
    obtain ⟨apart, absent⟩ := not_or.mp (mt List.mem_cons.mpr absent)
    have other : ¬first :: pattern <+: c :: (cs ++ behind) := fun starts => apart (List.cons_prefix_cons.mp starts).1
    rw [List.cons_append, replaceChars_cons (List.cons_ne_nil _ _) other, ih absent, List.cons_append]

/-- A text behind without the last character of the pattern stays. No occurrence can end in it. -/
theorem replaceChars_append_of_last (absent : last ∉ behind) :
    replaceChars (pattern ++ [last]) replacement (cs ++ behind) =
      replaceChars (pattern ++ [last]) replacement cs ++ behind := by
  have nonempty : pattern ++ [last] ≠ [] := by simp
  -- An occurrence that is being passed over ends before the text behind begins.
  have from' : ∀ skip, skip ≤ cs.length →
      replaceFrom (pattern ++ [last]) replacement skip (cs ++ behind) =
        replaceFrom (pattern ++ [last]) replacement skip cs ++ behind := by
    induction cs with
    | nil =>
      intro skip none
      cases Nat.le_zero.mp none
      have nowhere : ¬pattern ++ [last] <:+: behind := fun inside => absent (inside.subset (by simp))
      rw [List.nil_append, ← replaceChars_of_ne_nil nonempty, replaceChars_of_not_infix nonempty nowhere, replaceFrom,
        List.nil_append]
    | cons c cs ih =>
      intro skip within
      cases skip with
      | succ skip => exact ih skip (Nat.le_of_succ_le_succ within)
      | zero =>
        have same : (pattern ++ [last]).isPrefixOf (c :: (cs ++ behind)) =
            (pattern ++ [last]).isPrefixOf (c :: cs) := by
          rw [Bool.eq_iff_iff, List.isPrefixOf_iff_prefix, List.isPrefixOf_iff_prefix, ← List.cons_append]
          exact prefix_append_iff absent
        rw [List.cons_append, replaceFrom, replaceFrom, same]
        split
        · rename_i starts
          have short := (List.isPrefixOf_iff_prefix.mp starts).length_le
          rw [ih _ (by simp at short ⊢; omega), List.append_assoc]
        · rw [ih 0 (Nat.zero_le _), List.cons_append]
  rw [replaceChars_of_ne_nil nonempty, replaceChars_of_ne_nil nonempty, from' 0 (Nat.zero_le _)]
end

end ChestMenu.Text
