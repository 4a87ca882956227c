import ChestMenu.Action.Reader

/-!
# Where a conditional line is cut

The tags of the line are looked for in its upper case, and the line itself is cut at the places found there. A text
whose upper case has more characters than it has, such as one with a sharp s in it, therefore moves the cut behind it
to the right, by one place for each character that is added.

The line falls into its parts exactly if nothing grows in front of the first tag, and what growth there is in front of
the second moves no action from one branch to the other or out of them. A branch is cut in front of every opening
bracket, and the pieces that are actions make it up; none of them is conditional.
-/
namespace ChestMenu

open ChestMenu.Text

/-- How many characters the upper case of a text has more than the text. -/
def Text.growth (cs : List Char) : Nat :=
  (upperChars cs).length - cs.length

/-- In upper case a text is longer by what its characters grow. A sharp s, for one, grows into two letters. -/
theorem Text.length_upperChars (cs : List Char) : (upperChars cs).length = cs.length + growth cs := by
  have atLeast := length_le_length_upperChars cs
  unfold growth
  omega

/-- A text is cut in front of every opening bracket: the first piece has none, and each other piece begins with
its only one. -/
structure CutAtBrackets (text : List Char) (pieces : List (List Char)) : Prop where
  joined : pieces.flatten = text
  first : ∃ piece rest, pieces = piece :: rest ∧ '[' ∉ piece ∧ ∀ other ∈ rest, ∃ cs, other = '[' :: cs ∧ '[' ∉ cs

namespace SimpleAction

/-- A text is cut behind its first character as the rest of it is, and in front of it if it is a bracket. This is the
recursion of the cutting, read from the front. -/
theorem chunks_cons (c : Char) {cs piece : List Char} {pieces : List (List Char)} (cut : chunks cs = piece :: pieces) :
    chunks (c :: cs) = if c = '[' then [] :: (c :: piece) :: pieces else (c :: piece) :: pieces := by
  rw [chunks, cut]

/-- The pieces of a text are those between its opening brackets. Joined they give the text, and none but the first can
be without a bracket. -/
theorem cutAtBrackets_chunks (cs : List Char) : CutAtBrackets cs (chunks cs) := by
  induction cs with
  | nil => exact ⟨rfl, [], [], rfl, by simp, by simp⟩
  | cons c cs ih =>
    obtain ⟨joined, piece, pieces, cut, plain, others⟩ := ih
    rw [cut, List.flatten_cons] at joined
    rw [chunks_cons c cut]
    split
    · rename_i isBracket
      subst isBracket
      refine ⟨by simp [joined], [], _, rfl, by simp, ?_⟩
      simpa using ⟨plain, others⟩
    · rename_i noBracket
      exact ⟨by simp [joined], c :: piece, pieces, rfl, by simp [plain, Ne.symm noBracket], others⟩

/-- In front of an opening bracket a text is cut, whatever stands around it. So the pieces on its two sides can be
looked at apart. -/
theorem chunks_append_bracket (cs ds : List Char) :
    chunks (cs ++ '[' :: ds) = chunks cs ++ (chunks ('[' :: ds)).tail := by
  obtain ⟨-, front, behind, opened, -⟩ := cutAtBrackets_chunks ds
  induction cs with
  | nil =>
    rw [List.nil_append, chunks_cons '[' opened]
    rfl
  | cons c cs ih =>
    obtain ⟨-, piece, pieces, cut, -⟩ := cutAtBrackets_chunks cs
    rw [cut, List.cons_append] at ih
    rw [List.cons_append, chunks_cons c ih, chunks_cons c cut]
    split <;> rfl

/-- A line without an opening bracket is no action. Every action begins with a tag in brackets. -/
theorem ofChars?_of_no_bracket {cs : List Char} (plain : '[' ∉ cs) : ofChars? cs = none := by
  have noTag : splitTag? cs = none := by
    unfold splitTag?
    split
    · rename_i trimmed
      exact absurd ((infix_trimChars isBlank cs).subset (by rw [trimmed]; simp)) plain
    · rfl
  rw [ofChars?, noTag, Option.bind_none]

/-- Blanks behind a line do not matter. They are trimmed off before the line is read. -/
theorem ofChars?_append_blanks (cs : List Char) {blanks : List Char} (blank : ∀ c ∈ blanks, isBlank c = true) :
    ofChars? (cs ++ blanks) = ofChars? cs := by
  unfold ofChars? splitTag?
  rw [trimChars_append_right blank]

/-- A text without an opening bracket is one piece. It is not cut anywhere. -/
theorem chunks_of_no_bracket {cs : List Char} (plain : '[' ∉ cs) : chunks cs = [cs] := by
  induction cs with
  | nil => rfl
  | cons c cs ih =>
    rw [List.mem_cons, not_or] at plain
    rw [chunks_cons c (ih plain.2), if_neg (Ne.symm plain.1)]

/-- A text without an opening bracket is a branch without actions. The one piece of it is no action. -/
theorem branchOfChars_of_no_bracket {cs : List Char} (plain : '[' ∉ cs) : branchOfChars cs = [] := by
  rw [branchOfChars, chunks_of_no_bracket plain, List.filterMap_cons_none (ofChars?_of_no_bracket plain),
    List.filterMap_nil]

/-- A branch that begins with its only opening bracket is one line. It has one action or none. -/
theorem branchOfChars_of_bracket {cs : List Char} (plain : '[' ∉ cs) :
    branchOfChars ('[' :: cs) = (ofChars? ('[' :: cs)).toList := by
  rw [branchOfChars, chunks_cons '[' (chunks_of_no_bracket plain), if_pos rfl,
    List.filterMap_cons_none (ofChars?_of_no_bracket (List.not_mem_nil))]
  cases read : ofChars? ('[' :: cs) with
  | none => rw [List.filterMap_cons_none read, List.filterMap_nil, Option.toList_none]
  | some action => rw [List.filterMap_cons_some read, List.filterMap_nil, Option.toList_some]

/-- The actions of a branch are those in front of an opening bracket and those from it on. No action goes across the
bracket. -/
theorem branchOfChars_append_bracket (cs ds : List Char) :
    branchOfChars (cs ++ '[' :: ds) = branchOfChars cs ++ branchOfChars ('[' :: ds) := by
  obtain ⟨-, piece, pieces, cut, -⟩ := cutAtBrackets_chunks ds
  unfold branchOfChars
  rw [chunks_append_bracket, List.filterMap_append, chunks_cons '[' cut, if_pos rfl, List.tail_cons,
    List.filterMap_cons_none (ofChars?_of_no_bracket (List.not_mem_nil))]

/-- Blanks behind a branch do not matter. They belong to its last piece. -/
theorem branchOfChars_append_blanks (cs : List Char) {blanks : List Char} (blank : ∀ c ∈ blanks, isBlank c = true) :
    branchOfChars (cs ++ blanks) = branchOfChars cs := by
  have noBracket : '[' ∉ blanks := fun bracket => absurd (blank _ bracket) (by decide)
  by_cases hasBracket : '[' ∈ cs
  · -- The blanks stand behind the last piece.
    obtain ⟨behind, front, reversed, plain⟩ := List.eq_append_cons_of_mem (List.mem_reverse.mpr hasBracket)
    obtain rfl : cs = front.reverse ++ '[' :: behind.reverse := by
      rw [← List.reverse_reverse cs, reversed]
      simp
    have last : '[' ∉ behind.reverse := by simpa using plain
    have longer : '[' ∉ behind.reverse ++ blanks := by simpa using ⟨plain, noBracket⟩
    rw [List.append_assoc, List.cons_append, branchOfChars_append_bracket, branchOfChars_append_bracket,
      branchOfChars_of_bracket longer, branchOfChars_of_bracket last, ← List.cons_append,
      ofChars?_append_blanks _ blank]
  · have none : '[' ∉ cs ++ blanks := by simpa using ⟨hasBracket, noBracket⟩
    rw [branchOfChars_of_no_bracket none, branchOfChars_of_no_bracket hasBracket]

end SimpleAction

namespace Action

/-- The tags that a conditional line is cut at. -/
def innerTags : List String := ["[THEN]", "[ELSE]"]

/-- A tag is its own upper case, and begins with a bracket that it has nowhere else. Both are needed to find it in the
upper case of a text. -/
theorem innerTag_shape {tag : String} (isTag : tag ∈ innerTags) :
    upperChars tag.toList = tag.toList ∧ ∃ rest, tag.toList = '[' :: rest ∧ '[' ∉ rest := by
  simp only [innerTags, List.mem_cons, List.not_mem_nil, or_false] at isTag
  rcases isTag with rfl | rfl
  · exact ⟨by decide, _, rfl, by decide⟩
  · exact ⟨by decide, _, rfl, by decide⟩

/-- A text is not cut at a tag that its upper case does not have. Tags are looked for there only. -/
theorem cutAtTag?_eq_none {tag : String} {cs : List Char} (absent : ¬tag.toList <:+: upperChars cs) :
    cutAtTag? tag cs = none := by
  rw [← occursIn_iff_infix, occursIn, Option.not_isSome_iff_eq_none] at absent
  rw [cutAtTag?, find?, absent]
  rfl

/-- A text is cut at the first of its tags, or as far behind it as the text in front of it grows. The place of the tag
is counted in upper case and used in the text itself, which is where the two come apart. -/
theorem cutAtTag?_append {tag : String} (isTag : tag ∈ innerTags) {before : List Char}
    (absent : ¬tag.toList <:+: upperChars before) (behind : List Char) :
    cutAtTag? tag (before ++ (tag.toList ++ behind)) =
      some (before ++ (tag.toList ++ behind).take (growth before), behind.drop (growth before)) := by
  obtain ⟨isUpper, rest, opened, once⟩ := innerTag_shape isTag
  have place : find? tag.toList (upperChars (before ++ (tag.toList ++ behind))) =
      some (before.length + growth before) := by
    rw [upperChars_append, upperChars_append, isUpper, find?, opened, cutAt?_append once (opened ▸ absent),
      Option.map_some, length_upperChars]
  rw [cutAtTag?, place, Option.map_some, List.take_length_add_append, Nat.add_assoc, List.drop_length_add_append,
    Nat.add_comm, ← String.length_toList, List.drop_length_add_append]

/-- A line with the tag of a conditional one is read from behind the tag, without the blanks at its end. What is left
is read as a conditional line. -/
theorem ofChars?_if (inner : List Char) (ends : inner.getLast? = some ']') (back : List Char) :
    ∃ kept blanks, back = kept ++ blanks ∧ (∀ c ∈ blanks, isBlank c = true) ∧
      ofChars? ("[IF]".toList ++ (inner ++ back)) = conditionalOfChars? (inner ++ kept) := by
  have first : ∀ c, ("[IF]".toList ++ inner).head? = some c → isBlank c = false := by
    rintro c ⟨⟩
    decide
  have last : ∀ c, ("[IF]".toList ++ inner).getLast? = some c → isBlank c = false := by
    intro c isLast
    rw [List.getLast?_append, ends] at isLast
    cases isLast
    decide
  obtain ⟨kept, blanks, split, blank, trimmed⟩ := trimChars_append_of_ends (by simp) first last back
  refine ⟨kept, blanks, split, blank, ?_⟩
  have opened : "[IF]".toList.isPrefixOf (upperChars ("[IF]".toList ++ (inner ++ kept))) = true := by
    rw [upperChars_append, List.isPrefixOf_iff_prefix]
    exact List.prefix_append _ _
  rw [List.append_assoc, List.append_assoc] at trimmed
  rw [ofChars?, trimmed, if_pos opened]
  rfl

/-- A conditional line is read from the parts that it is cut into. It has to have a condition, and the branches may be
empty. -/
theorem conditionalOfChars?_of_cut {body front rest thenText elseText : List Char}
    (cut : cutAtTag? "[THEN]" body = some (front, rest))
    (second : (cutAtTag? "[ELSE]" rest).getD (rest, []) = (thenText, elseText)) :
    conditionalOfChars? body =
      (Condition.ofChars? (trimChars isBlank front)).map fun condition =>
        conditional condition (String.ofList (trimChars isBlank front))
          ((SimpleAction.branchOfChars thenText).map simple) ((SimpleAction.branchOfChars elseText).map simple) := by
  rw [conditionalOfChars?, cut, Option.bind_eq_bind, Option.bind_some]
  dsimp only
  rw [second]
  exact Option.map_eq_bind.symm

section

variable {front thenText : List Char}

/-- Of a conditional line with both tags, in front of the first of which nothing grows, the condition is what stands
in front of the first. The branch for yes is what stands between them, up to as far as it grows. -/
theorem conditionalOfChars?_of_both (noThen : ¬"[THEN]".toList <:+: upperChars front)
    (noElse : ¬"[ELSE]".toList <:+: upperChars thenText) (still : growth front = 0) (elseText : List Char) :
    conditionalOfChars? (front ++ ("[THEN]".toList ++ (thenText ++ ("[ELSE]".toList ++ elseText)))) =
      (Condition.ofChars? (trimChars isBlank front)).map fun condition =>
        conditional condition (String.ofList (trimChars isBlank front))
          ((SimpleAction.branchOfChars (thenText ++ ("[ELSE]".toList ++ elseText).take (growth thenText))).map simple)
          ((SimpleAction.branchOfChars (elseText.drop (growth thenText))).map simple) := by
  have first := cutAtTag?_append (by decide) noThen (thenText ++ ("[ELSE]".toList ++ elseText))
  rw [still, List.take_zero, List.append_nil, List.drop_zero] at first
  refine conditionalOfChars?_of_cut first ?_
  rw [cutAtTag?_append (by decide) noElse, Option.getD_some]

/-- Of a conditional line with the first tag only, in front of which nothing grows, all that stands behind the tag is
the branch for yes. The other branch is empty. -/
theorem conditionalOfChars?_of_then (noThen : ¬"[THEN]".toList <:+: upperChars front)
    (noElse : ¬"[ELSE]".toList <:+: upperChars thenText) (still : growth front = 0) :
    conditionalOfChars? (front ++ ("[THEN]".toList ++ thenText)) =
      (Condition.ofChars? (trimChars isBlank front)).map fun condition =>
        conditional condition (String.ofList (trimChars isBlank front))
          ((SimpleAction.branchOfChars thenText).map simple) [] := by
  have first := cutAtTag?_append (by decide) noThen thenText
  rw [still, List.take_zero, List.append_nil, List.drop_zero] at first
  have second : (cutAtTag? "[ELSE]" thenText).getD (thenText, []) = (thenText, []) := by
    rw [cutAtTag?_eq_none noElse, Option.getD_none]
  exact conditionalOfChars?_of_cut first second

/-- If something grows in front of the first tag, a piece of the tag is read as the end of the condition. So the text
of the condition is not what was written. -/
theorem conditionText_ne_of_growth (noThen : ¬"[THEN]".toList <:+: upperChars front) (grows : growth front ≠ 0)
    {rest : List Char} {condition : Condition} {text : String} {thenActions elseActions : List Action}
    (read : conditionalOfChars? (front ++ ("[THEN]".toList ++ rest)) =
      some (conditional condition text thenActions elseActions)) :
    text ≠ String.ofList (trimChars isBlank front) := by
  obtain ⟨n, isSucc⟩ := Nat.exists_eq_add_one_of_ne_zero grows
  rw [conditionalOfChars?_of_cut (cutAtTag?_append (by decide) noThen rest) rfl, isSucc] at read
  obtain ⟨_, -, same⟩ := Option.map_eq_some_iff.mp read
  cases same
  intro same
  -- The bracket of the tag is no blank, so it is not dropped.
  have kept := congrArg (fun text : String => (text.toList.filter (!isBlank ·)).length) same
  simp only [String.toList_ofList, filter_trimChars, List.filter_append, List.length_append] at kept
  have bracket : 0 < ((("[THEN]".toList ++ rest).take (n + 1)).filter (!isBlank ·)).length := by
    rw [List.length_filter_pos_iff]
    exact ⟨'[', by simp, by decide⟩
  omega

end

/-- A conditional line with both tags. -/
def conditionalLine (front thenText elseText : String) : String :=
  "[IF]" ++ front ++ "[THEN]" ++ thenText ++ "[ELSE]" ++ elseText

/-- A conditional line is read as its parts exactly if nothing grows in front of its first tag, and the actions of
the branches are the same if the second tag is looked for as far to the right as the text in front of it grows. -/
theorem ofText?_eq_parts_iff {front thenText : String} (elseText : String) {condition : Condition}
    (noThen : ¬"[THEN]".toList <:+: upperChars front.toList)
    (noElse : ¬"[ELSE]".toList <:+: upperChars thenText.toList)
    (isCondition : Condition.ofChars? (trimChars isBlank front.toList) = some condition) :
    ofText? (conditionalLine front thenText elseText) = some (conditional condition (trim front)
        ((SimpleAction.branchOfChars thenText.toList).map simple)
        ((SimpleAction.branchOfChars elseText.toList).map simple)) ↔
      growth front.toList = 0 ∧
      SimpleAction.branchOfChars
          (thenText.toList ++ ("[ELSE]".toList ++ elseText.toList).take (growth thenText.toList)) =
        SimpleAction.branchOfChars thenText.toList ∧
      SimpleAction.branchOfChars (elseText.toList.drop (growth thenText.toList)) =
        SimpleAction.branchOfChars elseText.toList := by
  -- The blanks at the end of the line belong to the last branch, where they do not matter.
  obtain ⟨kept, blanks, split, blank, read⟩ := ofChars?_if
    (front.toList ++ "[THEN]".toList ++ thenText.toList ++ "[ELSE]".toList) (by rw [List.getLast?_append]; rfl)
    elseText.toList
  have line : ofText? (conditionalLine front thenText elseText) = conditionalOfChars?
      (front.toList ++ ("[THEN]".toList ++ (thenText.toList ++ ("[ELSE]".toList ++ kept)))) := by
    simp only [ofText?, conditionalLine, String.toList_append, List.append_assoc] at read ⊢
    exact read
  have elseWhole : SimpleAction.branchOfChars elseText.toList = SimpleAction.branchOfChars kept := by
    rw [split, SimpleAction.branchOfChars_append_blanks _ blank]
  have elseCut (n : Nat) :
      SimpleAction.branchOfChars (elseText.toList.drop n) = SimpleAction.branchOfChars (kept.drop n) := by
    rw [split, List.drop_append]
    exact SimpleAction.branchOfChars_append_blanks _ fun c member => blank c (List.mem_of_mem_drop member)
  have thenCut (n : Nat) :
      SimpleAction.branchOfChars (thenText.toList ++ ("[ELSE]".toList ++ elseText.toList).take n) =
        SimpleAction.branchOfChars (thenText.toList ++ ("[ELSE]".toList ++ kept).take n) := by
    rw [split, ← List.append_assoc "[ELSE]".toList, List.take_append, ← List.append_assoc]
    exact SimpleAction.branchOfChars_append_blanks _ fun c member => blank c (List.mem_of_mem_take member)
  rw [line, elseWhole, elseCut, thenCut]
  by_cases still : growth front.toList = 0
  · have same : ∀ {xs ys : List SimpleAction}, xs.map simple = ys.map simple ↔ xs = ys :=
      List.map_inj_right fun _ _ => (simple.inj ·)
    rw [conditionalOfChars?_of_both noThen noElse still, isCondition]
    simp [still, same, trim]
  · exact ⟨fun read => absurd rfl (conditionText_ne_of_growth noThen still read), fun parts => absurd parts.1 still⟩

/-- A conditional line falls into its parts if neither the text in front of its first tag nor that in front of its
second grows. It does exactly if the first does not, and no action is lost or gained by cutting as far behind the
second tag as the text in front of it grows. The actions of a branch are those of the pieces of its text, cut at the
brackets, that are actions, and none of these is conditional.

Proof: the tags are found in the upper case of the line, where what stands in front of a tag is as much longer as the
text in front of it has grown. `ofText?_eq_parts_iff` compares this with the place where the line is cut; without
growth both sides of it hold. -/
theorem conditionalLine_falls_into_parts {front thenText elseText : String} {condition : Condition}
    (noThen : occursIn "[THEN]".toList (upperChars front.toList) = false)
    (noElse : occursIn "[ELSE]".toList (upperChars thenText.toList) = false)
    (isCondition : Condition.ofChars? (trimChars isBlank front.toList) = some condition) :
    let branch (text : List Char) := SimpleAction.branchOfChars text
    let parts := conditional condition (trim front) ((branch thenText.toList).map simple)
      ((branch elseText.toList).map simple)
    (∀ text, ∃ pieces, CutAtBrackets text pieces ∧ branch text = pieces.filterMap SimpleAction.ofChars?) ∧
      (growth front.toList = 0 → growth thenText.toList = 0 →
        ofText? (conditionalLine front thenText elseText) = some parts) ∧
      (ofText? (conditionalLine front thenText elseText) = some parts ↔
        growth front.toList = 0 ∧
        branch (thenText.toList ++ ("[ELSE]".toList ++ elseText.toList).take (growth thenText.toList)) =
          branch thenText.toList ∧
        branch (elseText.toList.drop (growth thenText.toList)) = branch elseText.toList) := by
  rw [Bool.eq_false_iff, Ne, occursIn_iff_infix] at noThen noElse
  have exactly := ofText?_eq_parts_iff elseText noThen noElse isCondition
  refine ⟨fun text => ⟨_, SimpleAction.cutAtBrackets_chunks text, rfl⟩, ?_, exactly⟩
  intro still alsoStill
  exact exactly.mpr (by simp [still, alsoStill])

/-- An umlaut does not grow, so a line with a greeting falls into its parts. The tags of a branch may be in any case,
and what is no action is passed over. -/
theorem greeting_falls_into_parts :
    Condition.ofChars? (trimChars isBlank " {name} equals Ärger ".toList) = some (.name "Ärger") ∧
    ofText? "[IF] {name} equals Ärger [THEN] oh [message] schön! [NO] [ close][ELSE]  [REFRESH] " =
      some (conditional (.name "Ärger") "{name} equals Ärger"
        [simple (.message "schön!"), simple .close] [simple .refresh]) := by
  have isCondition : Condition.ofChars? (trimChars isBlank " {name} equals Ärger ".toList) = some (.name "Ärger") := rfl
  have parts := @conditionalLine_falls_into_parts " {name} equals Ärger " " oh [message] schön! [NO] [ close]"
    "  [REFRESH] " _ rfl rfl isCondition
  exact ⟨isCondition, (parts.2.1 rfl rfl).trans rfl⟩

/-- A sharp s grows. The bracket of the tag behind it is read as a part of the name, so that the line does not fall
into its parts and the condition does not hold for the actor who bears the name. -/
theorem condition_spoiled_by_sharp_s :
    occursIn "[THEN]".toList (upperChars " {name} equals Strauß ".toList) = false ∧
    occursIn "[ELSE]".toList (upperChars " [CLOSE] ".toList) = false ∧
    Condition.ofChars? (trimChars isBlank " {name} equals Strauß ".toList) = some (.name "Strauß") ∧
    ofText? (conditionalLine " {name} equals Strauß " " [CLOSE] " " [REFRESH]") =
      some (conditional (.name "Strauß [") "{name} equals Strauß [" [simple .close] [simple .refresh]) ∧
    ofText? (conditionalLine " {name} equals Strauß " " [CLOSE] " " [REFRESH]") ≠
      some (conditional (.name "Strauß") "{name} equals Strauß" [simple .close] [simple .refresh]) := by
  have read : ofText? (conditionalLine " {name} equals Strauß " " [CLOSE] " " [REFRESH]") =
      some (conditional (.name "Strauß [") "{name} equals Strauß [" [simple .close] [simple .refresh]) := rfl
  refine ⟨rfl, rfl, rfl, read, fun parts => ?_⟩
  have same := congrArg (Option.map value) (read.symm.trans parts)
  revert same
  decide +kernel

/-- Neither is the second branch safe: here it loses its only action. -/
example :
    ofText? (conditionalLine " {level} > 1 " " [MESSAGE] Strauß " "[CLOSE]") =
      some (conditional (.level ">" 1) "{level} > 1" [simple (.message "Strauß")] []) :=
  rfl

end Action

end ChestMenu
