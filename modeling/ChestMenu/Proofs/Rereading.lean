import ChestMenu.Proofs.Branching

/-!
# Reading the written form of an action

What is read from a line of ASCII characters is written in a form from which the same action is read again, with the
same tag where there are two for one kind of action, and so with the same written form.

It rests on what reading leaves of a value: no blanks at its ends, no opening bracket inside a branch, and upper case
for the name of an action. The one exception are sounds whose value has three parts, since the numbers in it are
written with six digits.
-/
namespace ChestMenu

open ChestMenu.Text

/-- In upper case an ASCII character is one again, in upper case, a blank exactly if it was one, and an opening
bracket only if it was one. -/
theorem Text.toUpper_of_ascii {c : Char} (ascii : c.toNat < 0x80) :
    c.toUpper.toNat < 0x80 ∧ c.toUpper.toUpper = c.toUpper ∧ isBlank c.toUpper = isBlank c ∧
      (c.toUpper = '[' → c = '[') := by
  have table : ∀ n < 0x80, (Char.ofNat n).toUpper.toNat < 0x80 ∧
      (Char.ofNat n).toUpper.toUpper = (Char.ofNat n).toUpper ∧
      isBlank (Char.ofNat n).toUpper = isBlank (Char.ofNat n) ∧
      ((Char.ofNat n).toUpper = '[' → Char.ofNat n = '[') := by decide
  have checked := table c.toNat ascii
  rwa [Char.ofNat_toNat] at checked

/-- The upper case of an ASCII text is one, character by character. -/
theorem Text.ascii_upperChars {cs : List Char} (ascii : ∀ c ∈ cs, c.toNat < 0x80) :
    ∀ c ∈ upperChars cs, c.toNat < 0x80 := by
  rw [upperChars_of_ascii ascii]
  simpa using fun c member => (toUpper_of_ascii (ascii c member)).1

/-- The upper case of an ASCII text has an opening bracket only if the text has one. No letter becomes a bracket. -/
theorem Text.no_bracket_upperChars {cs : List Char} (ascii : ∀ c ∈ cs, c.toNat < 0x80) (plain : '[' ∉ cs) :
    '[' ∉ upperChars cs := by
  rw [upperChars_of_ascii ascii]
  intro bracket
  obtain ⟨d, member, same⟩ := List.mem_map.mp bracket
  exact plain ((toUpper_of_ascii (ascii d member)).2.2.2 same ▸ member)

/-- An ASCII text does not grow. Each of its characters has one character for its upper case. -/
theorem Text.growth_of_ascii {cs : List Char} (ascii : ∀ c ∈ cs, c.toNat < 0x80) : growth cs = 0 := by
  rw [growth, upperChars_of_ascii ascii, List.length_map, Nat.sub_self]

namespace SimpleAction

/-- The tags that an action without a condition may be read with. -/
def tags : List String :=
  ["COMMAND", "CONSOLE", "PLAYER", "SOUND", "MESSAGE", "CLOSE", "OPEN", "BROADCAST", "PAGE", "ACTION", "REFRESH"]

/-- The tags are words in upper case without brackets. They are ASCII, and none begins like the tags of a conditional
line behind its first. -/
theorem tag_shape {tag : String} (known : tag ∈ tags) :
    String.ofList (upperChars (trimChars isBlank tag.toList)) = tag ∧ '[' ∉ tag.toList ∧ ']' ∉ tag.toList ∧
      (∀ c ∈ tag.toList, c.toNat < 0x80) ∧ ∃ c, tag.toList.head? = some c ∧ c.toUpper ≠ 'I' ∧ c.toUpper ≠ 'E' := by
  simp only [tags, List.mem_cons, List.not_mem_nil, or_false] at known
  rcases known with rfl | rfl | rfl | rfl | rfl | rfl | rfl | rfl | rfl | rfl | rfl
  all_goals exact ⟨by decide, by decide, by decide, ascii_of_all (by decide), _, rfl, by decide, by decide⟩

/-- Only the tags of the list are read as actions, so what holds of them holds of every tag of an action. -/
theorem mem_tags_of_ofTag? {tag : String} {value : List Char} {action : SimpleAction}
    (read : ofTag? tag value = some action) : tag ∈ tags := by
  unfold ofTag? at read
  dsimp only at read
  split at read
  case h_12 => cases read
  all_goals decide

/-- What stands behind a tag in a written line. -/
def valuePart (value : List Char) : List Char :=
  if value.isEmpty then [] else ' ' :: value

/-- Behind its first bracket a written line has the characters of its tag and its value, a bracket and a space. So it
has no bracket but those two unless its value has one. -/
theorem mem_of_mem_line {tag value : List Char} {c : Char} (member : c ∈ tag ++ ']' :: valuePart value) :
    c ∈ tag ∨ (c = ']' ∨ c = ' ') ∨ c ∈ value := by
  rcases List.mem_append.mp member with inTag | behind
  · exact .inl inTag
  rcases List.mem_cons.mp behind with rfl | inPart
  · exact .inr (.inl (.inl rfl))
  unfold valuePart at inPart
  split at inPart
  · cases inPart
  · rcases List.mem_cons.mp inPart with rfl | inValue
    · exact .inr (.inl (.inr rfl))
    · exact .inr (.inr inValue)

/-- The characters of a written line are a bracket, the tag, a bracket, and the value behind a space if it has one. -/
theorem toList_taggedLine (tag : String) (value : List Char) :
    (taggedLine tag (String.ofList value)).toList = '[' :: (tag.toList ++ ']' :: valuePart value) := by
  unfold taggedLine valuePart
  cases value <;> simp

/-- A line begins with a tag exactly if, without the blanks around it, it begins with a bracket that is closed again.
The tag is what the brackets enclose, in upper case, and the value is what stands behind them. -/
theorem splitTag?_eq_some_iff {line value : List Char} {tag : String} :
    splitTag? line = some (tag, value) ↔
      ∃ front behind, trimChars isBlank line = '[' :: (front ++ ']' :: behind) ∧ ']' ∉ front ∧
        tag = String.ofList (upperChars (trimChars isBlank front)) ∧ value = trimChars isBlank behind := by
  unfold splitTag?
  constructor
  · intro found
    split at found
    · rename_i rest trimmed
      obtain ⟨⟨front, behind⟩, cut, same⟩ := Option.map_eq_some_iff.mp found
      cases same
      refine ⟨front, behind, ?_, fun inside => ?_, rfl, rfl⟩
      · rw [trimmed, eq_of_cutAt? cut, List.append_assoc]
        rfl
      · obtain ⟨before, after, split⟩ := List.append_of_mem inside
        exact not_infix_of_cutAt? cut (by simp) ⟨before, after, by simp [split]⟩
    · cases found
  · rintro ⟨front, behind, trimmed, closed, rfl, rfl⟩
    have cut : cutAt? [']'] (front ++ ']' :: behind) = some (front, behind) :=
      cutAt?_append (by simp) fun inside => closed (inside.subset (by simp))
    rw [trimmed]
    exact congrArg (Option.map _) cut

/-- A line with a trimmed value is trimmed. It begins with a bracket and ends with its value, or with a bracket if the
value is empty. -/
theorem trimChars_taggedLine (tag : String) {value : List Char} (trimmed : trimChars isBlank value = value) :
    trimChars isBlank (taggedLine tag (String.ofList value)).toList =
      (taggedLine tag (String.ofList value)).toList := by
  rw [toList_taggedLine]
  refine trimChars_eq_self (by rintro c ⟨⟩; decide) fun c last => ?_
  rw [← List.cons_append, List.getLast?_append] at last
  cases value with
  | nil =>
    cases last
    decide
  | cons d value =>
    obtain ⟨e, isLast⟩ := Option.isSome_iff_exists.mp (List.getLast?_isSome.mpr (List.cons_ne_nil d value))
    rw [valuePart, if_neg (by simp), List.getLast?_cons_cons, List.getLast?_cons_cons, isLast] at last
    cases last
    rw [← trimmed] at isLast
    exact getLast?_trimChars isLast

/-- A tag and a trimmed value are found again in the line that they are written as. The tag has no bracket in it, so
it ends where it was closed. -/
theorem splitTag?_taggedLine {tag : String} (known : tag ∈ tags) {value : List Char}
    (trimmed : trimChars isBlank value = value) :
    splitTag? (taggedLine tag (String.ofList value)).toList = some (tag, value) := by
  obtain ⟨isUpper, -, noBracket, -⟩ := tag_shape known
  rw [splitTag?_eq_some_iff, trimChars_taggedLine tag trimmed, toList_taggedLine]
  refine ⟨tag.toList, valuePart value, rfl, noBracket, isUpper.symm, ?_⟩
  unfold valuePart
  split
  · rename_i empty
    rw [List.isEmpty_iff.mp empty]
    rfl
  · exact trimmed.symm.trans (trimChars_append_left isBlank_of_mem_space).symm

/-- How an action is written: with a tag and an ASCII value that it can be read from. -/
structure WrittenWith (action : SimpleAction) (tag : String) (value : List Char) : Prop where
  ascii : ∀ c ∈ value, c.toNat < 0x80
  trimmed : trimChars isBlank value = value
  read : ofTag? tag value = some action
  line : action.serialize = taggedLine tag (String.ofList value)

/-- The written form of an action is read as the action. This is what the relation between an action, its tag and its
value is made for. -/
theorem WrittenWith.ofChars?_serialize {action : SimpleAction} {tag : String} {value : List Char}
    (written : action.WrittenWith tag value) : ofChars? action.serialize.toList = some action := by
  rw [written.line, ofChars?, splitTag?_taggedLine (mem_tags_of_ofTag? written.read) written.trimmed, Option.bind_some]
  exact written.read

/-- A sound whose value has not three parts is one of the usual loudness. Only three parts are taken for a name and
two numbers. -/
theorem soundOfChars_of_parts {value : List Char} (parts : (splitOnChar ' ' value).length ≠ 3) :
    soundOfChars value = sound (String.ofList value) usualLoudness usualLoudness := by
  unfold soundOfChars
  split
  · rename_i three
    exact absurd (by rw [three]; rfl) parts
  · rfl

/-- The value of a sound of the usual loudness is its name. The usual loudness is not written. -/
theorem value_sound_usual (name : String) : (sound name usualLoudness usualLoudness).value = name := by
  rw [value]
  exact if_pos (by decide)

/-- A change of page is the trimmed value. What is no sign and digits is no change of page. -/
theorem eq_of_pageChange? {raw change : List Char} (read : pageChange? raw = some change) :
    change = trimChars isBlank raw := by
  unfold pageChange? at read
  dsimp only at read
  rw [Option.ite_none_right_eq_some] at read
  exact (Option.some.inj read.2).symm

/-- The upper case of a trimmed ASCII text is trimmed, and its own upper case. -/
theorem upperChars_of_trimmed {value : List Char} (ascii : ∀ c ∈ value, c.toNat < 0x80)
    (trimmed : trimChars isBlank value = value) :
    trimChars isBlank (upperChars value) = upperChars value ∧ upperChars (upperChars value) = upperChars value := by
  have again := ascii_upperChars ascii
  rw [upperChars_of_ascii ascii] at again ⊢
  refine ⟨trimChars_eq_self (fun c first => ?_) fun c last => ?_, ?_⟩
  · rw [List.head?_map, Option.map_eq_some_iff] at first
    obtain ⟨d, first, rfl⟩ := first
    rw [(toUpper_of_ascii (ascii d (List.mem_of_head? first))).2.2.1]
    rw [← trimmed] at first
    exact head?_trimChars first
  · rw [List.getLast?_map, Option.map_eq_some_iff] at last
    obtain ⟨d, last, rfl⟩ := last
    rw [(toUpper_of_ascii (ascii d (List.mem_of_getLast? last))).2.2.1]
    rw [← trimmed] at last
    exact getLast?_trimChars last
  · rw [upperChars_of_ascii again]
    simp only [List.map_map]
    exact List.map_congr_left fun c member => (toUpper_of_ascii (ascii c member)).2.1

/-- An action that was read from a tag and a trimmed ASCII value is written with a tag and a value that it can be read
from again. The value has an opening bracket only if the one that was read had one. The cases are those of the tags. -/
theorem written_of_ofTag? {tag : String} {value : List Char} {action : SimpleAction}
    (ascii : ∀ c ∈ value, c.toNat < 0x80) (trimmed : trimChars isBlank value = value)
    (sounds : tag = "SOUND" → (splitOnChar ' ' value).length ≠ 3) (read : ofTag? tag value = some action) :
    ∃ tag value', action.WrittenWith tag value' ∧ ('[' ∉ value → '[' ∉ value') := by
  have known := mem_tags_of_ofTag? read
  have asRead (line : action.serialize = taggedLine tag (String.ofList value)) :
      ∃ tag value', action.WrittenWith tag value' ∧ ('[' ∉ value → '[' ∉ value') :=
    ⟨tag, value, ⟨ascii, trimmed, read, line⟩, id⟩
  have withoutValue (tag : String) (read : ofTag? tag [] = some action)
      (line : action.serialize = taggedLine tag (String.ofList [])) :
      ∃ tag value', action.WrittenWith tag value' ∧ ('[' ∉ value → '[' ∉ value') :=
    ⟨tag, [], ⟨by simp, rfl, read, line⟩, fun _ => List.not_mem_nil⟩
  have console (kind : ConsoleTag) (filled : value.isEmpty = false) :
      (SimpleAction.console (String.ofList value) kind).serialize = taggedLine kind.word (String.ofList value) := by
    rw [taggedLine, if_neg (by simpa using filled)]
    rfl
  simp only [tags, List.mem_cons, List.not_mem_nil, or_false] at known
  rcases known with rfl | rfl | rfl | rfl | rfl | rfl | rfl | rfl | rfl | rfl | rfl
  all_goals simp only [ofTag?, Option.ite_none_left_eq_some, Option.some.injEq, Bool.not_eq_true] at read
  · obtain ⟨filled, rfl⟩ := read
    exact asRead (console .command filled)
  · obtain ⟨filled, rfl⟩ := read
    exact asRead (console .console filled)
  · obtain ⟨-, rfl⟩ := read
    exact asRead rfl
  · obtain ⟨-, rfl⟩ := read
    rw [soundOfChars_of_parts (sounds rfl)] at asRead ⊢
    exact asRead (congrArg (taggedLine "SOUND") (value_sound_usual _))
  · subst read
    exact asRead rfl
  · subst read
    exact withoutValue "CLOSE" rfl rfl
  · obtain ⟨-, rfl⟩ := read
    exact asRead rfl
  · subst read
    exact asRead rfl
  · obtain ⟨-, read⟩ := read
    obtain ⟨change, isChange, rfl⟩ := Option.map_eq_some_iff.mp read
    rw [eq_of_pageChange? isChange, trimmed] at asRead ⊢
    exact asRead rfl
  · -- The name of an action is kept in upper case, so it is read from that.
    obtain ⟨filled, rfl⟩ := read
    obtain ⟨isTrimmed, isUpper⟩ := upperChars_of_trimmed ascii trimmed
    have same : triggerOf (upperChars value) .context = triggerOf value .context := by
      rw [triggerOf, triggerOf, isTrimmed, isUpper, trimmed]
    have stillFilled : (upperChars value).isEmpty = false := by
      have atLeast := length_le_length_upperChars value
      cases value with
      | nil => cases filled
      | cons c value =>
        exact List.isEmpty_eq_false_iff.mpr (List.ne_nil_of_length_pos (Nat.lt_of_lt_of_le (by simp) atLeast))
    refine ⟨"ACTION", upperChars value, ⟨ascii_upperChars ascii, isTrimmed, ?_, ?_⟩, no_bracket_upperChars ascii⟩
    · simp only [ofTag?, stillFilled, same]
      rfl
    · rw [triggerOf, trimmed]
      rfl
  · subst read
    exact withoutValue "REFRESH" rfl rfl

/-- No sound in a line has a value of exactly three parts. -/
def SoundApart (line : List Char) : Prop :=
  ∀ value, splitTag? line = some ("SOUND", value) → (splitOnChar ' ' value).length ≠ 3

instance (line : List Char) : Decidable (SoundApart line) :=
  decidable_of_iff (∀ part ∈ splitTag? line, part.1 = "SOUND" → (splitOnChar ' ' part.2).length ≠ 3)
    ⟨fun apart value found => apart ("SOUND", value) found rfl, by
      rintro apart ⟨tag, value⟩ found rfl
      exact apart value found⟩

/-- An action that was read from an ASCII line is written with a tag and a value that it can be read from again. The
value has no bracket if the line begins with its only one. -/
theorem written_of_ofChars? {line : List Char} {action : SimpleAction} (ascii : ∀ c ∈ line, c.toNat < 0x80)
    (apart : SoundApart line) (read : ofChars? line = some action) :
    ∃ tag value, action.WrittenWith tag value ∧ (line.count '[' ≤ 1 → '[' ∉ value) := by
  obtain ⟨⟨tag, value⟩, split, read⟩ := Option.bind_eq_some_iff.mp read
  obtain ⟨front, behind, trimmed, -, -, rfl⟩ := splitTag?_eq_some_iff.mp split
  have part : trimChars isBlank behind <:+: line := by
    refine (infix_trimChars isBlank behind).trans (List.IsInfix.trans ?_ (infix_trimChars isBlank line))
    rw [trimmed]
    exact ⟨'[' :: (front ++ [']']), [], by simp⟩
  obtain ⟨tag', value', written, plain⟩ := written_of_ofTag? (fun c member => ascii c (part.subset member))
    (trimChars_trimChars isBlank behind) (fun isSound => apart _ (isSound ▸ split)) read
  refine ⟨tag', value', written, fun once => plain fun bracket => ?_⟩
  have counted := (infix_trimChars isBlank line).sublist.count_le '['
  have inside := List.count_pos_iff.mpr ((infix_trimChars isBlank behind).subset bracket)
  rw [trimmed, List.count_cons_self, List.count_append, List.count_cons] at counted
  omega

end SimpleAction

namespace SimpleAction

/-- An action that is written on one line: its written form begins with its only bracket. -/
def OneLine (action : SimpleAction) : Prop :=
  ∃ tag value, action.WrittenWith tag value ∧ '[' ∉ value

/-- The actions of a branch are written on one line each. Each of them was read from a piece that begins with the only
bracket that it has. -/
theorem oneLine_of_mem_branch {text : List Char} {action : SimpleAction} (ascii : ∀ c ∈ text, c.toNat < 0x80)
    (apart : ∀ piece ∈ chunks text, SoundApart piece) (member : action ∈ branchOfChars text) : action.OneLine := by
  obtain ⟨piece, isPiece, read⟩ := List.mem_filterMap.mp member
  obtain ⟨joined, first, others, cut, plain, opened⟩ := cutAtBrackets_chunks text
  have pieceAscii : ∀ c ∈ piece, c.toNat < 0x80 := by
    intro c inPiece
    exact ascii c (joined ▸ List.mem_flatten_of_mem isPiece inPiece)
  have once : piece.count '[' ≤ 1 := by
    rw [cut] at isPiece
    rcases List.mem_cons.mp isPiece with rfl | other
    · rw [List.count_eq_zero_of_not_mem plain]
      exact Nat.zero_le 1
    · obtain ⟨cs, rfl, plain⟩ := opened piece other
      have one : ('[' :: cs).count '[' = 0 + 1 := by
        rw [List.count_cons_self, List.count_eq_zero_of_not_mem plain]
      exact Nat.le_of_eq one
  obtain ⟨tag, value, written, noBracket⟩ := written_of_ofChars? pieceAscii (apart piece isPiece) read
  exact ⟨tag, value, written, noBracket once⟩

/-- The characters of a written form are a bracket, the tag, a bracket, and the value behind a space if it has one. -/
theorem WrittenWith.toList_serialize {action : SimpleAction} {tag : String} {value : List Char}
    (written : action.WrittenWith tag value) :
    action.serialize.toList = '[' :: (tag.toList ++ ']' :: valuePart value) := by
  rw [written.line, toList_taggedLine]

/-- The written form of an action on one line is ASCII, begins with its only bracket, and is read as the action. These
are the properties by which it is found again between others. -/
theorem OneLine.shape {action : SimpleAction} (oneLine : action.OneLine) :
    ∃ cs, action.serialize.toList = '[' :: cs ∧ '[' ∉ cs ∧ (∀ c ∈ cs, c.toNat < 0x80) ∧
      ofChars? ('[' :: cs) = some action := by
  obtain ⟨tag, value, written, plain⟩ := oneLine
  obtain ⟨-, noBracket, -, ascii, -⟩ := tag_shape (mem_tags_of_ofTag? written.read)
  refine ⟨_, written.toList_serialize, ?_, ?_, written.toList_serialize ▸ written.ofChars?_serialize⟩
  · intro bracket
    rcases mem_of_mem_line bracket with inTag | (isBracket | isSpace) | inValue
    · exact noBracket inTag
    · cases isBracket
    · cases isSpace
    · exact plain inValue
  · intro c member
    rcases mem_of_mem_line member with inTag | (rfl | rfl) | inValue
    · exact ascii c inTag
    · decide
    · decide
    · exact written.ascii c inValue

/-- No written form begins with the first or the last tag of a conditional line. Those tags are none of an action. -/
theorem WrittenWith.no_tag_in_front {action : SimpleAction} {tag : String} {value : List Char}
    (written : action.WrittenWith tag value) :
    ¬"[IF]".toList <+: upperChars action.serialize.toList ∧
      ¬"[ELSE]".toList <+: upperChars action.serialize.toList := by
  obtain ⟨-, -, -, ascii, c, first, notI, notE⟩ := tag_shape (mem_tags_of_ofTag? written.read)
  obtain ⟨more, isTag⟩ := List.head?_eq_some_iff.mp first
  have upper : upperChars action.serialize.toList =
      '[' :: c.toUpper :: upperChars (more ++ ']' :: valuePart value) := by
    rw [written.toList_serialize, isTag, upperChars, List.flatMap_cons, List.cons_append, List.flatMap_cons,
      upperChar, if_pos (by decide), upperChar, if_pos (ascii c (by rw [isTag]; exact List.mem_cons_self))]
    rfl
  rw [upper]
  constructor
  · intro starts
    exact notI (List.cons_prefix_cons.mp (List.cons_prefix_cons.mp starts).2).1.symm
  · intro starts
    exact notE (List.cons_prefix_cons.mp (List.cons_prefix_cons.mp starts).2).1.symm

/-- The actions of a branch in their written forms, each behind a space. -/
def branchText (actions : List SimpleAction) : List Char :=
  actions.flatMap fun action => ' ' :: action.serialize.toList

/-- A branch that is written is read as its actions. The induction is on the actions, each of which ends where the
next begins with a bracket. -/
theorem branchOfChars_branchText {actions : List SimpleAction} (oneLine : ∀ action ∈ actions, action.OneLine) :
    branchOfChars (branchText actions) = actions := by
  -- The space in front of an action belongs to the piece before it, which ends where the action begins.
  have behind : ∀ before : List Char,
      branchOfChars (before ++ branchText actions) = branchOfChars before ++ actions := by
    induction actions with
    | nil => simp [branchText]
    | cons action actions ih =>
      intro before
      obtain ⟨cs, line, plain, -, read⟩ := (oneLine action List.mem_cons_self).shape
      have rest := ih (fun other member => oneLine other (List.mem_cons_of_mem _ member)) ('[' :: cs)
      rw [branchText, List.flatMap_cons, line, ← branchText]
      calc branchOfChars (before ++ (' ' :: '[' :: cs ++ branchText actions))
          = branchOfChars ((before ++ [' ']) ++ '[' :: (cs ++ branchText actions)) := by simp
        _ = branchOfChars before ++ branchOfChars ('[' :: cs ++ branchText actions) := by
          rw [branchOfChars_append_bracket, branchOfChars_append_blanks before isBlank_of_mem_space, List.cons_append]
        _ = branchOfChars before ++ action :: actions := by
          rw [rest, branchOfChars_of_bracket plain, read, Option.toList_some, List.singleton_append]
  exact behind []

/-- A branch that is written is ASCII, since its actions are and there are spaces between them. -/
theorem ascii_branchText {actions : List SimpleAction} (oneLine : ∀ action ∈ actions, action.OneLine) :
    ∀ c ∈ branchText actions, c.toNat < 0x80 := by
  intro c member
  obtain ⟨action, isAction, member⟩ := List.mem_flatMap.mp member
  obtain ⟨cs, line, -, ascii, -⟩ := (oneLine action isAction).shape
  rw [line] at member
  rcases List.mem_cons.mp member with rfl | member
  · decide
  · rcases List.mem_cons.mp member with rfl | member
    · decide
    · exact ascii c member

/-- A text that begins with its only bracket has a tag in it only if it begins with the tag. The tag has to start with
that bracket. -/
theorem prefix_of_infix_bracket {tag cs : List Char} (plain : '[' ∉ cs) (inside : '[' :: tag <:+: '[' :: cs) :
    '[' :: tag <+: '[' :: cs := by
  rcases List.infix_cons_iff.mp inside with starts | later
  · exact starts
  · exact absurd (later.subset List.mem_cons_self) plain

/-- A branch that is written does not have the last tag of a conditional line in it. The induction is on the actions. -/
theorem not_infix_branchText {actions : List SimpleAction} (oneLine : ∀ action ∈ actions, action.OneLine) :
    ¬"[ELSE]".toList <:+: upperChars (branchText actions) := by
  -- As there is no space in the tag, it would have to be inside one of the written forms.
  have apart (before behind : List Char) :
      "[ELSE]".toList <:+: before ++ ' ' :: behind ↔ "[ELSE]".toList <:+: before ∨ "[ELSE]".toList <:+: behind :=
    infix_append_cons_iff (by decide) (by decide)
  -- A space in front of the rest stands for the space of the next action.
  have behind : ∀ before : List Char, ¬"[ELSE]".toList <:+: before →
      ¬"[ELSE]".toList <:+: before ++ upperChars (branchText actions) := by
    induction actions with
    | nil =>
      intro before absent
      rwa [branchText, List.flatMap_nil, upperChars, List.flatMap_nil, List.append_nil]
    | cons action actions ih =>
      intro before absent
      obtain ⟨cs, line, plain, ascii, -⟩ := (oneLine action List.mem_cons_self).shape
      obtain ⟨tag, value, written, -⟩ := oneLine action List.mem_cons_self
      have notPrefix := written.no_tag_in_front.2
      have noBracket := no_bracket_upperChars ascii plain
      rw [line] at notPrefix
      have upper : upperChars (' ' :: '[' :: cs) = ' ' :: '[' :: upperChars cs := rfl
      rw [branchText, List.flatMap_cons, ← branchText, line, upperChars_append, upper, List.cons_append, apart, not_or]
      refine ⟨absent, ih (fun other member => oneLine other (List.mem_cons_of_mem _ member)) _ fun inside => ?_⟩
      exact notPrefix (prefix_of_infix_bracket noBracket inside)
  exact behind [] (by decide)

end SimpleAction

namespace Action

/-- The written form of an action without a condition is read as the action. It does not begin with the tag of a
conditional line. -/
theorem ofText?_serialize_simple {action : SimpleAction} {tag : String} {value : List Char}
    (written : action.WrittenWith tag value) : ofText? (simple action).serialize = some (simple action) := by
  have isTrimmed : trimChars isBlank action.serialize.toList = action.serialize.toList := by
    rw [written.line]
    exact SimpleAction.trimChars_taggedLine tag written.trimmed
  have notIf : ¬"[IF]".toList.isPrefixOf (upperChars action.serialize.toList) = true := by
    rw [List.isPrefixOf_iff_prefix]
    exact written.no_tag_in_front.1
  rw [serialize, ofText?, ofChars?, isTrimmed, if_neg notIf, written.ofChars?_serialize, Option.map_some]

/-- Texts with spaces between them are the first and each other behind a space. This is the form in which a branch is
taken apart. -/
theorem toList_intercalate_cons (first : String) (others : List String) :
    (" ".intercalate (first :: others)).toList = first.toList ++ others.flatMap fun s => ' ' :: s.toList := by
  induction others generalizing first with
  | nil => simp
  | cons second others ih =>
    rw [String.intercalate_cons_cons, String.toList_append, String.toList_append, ih, List.flatMap_cons]
    simp

/-- The written forms of actions without conditions are those of the simple actions that they are made of. -/
theorem serializeAll_map_simple (actions : List SimpleAction) :
    serializeAll (actions.map simple) = actions.map SimpleAction.serialize := by
  induction actions with
  | nil => rfl
  | cons action actions ih => rw [List.map_cons, List.map_cons, serializeAll, serialize, ih]

/-- The characters of a conditional action that is written are its three tags with the text of the condition and the
branches between them, and without the last tag if its branch is empty. -/
theorem toList_serialize_conditional (condition : Condition) (text : String)
    (thenActions elseActions : List SimpleAction) :
    (conditional condition text (thenActions.map simple) (elseActions.map simple)).serialize.toList =
      "[IF]".toList ++ (' ' :: (text.toList ++ (' ' :: ("[THEN]".toList ++ (SimpleAction.branchText thenActions ++
        if elseActions.isEmpty then [] else ' ' :: ("[ELSE]".toList ++ SimpleAction.branchText elseActions)))))) := by
  have lines (actions : List SimpleAction) :
      ((actions.map SimpleAction.serialize).flatMap fun s => ' ' :: s.toList) = SimpleAction.branchText actions := by
    rw [List.flatMap_map, SimpleAction.branchText]
  have value : (conditionalValue text (thenActions.map SimpleAction.serialize)
      (elseActions.map SimpleAction.serialize)).toList =
      text.toList ++ (' ' :: ("[THEN]".toList ++ (SimpleAction.branchText thenActions ++
        if elseActions.isEmpty then [] else ' ' :: ("[ELSE]".toList ++ SimpleAction.branchText elseActions)))) := by
    rw [conditionalValue, List.cons_append, toList_intercalate_cons, List.cons_append, List.flatMap_cons,
      List.flatMap_append, lines, List.isEmpty_map]
    split
    · simp
    · rw [List.flatMap_cons, lines]
      simp
  have filled : (conditionalValue text (thenActions.map SimpleAction.serialize)
      (elseActions.map SimpleAction.serialize)).isEmpty = false := by
    rw [← Bool.not_eq_true, String.isEmpty_iff]
    intro empty
    rw [empty] at value
    exact List.append_ne_nil_of_right_ne_nil _ (List.cons_ne_nil _ _) (value.symm.trans String.toList_empty)
  rw [serialize, serializeAll_map_simple, serializeAll_map_simple, taggedLine, if_neg (by rw [filled]; decide),
    String.toList_append, value]
  rfl

section

variable {text : List Char} {condition : Condition} {thenActions elseActions : List SimpleAction}

/-- Spaces around an ASCII text add no tag to it, and do not grow. So a tag that was written is the first that is
found. -/
theorem not_infix_spaced {tag : String} (isTag : tag ∈ innerTags) (spaces : List Char) (space : ∀ c ∈ spaces, c = ' ')
    (ascii : ∀ c ∈ text, c.toNat < 0x80) (absent : ¬tag.toList <:+: upperChars text) :
    ¬tag.toList <:+: upperChars (spaces ++ text ++ [' ']) ∧ growth (spaces ++ text ++ [' ']) = 0 := by
  have noSpace : ' ' ∉ tag.toList ∧ tag.toList ≠ [] := by
    simp only [innerTags, List.mem_cons, List.not_mem_nil, or_false] at isTag
    rcases isTag with rfl | rfl <;> exact ⟨by decide, by decide⟩
  have apart (before behind : List Char) :
      tag.toList <:+: before ++ ' ' :: behind ↔ tag.toList <:+: before ∨ tag.toList <:+: behind :=
    infix_append_cons_iff noSpace.1 noSpace.2
  have isSpace : upperChars [' '] = ' ' :: [] := rfl
  constructor
  · rw [upperChars_append, isSpace, apart, not_or]
    refine ⟨?_, fun inside => noSpace.2 (List.infix_nil.mp inside)⟩
    induction spaces with
    | nil => exact absent
    | cons c spaces ih =>
      rw [space c List.mem_cons_self, ← List.singleton_append, List.append_assoc, upperChars_append, isSpace]
      refine fun inside => ?_
      rcases (apart [] _).mp inside with none | later
      · exact noSpace.2 (List.infix_nil.mp none)
      · exact ih (fun d member => space d (List.mem_cons_of_mem _ member)) later
  · refine growth_of_ascii fun c member => ?_
    rcases List.mem_append.mp member with member | isSpace
    · rcases List.mem_append.mp member with isSpace | inText
      · rw [space c isSpace]
        decide
      · exact ascii c inText
    · rw [List.mem_singleton.mp isSpace]
      decide

/-- The written form of a conditional action is read as the action. It is cut at the tags that were written, and each
of its parts is read as what it was written for. -/
theorem ofText?_serialize_conditional (ascii : ∀ c ∈ text, c.toNat < 0x80) (trimmed : trimChars isBlank text = text)
    (noThen : ¬"[THEN]".toList <:+: upperChars text) (isCondition : Condition.ofChars? text = some condition)
    (thenLines : ∀ action ∈ thenActions, action.OneLine) (elseLines : ∀ action ∈ elseActions, action.OneLine) :
    ofText? (conditional condition (String.ofList text) (thenActions.map simple) (elseActions.map simple)).serialize =
      some (conditional condition (String.ofList text) (thenActions.map simple) (elseActions.map simple)) := by
  obtain ⟨stillNoThen, still⟩ := not_infix_spaced (by decide) [' '] (by simp) ascii noThen
  have isText : trimChars isBlank ([' '] ++ text ++ [' ']) = text := by
    rw [trimChars_append_right isBlank_of_mem_space, trimChars_append_left isBlank_of_mem_space, trimmed]
  have line := toList_serialize_conditional condition (String.ofList text) thenActions elseActions
  rw [String.toList_ofList] at line
  have noElse := SimpleAction.not_infix_branchText thenLines
  have thenAscii := SimpleAction.ascii_branchText thenLines
  cases elseActions with
  | nil =>
    -- The blanks that are dropped from the end of the line may belong to the last action of the branch.
    obtain ⟨kept, blanks, split, blank, read⟩ := ofChars?_if ([' '] ++ text ++ [' '] ++ "[THEN]".toList)
      (by rw [List.getLast?_append]; rfl) (SimpleAction.branchText thenActions)
    have keptNoElse : ¬"[ELSE]".toList <:+: upperChars kept := by
      intro inside
      rw [split] at noElse
      exact noElse (inside.trans (infix_upperChars (List.prefix_append kept blanks).isInfix))
    have isBranch : SimpleAction.branchOfChars kept = thenActions := by
      rw [← SimpleAction.branchOfChars_append_blanks kept blank, ← split,
        SimpleAction.branchOfChars_branchText thenLines]
    have parts := conditionalOfChars?_of_then stillNoThen keptNoElse still
    rw [isText, isCondition, Option.map_some, isBranch, ← List.append_assoc, ← read] at parts
    rw [ofText?, line, List.map_nil, ← parts]
    simp
  | cons action actions =>
    obtain ⟨stillNoElse, alsoStill⟩ :=
      not_infix_spaced (by decide) [] (by simp) thenAscii noElse
    rw [List.nil_append] at stillNoElse alsoStill
    have frontChars : (String.ofList ([' '] ++ text ++ [' '])).toList = [' '] ++ text ++ [' '] := String.toList_ofList
    have thenChars : (String.ofList (SimpleAction.branchText thenActions ++ [' '])).toList =
        SimpleAction.branchText thenActions ++ [' '] := String.toList_ofList
    rw [← frontChars] at stillNoThen still isText
    rw [← thenChars] at stillNoElse alsoStill
    have read := (ofText?_eq_parts_iff (String.ofList (SimpleAction.branchText (action :: actions)))
      stillNoThen stillNoElse (by rwa [isText])).mpr (by simp only [still, alsoStill, List.take_zero, List.append_nil,
        List.drop_zero, and_self])
    rw [trim, isText, thenChars, String.toList_ofList,
      SimpleAction.branchOfChars_append_blanks _ isBlank_of_mem_space, SimpleAction.branchOfChars_branchText thenLines,
      SimpleAction.branchOfChars_branchText elseLines] at read
    rw [← read]
    refine congrArg ofText? (String.toList_inj.mp ?_)
    rw [line, conditionalLine]
    simp

end

/-- Where an ASCII text is cut at a tag, both pieces are parts of it, and the first has not the tag in it. -/
theorem parts_of_cutAtTag? {tag : String} (isTag : tag ∈ innerTags) {cs front behind : List Char}
    (ascii : ∀ c ∈ cs, c.toNat < 0x80) (cut : cutAtTag? tag cs = some (front, behind)) :
    front <+: cs ∧ behind <:+ cs ∧ ¬tag.toList <:+: upperChars front := by
  obtain ⟨place, found, same⟩ := Option.map_eq_some_iff.mp cut
  cases same
  refine ⟨List.take_prefix _ _, List.drop_suffix _ _, ?_⟩
  obtain ⟨⟨before, after⟩, inUpper, rfl⟩ := Option.map_eq_some_iff.mp found
  have isBefore : upperChars (cs.take before.length) = before := by
    rw [upperChars_of_ascii fun c member => ascii c (List.mem_of_mem_take member), List.map_take,
      ← upperChars_of_ascii ascii, eq_of_cutAt? inUpper, List.append_assoc, List.take_left]
  have nonempty : tag.toList ≠ [] := by
    obtain ⟨-, rest, opened, -⟩ := innerTag_shape isTag
    simp [opened]
  rw [isBefore]
  exact not_infix_of_cutAt? inUpper nonempty

/-- The branches of an ASCII line are parts of it, so they are ASCII and have its actions only. -/
theorem branches_sublist {rest thenText elseText : List Char} (ascii : ∀ c ∈ rest, c.toNat < 0x80)
    (cut : (cutAtTag? "[ELSE]" rest).getD (rest, []) = (thenText, elseText)) :
    thenText.Sublist rest ∧ elseText.Sublist rest := by
  cases found : cutAtTag? "[ELSE]" rest with
  | none =>
    rw [found, Option.getD_none] at cut
    cases cut
    exact ⟨List.Sublist.refl _, List.nil_sublist _⟩
  | some pieces =>
    rw [found, Option.getD_some] at cut
    subst cut
    obtain ⟨isThen, isElse, -⟩ := parts_of_cutAtTag? (by decide) ascii found
    exact ⟨isThen.sublist, isElse.sublist⟩

/-- The texts in a line that are read as actions without a condition: the pieces of both branches if the line is
conditional, and the line otherwise. -/
def simpleLines (line : List Char) : List (List Char) :=
  let stripped := trimChars isBlank line
  if "[IF]".toList.isPrefixOf (upperChars stripped) then
    match cutAtTag? "[THEN]" (stripped.drop 4) with
    | none => []
    | some (_, rest) =>
      let (thenText, elseText) := (cutAtTag? "[ELSE]" rest).getD (rest, [])
      SimpleAction.chunks thenText ++ SimpleAction.chunks elseText
  else [stripped]

/-- An action that is read from an ASCII line is read again from its written form, and so the written form stays the
same. Excepted are lines with a sound whose value has three parts.

Proof: the written form is put together from pieces of which each is read as what it was written for
(`WrittenWith.ofChars?_serialize`). What has to be shown besides is that nothing in a piece is taken for a tag or for
the end of the piece. For a conditional line the cuts are made at the tags that were written, as no text in front of
them has one. -/
theorem ofText?_serialize {line : String} {action : Action} (ascii : ∀ c ∈ line.toList, c.toNat < 0x80)
    (apart : ∀ piece ∈ simpleLines line.toList, SimpleAction.SoundApart piece) (read : ofText? line = some action) :
    ofText? action.serialize = some action := by
  have part := infix_trimChars isBlank line.toList
  unfold ofText? ofChars? at read
  unfold simpleLines at apart
  dsimp only at read apart
  split at read
  · rename_i opened
    rw [if_pos opened] at apart
    cases first : cutAtTag? "[THEN]" ((trimChars isBlank line.toList).drop 4) with
    | none =>
      rw [conditionalOfChars?, first] at read
      cases read
    | some cut =>
      obtain ⟨front, rest⟩ := cut
      cases second : (cutAtTag? "[ELSE]" rest).getD (rest, []) with
      | mk thenText elseText =>
      rw [first] at apart
      dsimp only at apart
      rw [second] at apart
      rw [conditionalOfChars?_of_cut first second] at read
      obtain ⟨condition, isCondition, rfl⟩ := Option.map_eq_some_iff.mp read
      have bodyAscii : ∀ c ∈ (trimChars isBlank line.toList).drop 4, c.toNat < 0x80 :=
        fun c member => ascii c (part.subset (List.mem_of_mem_drop member))
      obtain ⟨isFront, isRest, noThen⟩ := parts_of_cutAtTag? (by decide) bodyAscii first
      have restAscii : ∀ c ∈ rest, c.toNat < 0x80 := fun c member => bodyAscii c (isRest.subset member)
      obtain ⟨inThen, inElse⟩ := branches_sublist restAscii second
      have textPart := infix_trimChars isBlank front
      refine ofText?_serialize_conditional (fun c member => bodyAscii c (isFront.subset (textPart.subset member)))
        (trimChars_trimChars isBlank front) (fun inside => noThen (inside.trans (infix_upperChars textPart)))
        isCondition
        (fun action member => ?_) fun action member => ?_
      · exact SimpleAction.oneLine_of_mem_branch (fun c isThen => restAscii c (inThen.subset isThen))
          (fun piece isPiece => apart piece (List.mem_append_left _ isPiece)) member
      · exact SimpleAction.oneLine_of_mem_branch (fun c isElse => restAscii c (inElse.subset isElse))
          (fun piece isPiece => apart piece (List.mem_append_right _ isPiece)) member
  · rename_i notIf
    rw [if_neg notIf] at apart
    obtain ⟨action, isAction, rfl⟩ := Option.map_eq_some_iff.mp read
    obtain ⟨tag, value, written, -⟩ := SimpleAction.written_of_ofChars? (fun c member => ascii c (part.subset member))
      (apart _ (List.mem_singleton_self _)) isAction
    exact ofText?_serialize_simple written

/-- A line with tags in any case, text in front of the actions of a branch, and actions that are none is read, and its
written form is read as the same action. -/
theorem ofText?_serialize_greeting :
    ∃ action, ofText? "[if] {level} >= 10 [Then] a [command] give 1 [no] [sound] up [action] buy [ELSE] [page] +1[close]b"
        = some action ∧
      action.serialize =
        "[IF] {level} >= 10 [THEN] [COMMAND] give 1 [SOUND] up [ACTION] BUY [ELSE] [PAGE] +1 [CLOSE]" ∧
      ofText? action.serialize = some action := by
  have written :
      (ofText? "[if] {level} >= 10 [Then] a [command] give 1 [no] [sound] up [action] buy [ELSE] [page] +1[close]b").map
          serialize =
        some "[IF] {level} >= 10 [THEN] [COMMAND] give 1 [SOUND] up [ACTION] BUY [ELSE] [PAGE] +1 [CLOSE]" := by
    decide +kernel
  obtain ⟨action, read, line⟩ := Option.map_eq_some_iff.mp written
  exact ⟨action, read, line, ofText?_serialize (ascii_of_all (by decide +kernel)) (by decide +kernel) read⟩

end Action

end ChestMenu
