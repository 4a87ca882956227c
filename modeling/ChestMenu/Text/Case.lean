import ChestMenu.Text.CaseTable

/-!
# Upper and lower case for all of Unicode

One character may map to several, so the case of a text is the concatenation of what its characters
map to. Lower case has one rule that looks at the neighbours: a capital sigma at the end of a word
becomes the final sigma.

No character is dropped: the lower case of a text is as long as those of its characters together.
The signs that stand before the letters are left as they are, and no letter becomes one.
-/
namespace ChestMenu.Text

/-- Whether a code point lies in a property given by the points where it begins and ends to hold:
an odd number of them is passed. -/
def inBounds (bounds : List Nat) (code : Nat) : Bool :=
  (bounds.takeWhile (· ≤ code)).length % 2 == 1

/-- The code point that a run maps `code` to, if it is on the run. -/
def CaseRun.map? (run : CaseRun) (code : Nat) : Option Nat :=
  if run.first ≤ code && code ≤ run.last && (code - run.first) % run.step == 0 then
    some (code + run.offset).toNat
  else none

private def mapCase (expansions : List (Nat × List Nat)) (runs : List CaseRun) (c : Char) :
    List Char :=
  match expansions.find? (·.1 == c.toNat) with
  | some (_, codes) => codes.map Char.ofNat
  | none =>
    match runs.findSome? (·.map? c.toNat) with
    | some code => [Char.ofNat code]
    | none => [c]

/-- The upper case of one character. -/
def upperChar (c : Char) : List Char :=
  if c.toNat < 0x80 then [c.toUpper] else mapCase upperExpansions upperRuns c

/-- The lower case of one character, whatever stands beside it. -/
def lowerChar (c : Char) : List Char :=
  if c.toNat < 0x80 then [c.toLower] else mapCase lowerExpansions lowerRuns c

/-- Whether a character is an upper-case letter. -/
def isUpper (c : Char) : Bool :=
  if c.toNat < 0x80 then c.isUpper else inBounds uppercaseBounds c.toNat

/-- Whether a letter is the nearest character that is not passed over. -/
private def nearestIsCased (cs : List Char) : Bool :=
  match cs.dropWhile (inBounds caseIgnorableBounds ·.toNat) with
  | [] => false
  | c :: _ => inBounds casedBounds c.toNat

/-- Lower case of a text, given the characters before it, nearest first. A capital sigma becomes
final where a letter stands before it and none behind it. -/
private def lowerAfter : List Char → List Char → List Char
  | _, [] => []
  | before, c :: cs =>
    let mapped :=
      if c = 'Σ' then
        if nearestIsCased before && !nearestIsCased cs then ['ς'] else ['σ']
      else lowerChar c
    mapped ++ lowerAfter (c :: before) cs

/-- The upper case of a text. -/
def upperChars (cs : List Char) : List Char :=
  cs.flatMap upperChar

/-- The lower case of a text. -/
def lowerChars (cs : List Char) : List Char :=
  lowerAfter [] cs

/-- The upper case of a text. -/
def upper (s : String) : String :=
  String.ofList (upperChars s.toList)

/-- The lower case of a text. -/
def lower (s : String) : String :=
  String.ofList (lowerChars s.toList)

/-- How many characters the lower case of one has. A capital sigma becomes one, wherever it stands. -/
def lowerLength (c : Char) : Nat :=
  if c = 'Σ' then 1 else (lowerChar c).length

/-- A character is mapped to at least one if the list of expansions says so of those in it. -/
private theorem mapCase_ne_nil {expansions : List (Nat × List Nat)} (runs : List CaseRun) (c : Char)
    (expanded : ∀ expansion ∈ expansions, expansion.2 ≠ []) : mapCase expansions runs c ≠ [] := by
  unfold mapCase
  split
  · rename_i found
    simpa using expanded _ (List.mem_of_find?_eq_some found)
  · split <;> simp

/-- Every character has a lower case of one character at least. -/
private theorem lowerChar_ne_nil (c : Char) : lowerChar c ≠ [] := by
  unfold lowerChar
  split
  · simp
  · exact mapCase_ne_nil _ c (by decide)

/-- No character is dropped when a text is put into lower case. -/
theorem lowerLength_pos (c : Char) : 0 < lowerLength c := by
  unfold lowerLength
  split
  · decide
  · exact List.length_pos_iff.mpr (lowerChar_ne_nil c)

/-- How many characters the lower cases of the characters of a text have together. -/
def lowerLengths : List Char → Nat
  | [] => 0
  | c :: cs => lowerLength c + lowerLengths cs

/-- The characters before a text do not matter for the length of its lower case. They only decide which form a sigma
takes, and both forms are one character. -/
private theorem length_lowerAfter (before cs : List Char) :
    (lowerAfter before cs).length = lowerLengths cs := by
  induction cs generalizing before with
  | nil => rfl
  | cons c cs ih =>
    simp only [lowerAfter, List.length_append, ih, lowerLengths, lowerLength]
    split
    · split <;> rfl
    · rfl

/-- The lower case of a text is as long as those of its characters together. -/
theorem length_lowerChars (cs : List Char) : (lowerChars cs).length = lowerLengths cs :=
  length_lowerAfter [] cs

/-- A text from which characters were left out has a shorter lower case. Each that was left out would have added one
at least. -/
theorem length_lowerChars_lt {part cs : List Char} (sub : part.Sublist cs) (less : part.length < cs.length) :
    (lowerChars part).length < (lowerChars cs).length := by
  -- Each character that is left out counts for at least one.
  have counted : lowerLengths part + cs.length ≤ lowerLengths cs + part.length := by
    clear less
    induction sub with
    | slnil => exact Nat.le_refl _
    | cons c _ ih =>
      have pos := lowerLength_pos c
      simp only [lowerLengths, List.length_cons]
      omega
    | cons_cons c _ ih =>
      simp only [lowerLengths, List.length_cons]
      omega
  rw [length_lowerChars, length_lowerChars]
  omega

/-- The upper case of a text is that of its parts, one after the other. There is no letter whose upper case depends on
others. -/
theorem upperChars_append (cs ds : List Char) : upperChars (cs ++ ds) = upperChars cs ++ upperChars ds :=
  List.flatMap_append

/-- The upper case of a part of a text is a part of the upper case of the text. -/
theorem infix_upperChars {cs ds : List Char} (part : cs <:+: ds) : upperChars cs <:+: upperChars ds := by
  obtain ⟨before, behind, rfl⟩ := part
  exact ⟨upperChars before, upperChars behind, by rw [upperChars_append, upperChars_append]⟩

/-- The upper case of a text is at least as long as the text. Every character has an upper case of one at least. -/
theorem length_le_length_upperChars (cs : List Char) : cs.length ≤ (upperChars cs).length := by
  have mapped : ∀ c, 0 < (upperChar c).length := by
    intro c
    rw [List.length_pos_iff]
    unfold upperChar
    split
    · simp
    · exact mapCase_ne_nil _ c (by decide)
  induction cs with
  | nil => exact Nat.le_refl 0
  | cons c cs ih =>
    have first := mapped c
    rw [upperChars, List.flatMap_cons, List.length_append, ← upperChars, List.length_cons]
    omega

/-- Whether a text is ASCII can be computed, and this is what the computation says. -/
theorem ascii_of_all {cs : List Char} (all : cs.all (·.toNat < 0x80) = true) : ∀ c ∈ cs, c.toNat < 0x80 := by
  simpa using all

/-- The upper case of an ASCII text goes character by character. -/
theorem upperChars_of_ascii {cs : List Char} (ascii : ∀ c ∈ cs, c.toNat < 0x80) :
    upperChars cs = cs.map Char.toUpper := by
  induction cs with
  | nil => rfl
  | cons c cs ih =>
    rw [upperChars, List.flatMap_cons, ← upperChars, ih fun d later => ascii d (List.mem_cons_of_mem c later), upperChar,
      if_pos (ascii c List.mem_cons_self)]
    rfl

/-- Only the empty text has an empty lower case. No character is dropped by it. -/
theorem lower_eq_empty {s : String} : lower s = "" ↔ s = "" := by
  constructor
  · intro empty
    have none : (lowerChars s.toList).length = 0 := by
      have same := congrArg String.toList empty
      rw [lower, String.toList_ofList] at same
      rw [same]
      rfl
    cases cs : s.toList with
    | nil => simpa using cs
    | cons c rest =>
      rw [length_lowerChars, cs, lowerLengths] at none
      exact absurd none (Nat.ne_of_gt (Nat.add_pos_left (lowerLength_pos c) _))
  · rintro rfl
    rfl

/-- Whether a character stands before all letters, as the signs of comparisons do. -/
def isSign (c : Char) : Bool :=
  0 < c.toNat && c.toNat < 0x41

/-- The character with a code that is not one of a sign is no sign. The codes of signs are below those of letters. -/
private theorem isSign_ofNat {code : Nat} (letter : 0x41 ≤ code) : isSign (Char.ofNat code) = false := by
  have codes : (Char.ofNat code).toNat = code ∨ (Char.ofNat code).toNat = 0 := by
    unfold Char.ofNat
    by_cases valid : code.isValidChar
    · rw [dif_pos valid]
      exact Or.inl rfl
    · rw [dif_neg valid]
      exact Or.inr rfl
  rcases codes with same | none
  · rw [isSign, same, Bool.and_eq_false_iff, decide_eq_false_iff_not, decide_eq_false_iff_not]
    omega
  · rw [isSign, none]
    rfl

/-- No letter has a sign for its lower case. So signs come from themselves only. -/
private theorem eq_of_sign_lowerChar {c s : Char} (sign : isSign s = true) (member : s ∈ lowerChar c) : s = c := by
  have far : ∀ code, 0x41 ≤ code → s ≠ Char.ofNat code := by
    rintro code letter rfl
    rw [isSign_ofNat letter] at sign
    cases sign
  unfold lowerChar at member
  split at member
  · rename_i ascii
    have table : ∀ code < 0x80, isSign (Char.ofNat code).toLower = true →
        (Char.ofNat code).toLower = Char.ofNat code := by
      decide
    have same := table c.toNat ascii
    rw [Char.ofNat_toNat, ← List.mem_singleton.mp member] at same
    exact same sign
  · unfold mapCase at member
    split at member
    · rename_i codes found
      have letters : ∀ expansion ∈ lowerExpansions, ∀ code ∈ expansion.2, 0x41 ≤ code := by decide
      obtain ⟨code, inCodes, same⟩ := List.mem_map.mp member
      exact absurd same.symm (far code (letters _ (List.mem_of_find?_eq_some found) code inCodes))
    · split at member
      · rename_i code found
        have letters : lowerRuns.all (fun run => 0x41 ≤ run.first + run.offset) = true := by decide +kernel
        obtain ⟨run, inRuns, mapped⟩ := List.exists_of_findSome?_eq_some found
        have start := List.all_eq_true.mp letters run inRuns
        rw [decide_eq_true_eq] at start
        unfold CaseRun.map? at mapped
        split at mapped
        · rename_i onRun
          cases mapped
          rw [Bool.and_eq_true, Bool.and_eq_true, decide_eq_true_eq, decide_eq_true_eq] at onRun
          exact absurd (List.mem_singleton.mp member) (far _ (by omega))
        · cases mapped
      · exact List.mem_singleton.mp member

/-- The lower case of a sign is the sign. There is nothing to be put into lower case. -/
private theorem lowerChar_of_sign {s : Char} (sign : isSign s = true) : lowerChar s = [s] := by
  have low : s.toNat < 0x80 := by
    rw [isSign, Bool.and_eq_true, decide_eq_true_eq, decide_eq_true_eq] at sign
    omega
  have table : ∀ code < 0x80, isSign (Char.ofNat code) = true → (Char.ofNat code).toLower = Char.ofNat code := by
    decide
  have same := table s.toNat low
  rw [Char.ofNat_toNat] at same
  rw [lowerChar, if_pos low, same sign]

/-- The first character of a text is mapped to itself if it is a sign, and to characters that are no signs otherwise. -/
private theorem lowerAfter_cons (before cs : List Char) (c : Char) :
    ∃ mapped, lowerAfter before (c :: cs) = mapped ++ lowerAfter (c :: before) cs ∧
      if isSign c = true then mapped = [c] else mapped ≠ [] ∧ ∀ s ∈ mapped, isSign s = false := by
  refine ⟨_, rfl, ?_⟩
  split
  · rename_i sign
    have noSigma : c ≠ 'Σ' := by
      rintro rfl
      cases sign
    rw [if_neg noSigma, lowerChar_of_sign sign]
  · rename_i letter
    split
    · split
      all_goals exact ⟨List.cons_ne_nil _ _, List.forall_mem_singleton.mpr (by decide)⟩
    · refine ⟨lowerChar_ne_nil c, fun s member => Bool.eq_false_iff.mpr fun sign => letter ?_⟩
      rwa [← eq_of_sign_lowerChar sign member]

/-- The lower case of a text begins with signs exactly if the text does. The induction is on the signs. -/
private theorem prefix_lowerAfter {signs : List Char} (sign : ∀ s ∈ signs, isSign s = true) (before cs : List Char) :
    signs <+: lowerAfter before cs ↔ signs <+: cs := by
  induction signs generalizing before cs with
  | nil => simp
  | cons s signs ih =>
    obtain ⟨first, later⟩ := List.forall_mem_cons.mp sign
    cases cs with
    | nil => rfl
    | cons c cs =>
      obtain ⟨mapped, goesOn, cases⟩ := lowerAfter_cons before cs c
      rw [goesOn]
      split at cases
      · rw [cases, List.singleton_append, List.cons_prefix_cons, List.cons_prefix_cons, ih later]
      · rename_i letter
        obtain ⟨nonempty, letters⟩ := cases
        obtain ⟨d, mapped, rfl⟩ := List.exists_cons_of_ne_nil nonempty
        rw [List.cons_append, List.cons_prefix_cons, List.cons_prefix_cons]
        refine iff_of_false (fun starts => ?_) fun starts => letter (starts.1 ▸ first)
        rw [starts.1, letters d List.mem_cons_self] at first
        cases first

/-- Signs stand side by side in the lower case of a text exactly if they do in the text. So operators made of signs
can be looked for in either of them. -/
theorem infix_lowerChars {signs cs : List Char} (sign : ∀ s ∈ signs, isSign s = true) :
    signs <:+: lowerChars cs ↔ signs <:+: cs := by
  cases signs with
  | nil => simp
  | cons s signs =>
    obtain ⟨first, -⟩ := List.forall_mem_cons.mp sign
    have behind : ∀ {front : List Char} (rest : List Char), (∀ d ∈ front, isSign d = false) →
        (s :: signs <:+: front ++ rest ↔ s :: signs <:+: rest) := by
      intro front rest letters
      induction front with
      | nil => rfl
      | cons d front ih =>
        obtain ⟨letter, letters⟩ := List.forall_mem_cons.mp letters
        rw [List.cons_append, List.infix_cons_iff, ih letters, or_iff_right]
        intro starts
        rw [(List.cons_prefix_cons.mp starts).1, letter] at first
        cases first
    have all : ∀ before, s :: signs <:+: lowerAfter before cs ↔ s :: signs <:+: cs := by
      induction cs with
      | nil => exact fun _ => Iff.rfl
      | cons c cs ih =>
        intro before
        obtain ⟨mapped, goesOn, cases⟩ := lowerAfter_cons before cs c
        split at cases
        · have starts := prefix_lowerAfter sign before (c :: cs)
          rw [goesOn, cases, List.singleton_append] at starts ⊢
          rw [List.infix_cons_iff, List.infix_cons_iff, starts, ih]
        · rename_i letter
          have alone := behind cs (List.forall_mem_singleton.mpr (Bool.eq_false_iff.mpr letter))
          rw [goesOn, behind _ cases.2, ih]
          exact alone.symm
    exact all []

end ChestMenu.Text
