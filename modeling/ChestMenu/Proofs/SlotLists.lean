import ChestMenu.Proofs.Numerals
import ChestMenu.Proofs.PlainData

/-!
# Lists of slots as text

A text stands for the slots of its parts, one part after another, whatever stands between the commas: a number for
itself, two numbers with a hyphen between them for all numbers from the lesser to the greater, and anything else for
nothing. A hyphen is never a sign here, so no slot of a text is negative. A list stands for the slots of its members
in the same way.

Ranges have a bound: more slots than a list can have members are not counted, and more than the machine has room for
are not put into one. Such a range is no malformed part; it breaks off the reading of the whole text. Lists have a
bound too, since each one takes a call and so does a text: a list that is nested deeper than there are calls for is
not read, and neither is one that is inside itself.
-/
namespace ChestMenu.Slots

open ChestMenu.Number ChestMenu.Text

section

variable {cs part first last : List Char} {a b n z : Int} {slots : List Int}

/-- A text is a number, with blanks around it and without a hyphen. -/
def IsNumber (cs : List Char) (n : Int) : Prop :=
  '-' ∉ cs ∧ readInteger? (trimChars isBlank cs) = some n

/-- A part of a text says something: it is a number, or two numbers with a hyphen between them. -/
inductive IsPart : List Char → Prop
  | number {cs : List Char} {n : Int} (isNumber : IsNumber cs n) : IsPart cs
  | range {first last : List Char} {a b : Int} (isFirst : IsNumber first a) (isLast : IsNumber last b) :
      IsPart (first ++ '-' :: last)

/-- A number without a hyphen is not negative. A hyphen is never part of a number here, as it makes a range. -/
theorem IsNumber.nonneg (isNumber : IsNumber cs n) : 0 ≤ n :=
  nonneg_of_readInteger? (fun hyphen => isNumber.1 ((infix_trimChars _ cs).subset hyphen)) isNumber.2

/-- The written form of a short natural number is a number. It has neither a hyphen nor a comma, so it is a part of
its own. -/
theorem isNumber_naturalText {n : Nat} (short : n < Nat.pow 10 digitLimit) : IsNumber (naturalText n).toList n := by
  have plain : ∀ c ∈ Nat.toDigits 10 n, isBlank c = false := fun c member =>
    isBlank_of_isDigit (isDigit_of_mem_written member)
  rw [IsNumber, naturalText, String.toList_ofList, trimChars_of_plain plain]
  exact ⟨not_mem_written_of_sign (.inl rfl), readInteger?_written short⟩

variable [Machine]

/-- A number stands for itself. There is one slot and nothing to be counted. -/
theorem ofPart_number (isNumber : IsNumber cs n) : ofPart cs = .ok [n] := by
  rw [ofPart, splitOnChar_of_not_mem isNumber.1, List.map_singleton, isNumber.2]

/-- Two numbers with a hyphen between them stand for the numbers from one to the other. The text is cut at its hyphen,
and neither of the numbers has one. -/
theorem ofPart_range (isFirst : IsNumber first a) (isLast : IsNumber last b) :
    ofPart (first ++ '-' :: last) = between a b := by
  rw [ofPart, splitOnChar_append, splitOnChar_of_not_mem isFirst.1, splitOnChar_of_not_mem isLast.1,
    List.singleton_append, List.map_cons, List.map_singleton, isFirst.2, isLast.2]

/-- Anything else stands for nothing, and does not stop the reading. -/
theorem ofPart_of_not_isPart (malformed : ¬IsPart part) : ofPart part = .ok [] := by
  have joined := intercalate_splitOnChar '-' part
  have noHyphen {piece : List Char} (member : piece ∈ splitOnChar '-' part) : '-' ∉ piece :=
    not_mem_of_mem_splitOnChar member
  unfold ofPart
  split
  · rename_i n pieces
    obtain ⟨piece, only, isNumber⟩ := List.map_eq_singleton_iff.mp pieces
    rw [only] at joined noHyphen
    rw [List.intercalate_singleton] at joined
    exact absurd (joined ▸ .number ⟨noHyphen List.mem_cons_self, isNumber⟩) malformed
  · rename_i a b pieces
    obtain ⟨first, rest, both, isFirst, others⟩ := List.map_eq_cons_iff.mp pieces
    obtain ⟨last, rfl, isLast⟩ := List.map_eq_singleton_iff.mp others
    rw [both] at joined noHyphen
    rw [List.intercalate_cons_cons, List.intercalate_singleton, List.append_assoc, List.singleton_append] at joined
    exact absurd (joined ▸ .range ⟨noHyphen (by simp), isFirst⟩ ⟨noHyphen (by simp), isLast⟩) malformed
  · rfl

/-- What is between two bounds ascends, without repetition, from the lesser to the greater. It does not matter which
of the bounds was written first. -/
theorem mem_between (given : between a b = .ok slots) :
    slots.Pairwise (· < ·) ∧ ∀ z, z ∈ slots ↔ min a b ≤ z ∧ z ≤ max a b := by
  unfold between at given
  split at given
  · cases given
  · split at given
    · cases given
    · cases given
      refine ⟨List.pairwise_map.mpr ?_, fun z => ?_⟩
      · refine List.pairwise_lt_range.imp fun less => ?_
        omega
      · simp only [List.mem_map, List.mem_range, count]
        constructor
        · rintro ⟨n, inside, rfl⟩
          omega
        · rintro ⟨least, most⟩
          exact ⟨(z - min a b).toNat, by omega, by omega⟩

/-- No slot of a part is negative. Its bounds are numbers without a hyphen. -/
theorem nonneg_of_ofPart (given : ofPart part = .ok slots) (member : z ∈ slots) : 0 ≤ z := by
  by_cases isPart : IsPart part
  · cases isPart with
    | number isNumber =>
      rw [ofPart_number isNumber] at given
      cases given
      rw [List.mem_singleton.mp member]
      exact isNumber.nonneg
    | range isFirst isLast =>
      rw [ofPart_range isFirst isLast] at given
      have least := (((mem_between given).2 z).mp member).1
      have bounds := And.intro isFirst.nonneg isLast.nonneg
      omega
  · rw [ofPart_of_not_isPart isPart] at given
    cases given
    cases member

/-- Two texts with a comma between them stand for the slots of both. If the first is a range without room, the second
is not read. -/
theorem ofChars_append (cs ds : List Char) :
    ofChars (cs ++ ',' :: ds) = (do
      let first ← ofChars cs
      let rest ← ofChars ds
      return first ++ rest) := by
  simp only [ofChars, splitOnChar_append, List.mapM_append, bind_assoc, pure_bind, List.flatten_append]

/-- A text without a comma is one part. It is a number, a range or malformed. -/
theorem ofChars_of_not_mem (single : ',' ∉ cs) : ofChars cs = ofPart cs := by
  rw [ofChars, splitOnChar_of_not_mem single]
  simp only [List.mapM_cons, List.mapM_nil, bind_assoc, pure_bind, List.flatten_cons, List.flatten_nil, List.append_nil]
  exact bind_pure (ofPart cs)

/-- No slot of a text is negative, since none of its parts has such a one. -/
theorem nonneg_of_ofChars (given : ofChars cs = .ok slots) (member : z ∈ slots) : 0 ≤ z := by
  obtain ⟨pieces, ofParts, same⟩ := ok_of_bind given
  cases same
  obtain ⟨piece, isPiece, inside⟩ := List.mem_flatten.mp member
  obtain ⟨part, -, isPart⟩ := mem_of_mapM ofParts isPiece
  exact nonneg_of_ofPart isPart inside

omit [Machine] in
/-- The written form of a natural number has no comma. So the parts of a list of numbers are the numbers. -/
theorem comma_not_mem_naturalText (n : Nat) : ',' ∉ (naturalText n).toList := by
  rw [naturalText, String.toList_ofList]
  exact fun member => absurd (isDigit_of_mem_written member) (by decide)

/-- Short numbers with commas between them stand for themselves. The induction is on the numbers, one comma after the
other. -/
theorem ofChars_intercalate {ns : List Nat} (short : ∀ n ∈ ns, n < Nat.pow 10 digitLimit) :
    ofChars (",".intercalate (ns.map naturalText)).toList = .ok (ns.map fun n : Nat => (n : Int)) := by
  induction ns with
  | nil => rfl
  | cons n ns ih =>
    rw [List.forall_mem_cons] at short
    have one : ofChars (naturalText n).toList = .ok [(n : Int)] := by
      rw [ofChars_of_not_mem (comma_not_mem_naturalText n), ofPart_number (isNumber_naturalText short.1)]
    cases ns with
    | nil => simpa using one
    | cons m ns =>
      have joined : (",".intercalate ((n :: m :: ns).map naturalText)).toList =
          (naturalText n).toList ++ ',' :: (",".intercalate ((m :: ns).map naturalText)).toList := by
        simp [String.intercalate_cons_cons]
      rw [joined, ofChars_append, one, ih short.2]
      rfl

/-- Two short numbers with a hyphen between them stand for what is between them. The text has no comma, so it is a single
part. -/
theorem ofChars_range {a b : Nat} (shortFirst : a < Nat.pow 10 digitLimit) (shortLast : b < Nat.pow 10 digitLimit) :
    ofChars (naturalText a ++ "-" ++ naturalText b).toList = between a b := by
  have written : (naturalText a ++ "-" ++ naturalText b).toList =
      (naturalText a).toList ++ '-' :: (naturalText b).toList := by simp
  have single : ',' ∉ (naturalText a).toList ++ '-' :: (naturalText b).toList := by
    simp [comma_not_mem_naturalText]
  rw [written, ofChars_of_not_mem single,
    ofPart_range (isNumber_naturalText shortFirst) (isNumber_naturalText shortLast)]

omit [Machine] in
/-- What each member of a list gives in one way, if it gives anything, it may be asked for in another. The induction
is on the list. -/
theorem mapM_of_each {α β : Type} {f g : α → Except Failure β} {xs : List α} {ys : List β}
    (each : ∀ x ∈ xs, ∀ y, f x = .ok y → g x = .ok y) (given : xs.mapM f = .ok ys) : xs.mapM g = .ok ys := by
  induction xs generalizing ys with
  | nil => exact given
  | cons x xs ih =>
    rw [List.forall_mem_cons] at each
    rw [List.mapM_cons] at given ⊢
    obtain ⟨first, isFirst, later⟩ := ok_of_bind given
    obtain ⟨others, areOthers, same⟩ := ok_of_bind later
    cases same
    rw [each.1 first isFirst, ih each.2 areOthers]
    rfl

/-- What can be read can be read in the same way where there is room for one more call. The induction is on the number
of calls, at all values at once. -/
theorem ofValueWithin_succ {calls : Nat} {v : Value} (given : ofValueWithin calls v = .ok slots) :
    ofValueWithin (calls + 1) v = .ok slots := by
  induction calls generalizing v slots with
  | zero =>
    unfold ofValueWithin at given ⊢
    generalize v.plain = w at given ⊢
    cases w with
    | text _ => cases given
    | list xs | tuple xs =>
      cases xs with
      | nil => exact given
      | cons x xs => cases given
    | _ => exact given
  | succ calls ih =>
    rw [ofValueWithin] at given ⊢
    split at given
    · exact given
    · exact given
    -- The members of a list and of a tuple are read alike.
    · obtain ⟨pieces, read, same⟩ := ok_of_bind given
      cases same
      rw [mapM_of_each (fun x _ y => ih) read]
      rfl
    · obtain ⟨pieces, read, same⟩ := ok_of_bind given
      cases same
      rw [mapM_of_each (fun x _ y => ih) read]
      rfl
    · exact given

/-- A list is read by the slots of its members, one after another, with one call less. -/
theorem ofValueWithin_list (calls : Nat) (xs : List Value) :
    ofValueWithin (calls + 1) (.list xs) = (do return (← xs.mapM (ofValueWithin calls)).flatten) :=
  rfl

/-- A list whose members can be read one call deeper can be read, and what it gives are their slots. They can
also be read where the list itself is read, since there is room for more calls there. -/
theorem flatten_mapM_of_ofValueWithin {calls : Nat} {xs : List Value}
    (given : ofValueWithin calls (.list xs) = .ok slots) :
    (do return (← xs.mapM (ofValueWithin calls)).flatten) = Except.ok slots := by
  cases calls with
  | zero =>
    cases xs with
    | nil => exact given
    | cons x xs => cases given
  | succ calls =>
    obtain ⟨pieces, read, same⟩ := ok_of_bind given
    cases same
    rw [mapM_of_each (fun x _ y => ofValueWithin_succ) read]
    rfl

/-- A list of a table is read as the list of its members, with the table put to their places. This is how a list that
contains itself is opened, one level at a time. -/
theorem ofValueWithin_place {table members : List Value} {place : Nat} (calls : Nat)
    (isList : table[place]? = some (.list members)) :
    ofValueWithin calls (.loop place table) = ofValueWithin calls (.list (members.map (Value.relink table))) := by
  have stands : (Value.loop place table).plain = .list (members.map (Value.relink table)) := by
    rw [Value.plain, List.getD_eq_getElem?_getD, isList]
    exact congrArg Value.list (Value.replaceInAll_id _ members)
  cases calls with
  | zero =>
    rw [ofValueWithin, stands]
    rfl
  | succ calls =>
    rw [ofValueWithin, stands]
    rfl

/-- Text is a faithful notation for lists of slots, however many calls there is room for. Two texts with a comma
between them stand for the slots of both. Short natural numbers with commas between them stand for themselves. Two of
them with a hyphen between them stand for the integers from the lesser to the greater, ascending and without
repetition, if there is room for so many, and otherwise break off. No slot of a text is negative. A part that is
malformed stands for nothing and changes nothing in front of it or behind. A list or a tuple stands for the slots of
its members one after another, read one call deeper, and where no call is left neither a text nor a list with members
can be read. So what a list gives is also what its members give where the list is read.

Proof: the cutting at commas is an append law, which the first parts go back to. A number, a range and a malformed
part are the three outcomes of one part, and each has its lemma. What can be read can be read with more calls, by
induction on their number. -/
theorem ofValueWithin_faithful (calls : Nat) :
    (∀ s t : String, ofValueWithin calls (.text (s ++ "," ++ t)) = (do
      let first ← ofValueWithin calls (.text s)
      let rest ← ofValueWithin calls (.text t)
      return first ++ rest)) ∧
    (∀ ns : List Nat, (∀ n ∈ ns, n < Nat.pow 10 digitLimit) →
      ofValueWithin (calls + 1) (.text (",".intercalate (ns.map naturalText))) =
        .ok (ns.map fun n : Nat => (n : Int))) ∧
    (∀ a b : Nat, a < Nat.pow 10 digitLimit → b < Nat.pow 10 digitLimit →
      (count a b ≤ Machine.room → ∃ slots,
        ofValueWithin (calls + 1) (.text (naturalText a ++ "-" ++ naturalText b)) = .ok slots ∧
        slots.Pairwise (· < ·) ∧ ∀ z : Int, z ∈ slots ↔ min (a : Int) b ≤ z ∧ z ≤ max (a : Int) b) ∧
      (Machine.room < count a b → ofValueWithin (calls + 1) (.text (naturalText a ++ "-" ++ naturalText b)) =
        .error (if countLimit < count a b then .tooManyMembers else .noRoom))) ∧
    (∀ (s : String) (slots : List Int), ofValueWithin calls (.text s) = .ok slots → ∀ z ∈ slots, 0 ≤ z) ∧
    (∀ part : String, ',' ∉ part.toList → ¬IsPart part.toList → ofValueWithin (calls + 1) (.text part) = .ok [] ∧
      ∀ s : String,
        ofValueWithin (calls + 1) (.text (part ++ "," ++ s)) = ofValueWithin (calls + 1) (.text s) ∧
        ofValueWithin (calls + 1) (.text (s ++ "," ++ part)) = ofValueWithin (calls + 1) (.text s)) ∧
    (∀ xs : List Value,
      ofValueWithin (calls + 1) (.list xs) = (do return (← xs.mapM (ofValueWithin calls)).flatten) ∧
      ofValueWithin (calls + 1) (.tuple xs) = (do return (← xs.mapM (ofValueWithin calls)).flatten)) ∧
    ((∀ s : String, ofValueWithin 0 (.text s) = .error .tooDeep) ∧ ofValueWithin 0 (.list []) = .ok [] ∧
      ∀ (x : Value) (xs : List Value), ofValueWithin 0 (.list (x :: xs)) = .error .tooDeep) ∧
    (∀ (xs : List Value) (slots : List Int), ofValueWithin calls (.list xs) = .ok slots →
      (do return (← xs.mapM (ofValueWithin calls)).flatten) = Except.ok slots) ∧
    (∀ (table members : List Value) (place : Nat), table[place]? = some (.list members) →
      ofValueWithin calls (.loop place table) =
        ofValueWithin calls (.list (members.map (Value.relink table)))) := by
  have text (calls : Nat) (s : String) : ofValueWithin (calls + 1) (.text s) = ofChars s.toList := rfl
  have appended (calls : Nat) (s t : String) : ofValueWithin (calls + 1) (.text (s ++ "," ++ t)) = (do
      let first ← ofValueWithin (calls + 1) (.text s)
      let rest ← ofValueWithin (calls + 1) (.text t)
      return first ++ rest) := by
    have joined : (s ++ "," ++ t).toList = s.toList ++ ',' :: t.toList := by simp
    rw [text, text, text, joined, ofChars_append]
  refine ⟨fun s t => ?appended, fun ns => ofChars_intercalate, ?range, fun s slots given z => ?nonneg, ?malformed,
    fun xs => ⟨ofValueWithin_list calls xs, rfl⟩, ⟨fun s => rfl, rfl, fun x xs => rfl⟩,
    fun xs slots => flatten_mapM_of_ofValueWithin,
    fun table members place => ofValueWithin_place calls⟩
  case appended =>
    cases calls with
    | zero => rfl
    | succ calls => exact appended calls s t
  case range =>
    intro a b shortFirst shortLast
    rw [text, ofChars_range shortFirst shortLast]
    refine ⟨fun fits => ?_, between_of_wide⟩
    obtain ⟨slots, given⟩ := exists_slots_between fits
    exact ⟨slots, given, mem_between given⟩
  case nonneg =>
    cases calls with
    | zero => cases given
    | succ calls => exact nonneg_of_ofChars given
  case malformed =>
    intro part single malformed
    have nothing : ofValueWithin (calls + 1) (.text part) = .ok [] :=
      (ofChars_of_not_mem single).trans (ofPart_of_not_isPart malformed)
    refine ⟨nothing, fun s => ⟨?_, ?_⟩⟩
    · rw [appended, nothing]
      exact bind_pure (ofValueWithin (calls + 1) (.text s))
    · rw [appended, nothing]
      exact (bind_congr fun first => congrArg Except.ok (List.append_nil first)).trans (bind_pure _)

/-- A slot inside so many lists. -/
def nested : Nat → Value
  | 0 => .int 0
  | n + 1 => .list [nested n]

/-- A slot inside lists can be read exactly if there is a call for each of the lists. The induction is on the calls. -/
theorem ofValueWithin_nested (calls n : Nat) :
    ofValueWithin calls (nested n) = if n ≤ calls then .ok [0] else .error .tooDeep := by
  induction calls generalizing n with
  | zero => cases n <;> rfl
  | succ calls ih =>
    cases n with
    | zero => rfl
    | succ n =>
      rw [nested, ofValueWithin_list, List.mapM_cons, ih]
      split <;> rename_i inside
      · rw [if_pos (Nat.succ_le_succ inside)]
        rfl
      · rw [if_neg fun outside => inside (Nat.le_of_succ_le_succ outside)]
        rfl

/-- A list that is its own member cannot be read, however many calls there is room for. The induction is on the calls,
each of which comes to the same list again. -/
theorem ofValueWithin_circle (calls : Nat) :
    ofValueWithin calls (.loop 0 [.list [.loop 0 []]]) = .error .tooDeep := by
  induction calls with
  | zero => rfl
  | succ calls ih =>
    rw [ofValueWithin_place (calls + 1) rfl, ofValueWithin_list, List.map_singleton, List.mapM_cons]
    have again : Value.relink [.list [.loop 0 []]] (.loop 0 []) = .loop 0 [.list [.loop 0 []]] := rfl
    rw [again, ih]
    rfl

end

/-- A list of a document that is not inside itself, though a mapping in it leads back to it. -/
def shelfTable : List Value := [.list [.int 3, .map [(.text "shelf", .loop 0 [])]]]

/-- For numbers, a range downward, a range without room, malformed parts, and a list that leads back to itself through
a mapping, the reading gives what they stand for. -/
theorem ofValueWithin_shelf :
    ofValueWithin 1 (.text (",".intercalate ([10, 2, 33].map naturalText))) = .ok [10, 2, 33] ∧
    (∃ slots, ofValueWithin 1 (.text (naturalText 4 ++ "-" ++ naturalText 2)) = .ok slots ∧
      slots.Pairwise (· < ·) ∧ ∀ z, z ∈ slots ↔ 2 ≤ z ∧ z ≤ 4) ∧
    ofValueWithin 1 (.text (naturalText 0 ++ "-" ++ naturalText 1073741824)) = .error .noRoom ∧
    (ofValueWithin 1 (.text "-5, 8") = .ok [8] ∧ ∀ z ∈ [(8 : Int)], 0 ≤ z) ∧
    ofValueWithin 1 (.text ("x" ++ "," ++ "8")) = ofValueWithin 1 (.text "8") ∧
    (do return (← [Value.int 3, .text "8"].mapM (ofValueWithin 2)).flatten) = Except.ok [3, 8] ∧
    ofValueWithin 1 (.loop 0 shelfTable) =
      ofValueWithin 1 (.list ([Value.int 3, .map [(.text "shelf", .loop 0 [])]].map (Value.relink shelfTable))) := by
  obtain ⟨-, numbers, ranges, -, malformed, -⟩ := ofValueWithin_faithful 0
  obtain ⟨-, -, -, nonneg, -, -, -, -, places⟩ := ofValueWithin_faithful 1
  obtain ⟨-, -, -, -, -, -, -, members, -⟩ := ofValueWithin_faithful 2
  have noPart : ¬IsPart "x".toList := by
    intro isPart
    generalize same : "x".toList = part at isPart
    cases isPart with
    | number isNumber =>
      subst same
      cases isNumber.2
    | range => exact absurd (same ▸ by simp : '-' ∈ "x".toList) (by decide)
  exact ⟨numbers [10, 2, 33] (by decide +kernel), (ranges 4 2 (by decide +kernel) (by decide +kernel)).1 (by decide),
    (ranges 0 1073741824 (by decide +kernel) (by decide +kernel)).2 (by decide),
    ⟨rfl, nonneg "-5, 8" [8] rfl⟩, ((malformed "x" (by decide) noPart).2 "8").1,
    members [.int 3, .text "8"] [3, 8] rfl, places shelfTable _ 0 rfl⟩

/-- A range of too many slots is not read. Neither is a list that is inside itself, and neither is a slot inside a
thousand lists, though that list has an end. -/
theorem ofValue_endless :
    9223372036854775807 < Nat.pow 10 digitLimit ∧
    ofValue (.text (naturalText 0 ++ "-" ++ naturalText 9223372036854775807)) = .error .tooManyMembers ∧
    ofValue (.loop 0 [.list [.loop 0 []]]) = .error .tooDeep ∧ ofValue (nested 1000) = .error .tooDeep :=
  ⟨by decide +kernel, rfl, ofValueWithin_circle 971,
    (ofValueWithin_nested 971 1000).trans (if_neg (by decide))⟩

end ChestMenu.Slots
