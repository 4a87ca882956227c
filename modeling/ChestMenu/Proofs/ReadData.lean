import ChestMenu.Menu.Directory
import ChestMenu.Proofs.Endings
import ChestMenu.Proofs.PlainData

/-!
# What is read from a text is plain data

A JSON text has no circles in it. In a YAML text every collection is at first
a place in a table; that the table holds only collections, and in them scalars and places, is kept by every step, and
at the end the places give way to what they hold.
-/
namespace ChestMenu

section

variable {P Q : Value → Prop} {pairs : List (Value × Value)}

/-- A pair that is entered keeps what holds of all keys and of all values. The key of a pair that is replaced stays,
and its value gives way. -/
theorem Value.forall_insertPair {key value : Value} (all : ∀ pair ∈ pairs, P pair.1 ∧ Q pair.2) (isKey : P key)
    (isValue : Q value) : ∀ pair ∈ insertPair key value pairs, P pair.1 ∧ Q pair.2 := by
  induction pairs with
  | nil => exact List.forall_mem_singleton.mpr ⟨isKey, isValue⟩
  | cons pair pairs ih =>
    obtain ⟨first, others⟩ := List.forall_mem_cons.mp all
    unfold insertPair
    split
    · exact List.forall_mem_cons.mpr ⟨⟨first.1, isValue⟩, others⟩
    · exact List.forall_mem_cons.mpr ⟨first, ih others⟩

/-- What holds of all keys and of all values in a list of pairs holds of those in the mapping of them. -/
theorem Value.forall_ofPairs (all : ∀ pair ∈ pairs, P pair.1 ∧ Q pair.2) :
    ∀ pair ∈ ofPairs pairs, P pair.1 ∧ Q pair.2 := by
  have entered : ∀ before : List (Value × Value), (∀ pair ∈ before, P pair.1 ∧ Q pair.2) →
      ∀ pair ∈ pairs.foldl (fun entered pair => insertPair pair.1 pair.2 entered) before, P pair.1 ∧ Q pair.2 := by
    induction pairs with
    | nil => exact fun _ holds => holds
    | cons pair pairs ih =>
      intro before holds
      obtain ⟨first, others⟩ := List.forall_mem_cons.mp all
      exact ih others _ (forall_insertPair holds first.1 first.2)
  exact entered [] (by simp)

end

namespace Markup.Json

/-- What is no array and no object is a scalar. It is a text, a number or one of the three words. -/
theorem isScalar_of_readScalar? {cs rest : List Char} {v : Value} (read : readScalar? cs = some (v, rest)) :
    v.IsScalar := by
  have number {run : Option (List Char × List Char)} {isWhole : List Char × List Char → Prop} [DecidablePred isWhole]
      {n : List Char × List Char → Option Int} {x : List Char × List Char → Option Float}
      {behind : List Char × List Char → List Char}
      (read : (run.bind fun r => if isWhole r then (n r).bind fun n => some (.int n, behind r)
        else (x r).bind fun x => some (.real x, behind r)) = some (v, rest)) : v.IsScalar := by
    obtain ⟨r, -, read⟩ := Option.bind_eq_some_iff.mp read
    split at read
    · obtain ⟨n, -, ⟨⟩⟩ := Option.bind_eq_some_iff.mp read
      exact .int n
    · obtain ⟨x, -, ⟨⟩⟩ := Option.bind_eq_some_iff.mp read
      exact .real x
  unfold readScalar? at read
  split at read
  · obtain ⟨⟨text, more⟩, -, same⟩ := Option.bind_eq_some_iff.mp read
    cases same
    exact .text _
  · simp only [Option.or_eq_some_iff, Option.map_eq_some_iff] at read
    obtain ⟨_, -, ⟨⟩⟩ | ⟨-, ⟨_, -, ⟨⟩⟩ | ⟨-, ⟨_, -, ⟨⟩⟩ | ⟨-, ⟨_, -, ⟨⟩⟩ | ⟨-, ⟨_, -, ⟨⟩⟩ |
      ⟨-, ⟨_, -, ⟨⟩⟩ | ⟨-, read⟩⟩⟩⟩⟩⟩ := read
    · exact .null
    · exact .bool true
    · exact .bool false
    · exact .real _
    · exact .real _
    · exact .real _
    · -- The digits of a number are a zero, none or several.
      unfold readNumber? at read
      dsimp only at read
      split at read
      · exact number read
      · split at read
        · exact number read
        · exact number read

/-- Values, members of arrays and members of objects are data, however far they are read. The induction is on the
fuel, for the three of them together, as each of them reads the others. -/
theorem isData_of_read (fuel : Nat) :
    (∀ room cs, Gives (fun found => found.1.IsData False) (readValue fuel room cs)) ∧
    (∀ room cs, Gives (fun found => ∀ x ∈ found.1, x.IsData False) (readMembers fuel room cs)) ∧
    ∀ room cs, Gives (fun found => ∀ pair ∈ found.1, pair.1.IsData False ∧ pair.2.IsData False)
      (readPairs fuel room cs) := by
  induction fuel with
  | zero =>
    refine ⟨fun room cs found read => ?_, fun room cs found read => ?_, fun room cs found read => ?_⟩
    · rw [readValue] at read
      cases read
    · rw [readMembers] at read
      cases read
    · rw [readPairs] at read
      cases read
  | succ fuel ih =>
    obtain ⟨value, members, pairs⟩ := ih
    refine ⟨fun room cs => ?_, fun room cs => ?_, fun room cs => ?_⟩
    · unfold readValue
      split
      · refine gives_bind fun room _ => ?_
        split
        · exact gives_pure (.list (by simp))
        · exact gives_bind fun found read => gives_pure (.list (members _ _ found read))
      · refine gives_bind fun room _ => ?_
        split
        · exact gives_pure (.map (by simp) (by simp))
        · refine gives_bind fun found read => gives_pure ?_
          have all := Value.forall_ofPairs (pairs _ _ found read)
          exact .map (fun pair member => (all pair member).1) fun pair member => (all pair member).2
      · rintro ⟨v, rest⟩ read
        exact .scalar (isScalar_of_readScalar? (orMalformed_eq_ok_iff.mp read))
    · unfold readMembers
      refine gives_bind fun first isFirst => ?_
      have isData := value _ _ first isFirst
      dsimp only
      split
      · refine gives_bind fun others areOthers => gives_pure ?_
        exact List.forall_mem_cons.mpr ⟨isData, members _ _ others areOthers⟩
      · exact gives_pure (List.forall_mem_singleton.mpr isData)
      · exact fun _ failed => nomatch failed
    · unfold readPairs
      split
      · refine gives_bind fun name _ => ?_
        dsimp only
        split
        · refine gives_bind fun first isFirst => ?_
          have isData := value _ _ first isFirst
          split
          · refine gives_bind fun others areOthers => gives_pure ?_
            exact List.forall_mem_cons.mpr ⟨⟨.scalar (.text _), isData⟩, pairs _ _ others areOthers⟩
          · exact gives_pure (List.forall_mem_singleton.mpr ⟨.scalar (.text _), isData⟩)
          · exact fun _ failed => nomatch failed
        · exact fun _ failed => nomatch failed
      · exact fun _ failed => nomatch failed

/-- What a JSON text stands for is data without circles, since nothing in such a text can be referred to. -/
theorem isData_read [Machine] (cs : List Char) : Gives (·.IsData False) (read cs) := by
  unfold read
  refine gives_bind fun found isFound => ?_
  dsimp only
  split
  · exact gives_pure ((isData_of_read _).1 _ _ found isFound)
  · exact fun _ failed => nomatch failed

end Markup.Json

namespace Markup.Yaml

section

variable {v : Value} {fault : Fault}

/-- A scalar gives a scalar. -/
theorem gives_scalar (scalar : v.IsScalar) : Gives Value.IsScalar (.ok v : Except Fault Value) :=
  gives_pure scalar

/-- A fault gives anything, as there is no value then. -/
theorem gives_fault : Gives Value.IsScalar (.error fault : Except Fault Value) :=
  fun _ failed => nomatch failed

end

/-- What is read for a truth value is a scalar. -/
theorem isScalar_readBool (text : String) : Gives Value.IsScalar (readBool text) := by
  unfold readBool
  dsimp only
  split
  · exact gives_scalar (.bool true)
  · split
    · exact gives_scalar (.bool false)
    · exact gives_fault

/-- What is read for an integer is a scalar, in whatever base it is written. -/
theorem isScalar_readInt (text : String) : Gives Value.IsScalar (readInt text) := by
  unfold readInt
  refine gives_bind fun signed _ => ?_
  have whole {n : Except Fault Int} :
      Gives Value.IsScalar (n >>= fun n => pure (Value.int (if signed.1 then -n else n))) :=
    gives_bind fun _ _ => gives_pure (.int _)
  dsimp only
  split
  · exact whole
  · exact whole
  · exact whole
  · exact whole
  · exact gives_bind fun _ _ => whole

/-- What is read for a number with a fraction is a scalar, be it infinite or none. -/
theorem isScalar_readFloat (text : String) : Gives Value.IsScalar (readFloat text) := by
  unfold readFloat
  refine gives_bind fun signed _ => ?_
  dsimp only
  split
  · exact gives_scalar (.real _)
  · split
    · exact gives_scalar (.real _)
    · split
      · exact gives_bind fun _ _ => gives_bind fun _ _ => gives_pure (.real _)
      · exact gives_bind fun _ _ => gives_pure (.real _)

/-- What is read for a point in time is a scalar, with a time of the day or without. -/
theorem isScalar_readTimestamp (text : String) : Gives Value.IsScalar (readTimestamp text) := by
  unfold readTimestamp
  split
  · exact gives_fault
  · split
    · exact gives_fault
    · exact gives_scalar (.date _)
    · intro v read
      obtain ⟨moment, -, rfl⟩ := Option.map_eq_some_iff.mp (found_eq_ok_iff.mp read)
      exact .moment moment

/-- What is read for bytes is a scalar. -/
theorem isScalar_readBinary (text : String) : Gives Value.IsScalar (readBinary text) := by
  unfold readBinary
  split
  · exact gives_fault
  · intro v read
    obtain ⟨bytes, -, rfl⟩ := Option.map_eq_some_iff.mp (found_eq_ok_iff.mp read)
    exact .bytes bytes

/-- What a scalar stands for, whatever its tag, is a scalar. The cases are those of the tags. -/
theorem isScalar_readScalar (tag : Tag) (text : String) : Gives Value.IsScalar (readScalar tag text) := by
  unfold readScalar
  split
  · exact gives_scalar .null
  · exact isScalar_readBool text
  · exact isScalar_readInt text
  · exact isScalar_readFloat text
  · exact isScalar_readTimestamp text
  · exact isScalar_readBinary text
  · exact gives_scalar (.text text)
  · exact gives_fault

end Markup.Yaml

/-- What a place of a table holds: nothing, or a collection of data. -/
inductive Value.IsContent : Value → Prop
  | null : IsContent .null
  | list {xs : List Value} (all : ∀ x ∈ xs, x.IsData True) : IsContent (.list xs)
  | set {xs : List Value} (all : ∀ x ∈ xs, x.IsData True) : IsContent (.set xs)
  | map {pairs : List (Value × Value)} (all : ∀ pair ∈ pairs, pair.1.IsData True ∧ pair.2.IsData True) :
      IsContent (.map pairs)

namespace Value

/-- What a place holds is data: a list, a set or a mapping of data, or null. -/
theorem IsContent.isData {v : Value} (content : v.IsContent) : v.IsData True := by
  cases content with
  | null => exact .scalar .null
  | list all => exact .list all
  | set all => exact .set all
  | map all => exact .map (fun pair member => (all pair member).1) fun pair member => (all pair member).2

/-- The only scalar that a place holds is null. All others are collections. -/
theorem IsContent.eq_null {v : Value} (content : v.IsContent) (scalar : v.IsScalar) : v = .null := by
  cases content with
  | null => rfl
  | list _ | set _ | map _ => cases scalar

/-- A place holds a collection also when data is put in the place of the places in it. It is still of the same kind. -/
theorem IsContent.replaced {v : Value} {put : Nat → Value} (puts : ∀ place, (put place).IsData True)
    (content : v.IsContent) : (replacePlaces (m := Id) put v).IsContent := by
  have isData := content.isData.replaced puts
  cases content with
  | null => exact .null
  | list all =>
    change IsContent (.list (replaceInAll (m := Id) put _))
    change IsData True (.list (replaceInAll (m := Id) put _)) at isData
    cases isData with
    | scalar scalar => cases scalar
    | list all => exact .list all
  | set all => exact .set all
  | map all =>
    change IsContent (.map (replaceInPairs (m := Id) put _))
    change IsData True (.map (replaceInPairs (m := Id) put _)) at isData
    cases isData with
    | scalar scalar => cases scalar
    | map keys values => exact .map fun pair member => ⟨keys pair member, values pair member⟩

end Value

/-- What an array has at a place where it may have nothing is one of its members. Beyond the end it has nothing. -/
theorem Markup.Yaml.mem_of_getD {α : Type} {xs : Array (Option α)} {place : Nat} {a : α}
    (found : xs.getD place none = some a) : some a ∈ xs := by
  rw [Array.getD_eq_getD_getElem?] at found
  cases held : xs[place]? with
  | none =>
    rw [held] at found
    cases found
  | some x =>
    rw [held] at found
    cases found
    exact Array.mem_of_getElem? held

namespace Markup.Yaml.Construction

/-- The values of the nodes that were met are data, and what the collections hold is, too. -/
structure HasData (s : Construction) : Prop where
  values : ∀ v, some v ∈ s.values → v.IsData True
  contents : ∀ v ∈ s.contents, v.IsContent

/-- A step keeps the values data, and what it gives has a property. -/
abbrev Yields {α : Type} (P : α → Prop) (step : Construct α) : Prop :=
  Leads HasData (fun _ => True) P step

/-- A fault yields anything, and changes no value. -/
theorem yields_throw {α : Type} {P : α → Prop} (fault : Fault) : Yields P (throw fault) :=
  leads_throw fun _ _ => trivial

/-- Looking at a node changes no value. -/
theorem yields_nodeAt (place : Nat) : Yields (fun _ => True) (nodeAt place) :=
  leads_bind leads_get fun _ _ => leads_pure trivial

/-- Changing a node changes no value. -/
theorem yields_setNode (place : Nat) (node : Node) : Yields (fun _ => True) (setNode place node) :=
  leads_modify fun _ data => ⟨data.values, data.contents⟩

/-- Looking for a key changes no value. -/
theorem yields_findKey? (tag : Tag) (pairs : List (Nat × Nat)) : Yields (fun _ => True) (findKey? tag pairs) := by
  induction pairs with
  | nil => exact leads_pure trivial
  | cons pair pairs ih =>
    unfold findKey?
    refine leads_bind (yields_nodeAt _) fun _ _ => ?_
    split
    · exact leads_pure trivial
    · exact leads_bind ih fun _ _ => leads_pure trivial

/-- Making texts of the keys that stand for the default of a mapping changes no value. The induction is on the pairs. -/
theorem yields_settleDefaults (pairs : List (Nat × Nat)) : Yields (fun _ => True) (settleDefaults pairs) := by
  induction pairs with
  | nil => exact leads_pure trivial
  | cons pair pairs ih =>
    have first : Yields (fun _ => True) (do
        let node ← nodeAt pair.1
        if node.tag = .defaultValue then setNode pair.1 (node.withTag .str)) := by
      refine leads_bind (yields_nodeAt _) fun node _ => ?_
      split
      · exact yields_setNode _ _
      · exact leads_pure trivial
    exact leads_bind first fun _ _ => ih

/-- Merging changes nodes, but no values. The induction is on the fuel. -/
theorem yields_merge (fuel : Nat) (brought : List (Nat × Nat)) (place : Nat) :
    Yields (fun _ => True) (merge fuel brought place) := by
  induction fuel generalizing brought place with
  | zero => exact yields_throw _
  | succ fuel ih =>
    unfold merge
    refine leads_bind (yields_nodeAt _) fun node _ => ?_
    split
    · refine leads_bind (yields_findKey? _ _) fun found _ => ?_
      split
      · exact leads_bind (yields_settleDefaults _) fun _ _ => yields_setNode _ _
      · refine leads_bind (yields_setNode _ _) fun _ _ => ?_
        refine leads_bind (yields_nodeAt _) fun node _ => ?_
        split
        · refine leads_bind (P := fun _ => True) (leads_bind (ih _ _) fun _ _ => ?_) fun _ _ => ih _ _
          refine leads_bind (yields_nodeAt _) fun node _ => ?_
          split
          · exact leads_pure trivial
          · exact yields_throw _
        · refine leads_bind (leads_mapM (Q := fun _ => True) (fun item => leads_bind (ih _ _) fun _ _ => ?_) _)
            fun _ _ => ih _ _
          refine leads_bind (yields_nodeAt _) fun node _ => ?_
          split
          · exact leads_pure trivial
          · exact yields_throw _
        · exact yields_throw _
    · exact yields_throw _

/-- Finding the text of a node that stands for another changes no value. The induction is on the fuel. -/
theorem yields_scalarText (fuel place : Nat) : Yields (fun _ => True) (scalarText fuel place) := by
  induction fuel generalizing place with
  | zero => exact yields_throw _
  | succ fuel ih =>
    unfold scalarText
    refine leads_bind (yields_nodeAt _) fun node _ => ?_
    split
    · exact leads_pure trivial
    · exact yields_throw _
    · refine leads_bind (yields_findKey? _ _) fun found _ => ?_
      split
      · exact ih _
      · exact yields_throw _

/-- The value of a node is data: a scalar, or the place of a collection. It is only entered among the values once it
is complete. -/
theorem yields_valueOf [Machine] (place : Nat) : Yields (·.IsData True) (valueOf place) := by
  -- A new value is noted before it is given.
  have noted {step : Construct Value} (yields : Yields (·.IsData True) step) :
      Yields (·.IsData True) (step >>= fun value => do
        modify fun s => { s with values := s.values.setIfInBounds place (some value) }
        return value) := by
    refine leads_bind yields fun value isData => leads_bind (leads_modify fun s data => ⟨fun v member => ?_, ?_⟩)
      fun _ _ => leads_pure isData
    · rcases Array.mem_or_eq_of_mem_setIfInBounds member with before | same
      · exact data.values v before
      · cases same
        exact isData
    · exact data.contents
  have met {step : Construct Value} (yields : Yields (·.IsData True) step) :
      Yields (·.IsData True) ((modify fun s => { s with met := s.met.push place }) >>= fun _ => step) :=
    leads_bind (leads_modify fun _ data => ⟨data.values, data.contents⟩) fun _ _ => yields
  have isPlace : (Value.loop place []).IsData True := .loop place trivial (by simp) (by simp)
  unfold valueOf
  refine leads_bind leads_get fun s data => ?_
  split
  · rename_i value found
    exact leads_pure (data.values value (mem_of_getD found))
  · refine leads_bind (yields_nodeAt _) fun node _ => ?_
    dsimp only
    split
    · exact met (noted (leads_pure isPlace))
    · exact met (noted (leads_pure isPlace))
    · exact met (noted (leads_pure isPlace))
    · exact met (noted (leads_pure isPlace))
    · exact met (noted (leads_pure isPlace))
    · exact noted (yields_throw _)
    · exact noted (yields_throw _)
    · exact noted (yields_throw _)
    · refine leads_bind (yields_scalarText _ _) fun text _ => ?_
      split
      · exact noted (yields_throw _)
      · exact noted (leads_result (fun v read => .scalar (isScalar_readScalar _ _ v read)) fun _ _ _ _ => trivial)

/-- The keys and the values of the pairs of a mapping are data. Both are values of nodes, taken in the order of the
text. -/
theorem yields_pairsOf [Machine] (pairs : List (Nat × Nat)) :
    Yields (fun found => ∀ pair ∈ found, pair.1.IsData True ∧ pair.2.IsData True) (pairsOf pairs) := by
  refine leads_foldlM (by simp) fun pair _ entered holds => ?_
  refine leads_bind (yields_valueOf _) fun key isKey => ?_
  have isEntered : Yields (fun found => ∀ pair ∈ found, pair.1.IsData True ∧ pair.2.IsData True)
      (do return Value.insertPair key (← valueOf pair.2) entered) :=
    leads_bind (yields_valueOf _) fun value isValue => leads_pure (Value.forall_insertPair holds isKey isValue)
  split
  · exact leads_bind (yields_throw (P := fun _ => True) _) fun _ _ => isEntered
  · exact isEntered

/-- What a list of mappings of one pair each yields is data: each pair is a tuple of two values. -/
theorem yields_singlePairsOf [Machine] (items : List Nat) :
    Yields (fun found => ∀ x ∈ found, x.IsData True) (singlePairsOf items) := by
  refine leads_mapM (fun item => leads_bind (yields_nodeAt _) fun node _ => ?_) items
  split
  · refine leads_bind (yields_valueOf _) fun key isKey => leads_bind (yields_valueOf _) fun value isValue => ?_
    exact leads_pure (.tuple (by simp [isKey, isValue]))
  · exact yields_throw _

/-- Taking the pairs of a mapping, with those that it merges, changes no value. -/
theorem yields_mergedPairs (place : Nat) : Yields (fun _ => True) (mergedPairs place) := by
  unfold mergedPairs
  refine leads_bind (yields_nodeAt _) fun node _ => ?_
  split
  · refine leads_bind leads_get fun s _ => leads_bind (yields_merge _ _ _) fun _ _ => ?_
    refine leads_bind (yields_nodeAt _) fun node _ => ?_
    split
    · exact leads_pure trivial
    · exact yields_throw _
  · exact yields_throw _

/-- A collection holds data. Its members are values of nodes, whichever kind of collection it is. -/
theorem yields_contentOf [Machine] (place : Nat) : Yields Value.IsContent (contentOf place) := by
  unfold contentOf
  refine leads_bind (yields_nodeAt _) fun node _ => ?_
  split
  · exact leads_bind (yields_mergedPairs _) fun _ _ => leads_bind (yields_pairsOf _) fun _ all =>
      leads_pure (.map all)
  · refine leads_bind (yields_mergedPairs _) fun _ _ => leads_bind (yields_pairsOf _) fun _ all =>
      leads_pure (.set fun key member => ?_)
    obtain ⟨pair, isPair, rfl⟩ := List.mem_map.mp ((Machine.arrange_perm _).mem_iff.mp member)
    exact (all pair isPair).1
  · exact leads_bind (leads_mapM yields_valueOf _) fun _ all => leads_pure (.list all)
  · exact leads_bind (yields_singlePairsOf _) fun _ all => leads_pure (.list all)
  · exact leads_bind (yields_singlePairsOf _) fun _ all => leads_pure (.list all)
  · exact yields_throw _

/-- Filling the places one after another changes nothing but what they hold. The induction is on the fuel. -/
theorem yields_fill [Machine] (filled fuel : Nat) : Yields (fun _ => True) (fill filled fuel) := by
  induction fuel generalizing filled with
  | zero => exact leads_pure trivial
  | succ fuel ih =>
    unfold fill
    refine leads_bind leads_get fun s _ => ?_
    split
    · exact leads_pure trivial
    · refine leads_bind (yields_contentOf _) fun content isContent => ?_
      refine leads_bind (leads_modify fun s data => ⟨data.values, fun v member => ?_⟩) fun _ _ => ih _
      rcases Array.mem_or_eq_of_mem_setIfInBounds member with before | rfl
      · exact data.contents v before
      · exact isContent

end Markup.Yaml.Construction

namespace Markup.Yaml

section

variable {contents : Array Value} {known : Array (Option Value)}

/-- What a place holds that is known now was known, or all its members were. Either way it is data. -/
theorem isData_of_mem_settleOnce (isContent : ∀ v ∈ contents, v.IsContent)
    (isData : ∀ v, some v ∈ known → v.IsData True) : ∀ v, some v ∈ settleOnce contents known → v.IsData True := by
  unfold settleOnce
  induction List.range contents.size with
  | nil => exact isData
  | cons place places ih =>
    rw [List.foldr_cons]
    split
    · exact ih
    · intro v member
      rcases Array.mem_or_eq_of_mem_setIfInBounds member with before | same
      · exact ih v before
      · have content : (contents.getD place .null).IsData True := by
          rw [Array.getD_eq_getD_getElem?]
          cases held : contents[place]? with
          | none => exact .scalar .null
          | some content => exact (isContent content (Array.mem_of_getElem? held)).isData
        exact content.replaced? (fun _ x found => ih x (mem_of_getD found)) same.symm

/-- What is known of the places in the end is data. The induction is on the fuel, with one step for each time that
something becomes known. -/
theorem isData_of_mem_settle (isContent : ∀ v ∈ contents, v.IsContent) (fuel : Nat)
    (isData : ∀ v, some v ∈ known → v.IsData True) : ∀ v, some v ∈ settle contents fuel known → v.IsData True := by
  induction fuel generalizing known with
  | zero => exact isData
  | succ fuel ih =>
    unfold settle
    dsimp only
    split
    · exact isData
    · exact ih (isData_of_mem_settleOnce isContent isData)

/-- With what its places hold, data is data, whether they lead into circles or not. Places that lead into circles keep
the table, and all others give way to what they hold. -/
theorem isData_unfold (isContent : ∀ v ∈ contents, v.IsContent) {value : Value} (isData : value.IsData True) :
    (Yaml.unfold contents value).IsData True := by
  have known : ∀ v, some v ∈ settle contents contents.size (.replicate contents.size none) → v.IsData True := by
    refine isData_of_mem_settle isContent _ fun v member => ?_
    cases (Array.mem_replicate.mp member).2
  have put {table : List Value} (all : ∀ x ∈ table, x.IsContent) (place : Nat) :
      (((settle contents contents.size (.replicate contents.size none)).getD place none).getD
        (.loop place table)).IsData True := by
    cases found : (settle contents contents.size (.replicate contents.size none)).getD place none with
    | none => exact .loop place trivial (fun x member => (all x member).eq_null) fun x member => (all x member).isData
    | some v => exact known v (mem_of_getD found)
  refine isData.replaced (put fun x member => ?_)
  obtain ⟨content, isMember, rfl⟩ := List.mem_map.mp member
  exact (isContent content (Array.mem_toList_iff.mp isMember)).replaced (put (by simp))

end

/-- What a YAML text stands for is data, in which there may be circles. A node may stand in more than one place of
such a text, also inside itself. -/
theorem isData_read [Machine] (cs : List Char) : Gives (·.IsData True) (read cs) := by
  unfold read
  refine gives_bind fun found _ => ?_
  cases found with
  | none => exact gives_pure (.scalar .null)
  | some table =>
    have start : (Construction.start table.nodes).HasData := by
      refine ⟨fun v member => ?_, fun v member => ?_⟩
      · cases (Array.mem_replicate.mp member).2
      · rw [(Array.mem_replicate.mp member).2]
        exact .null
    have constructed := leads_bind (Construction.yields_valueOf table.root) fun value isData =>
      leads_bind (Construction.yields_fill 0 table.nodes.size) fun _ _ => leads_pure isData
    refine gives_bind fun value given => gives_pure ?_
    obtain ⟨isData, kept⟩ := constructed.answered _ start value _ (Prod.ext given rfl)
    exact isData_unfold kept.contents isData

end Markup.Yaml

/-- Data without circles is data, whether circles are allowed or not. The induction is on the data. -/
theorem Value.IsData.mono {circles : Prop} {v : Value} (data : v.IsData False) : v.IsData circles := by
  induction data with
  | scalar scalar => exact .scalar scalar
  | list _ ih => exact .list ih
  | tuple _ ih => exact .tuple ih
  | set _ ih => exact .set ih
  | map _ _ keys values => exact .map keys values
  | loop _ circular => exact circular.elim

/-- The document of a file is a mapping, and it is data. Whatever else a file may hold is turned down when it is
read. -/
theorem isData_of_readDocument [Machine] {name : String} {content : FileContent} {document : Value}
    (read : readDocument name content = .ok document) :
    ∃ pairs, document = .map pairs ∧ (Value.map pairs).IsData True := by
  have isMapping {value : Value} {pairs : List (Value × Value)} (isData : value.IsData True)
      (isMap : value.plain = .map pairs) : (Value.map pairs).IsData True :=
    isMap ▸ isData.plain
  unfold readDocument at read
  cases characters : content.chars? with
  | none =>
    rw [characters] at read
    cases read
  | some cs =>
    rw [characters] at read
    dsimp only at read
    -- In either format what is no mapping is refused; an empty text in the second is replaced first.
    split at read
    · obtain ⟨value, isRead, read⟩ := ok_of_bind read
      have isData : value.IsData True := (Markup.Json.isData_read cs value isRead).mono
      split at read
      · rename_i pairs isMap
        cases read
        exact ⟨pairs, rfl, isMapping isData isMap⟩
      · cases read
    · obtain ⟨value, isRead, read⟩ := ok_of_bind read
      obtain ⟨given, isGiven, read⟩ := ok_of_bind read
      have isData : given.IsData True := by
        cases isGiven
        split
        · exact Markup.Yaml.isData_read cs value isRead
        · exact .map (by simp) (by simp)
      split at read
      · rename_i pairs isMap
        cases read
        exact ⟨pairs, rfl, isMapping isData isMap⟩
      · cases read

end ChestMenu
