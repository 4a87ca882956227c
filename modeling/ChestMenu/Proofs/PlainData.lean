import ChestMenu.Proofs.Loaded

/-!
# Plain data

A JSON or a YAML text stands for plain data, without objects that have a manner of their own. Every such value is
either true or false, and only an infinite number has no integer part that a default could not stand for.

Data without circles, as all of JSON is, has a text exactly if no integer in it is too long to be written and no list
or mapping is nested too deep. It can be read as slots exactly if no text in it asks for a range of more slots than
there is room for and none of its lists is nested too deep.
-/
namespace ChestMenu

open ChestMenu.Number ChestMenu.Text

/-- What is neither a list nor a mapping. -/
inductive Value.IsScalar : Value → Prop
  | null : IsScalar .null
  | bool (b : Bool) : IsScalar (.bool b)
  | int (n : Int) : IsScalar (.int n)
  | real (x : Float) : IsScalar (.real x)
  | text (s : String) : IsScalar (.text s)
  | bytes (b : List UInt8) : IsScalar (.bytes b)
  | date (d : Date) : IsScalar (.date d)
  | moment (m : Moment) : IsScalar (.moment m)

/-- What a JSON or a YAML text can stand for. The parameter says whether there may be collections that are inside
themselves; of the places in their table each holds a collection or nothing. -/
inductive Value.IsData (circles : Prop) : Value → Prop
  | scalar {v : Value} (scalar : v.IsScalar) : IsData circles v
  | list {xs : List Value} (all : ∀ x ∈ xs, IsData circles x) : IsData circles (.list xs)
  | tuple {xs : List Value} (all : ∀ x ∈ xs, IsData circles x) : IsData circles (.tuple xs)
  | set {xs : List Value} (all : ∀ x ∈ xs, IsData circles x) : IsData circles (.set xs)
  | map {pairs : List (Value × Value)} (keys : ∀ pair ∈ pairs, IsData circles pair.1)
      (values : ∀ pair ∈ pairs, IsData circles pair.2) : IsData circles (.map pairs)
  | loop {nodes : List Value} (place : Nat) (circular : circles) (places : ∀ x ∈ nodes, x.IsScalar → x = .null)
      (all : ∀ x ∈ nodes, IsData circles x) : IsData circles (.loop place nodes)

namespace Value

variable {circles : Prop} {v : Value}

/-- Putting values in the place of the places in a list does so in each member. This is the recursion for lists, in
the case where nothing can fail. -/
theorem replaceInAll_id (put : Nat → Id Value) (xs : List Value) :
    replaceInAll put xs = (xs.map (replacePlaces put) : List Value) := by
  induction xs with
  | nil => rfl
  | cons x xs ih =>
    rw [List.map_cons, ← ih, replaceInAll]
    rfl

/-- Putting values in the place of the places in pairs does so in the second of each. Keys hold no places. -/
theorem replaceInPairs_id (put : Nat → Id Value) (pairs : List (Value × Value)) :
    replaceInPairs put pairs = (pairs.map fun pair => (pair.1, replacePlaces put pair.2) : List (Value × Value)) := by
  induction pairs with
  | nil => rfl
  | cons pair pairs ih =>
    rw [List.map_cons, ← ih, replaceInPairs]
    rfl

/-- Data stays data when data is put in the place of its places. The induction is on the data. -/
theorem IsData.replaced {put : Nat → Value} (puts : ∀ place, IsData circles (put place)) (data : IsData circles v) :
    IsData circles (replacePlaces (m := Id) put v) := by
  induction data with
  | scalar scalar => cases scalar <;> exact .scalar (by constructor)
  | @list xs members ih =>
    change IsData circles (.list (replaceInAll (m := Id) put xs))
    rw [replaceInAll_id]
    refine .list fun y isMember => ?_
    obtain ⟨x, member, rfl⟩ := List.mem_map.mp isMember
    exact ih x member
  | @tuple xs members ih =>
    change IsData circles (.tuple (replaceInAll (m := Id) put xs))
    rw [replaceInAll_id]
    refine .tuple fun y isMember => ?_
    obtain ⟨x, member, rfl⟩ := List.mem_map.mp isMember
    exact ih x member
  | set members => exact .set members
  | @map pairs keys values keysIh valuesIh =>
    change IsData circles (.map (replaceInPairs (m := Id) put pairs))
    rw [replaceInPairs_id]
    refine .map (fun pair isMember => ?_) fun pair isMember => ?_
    · obtain ⟨source, member, rfl⟩ := List.mem_map.mp isMember
      exact keys source member
    · obtain ⟨source, member, rfl⟩ := List.mem_map.mp isMember
      exact valuesIh source member
  | @loop nodes place circular places members =>
    cases nodes with
    | nil => exact puts place
    | cons node nodes => exact .loop place circular places members

/-- Data stays data when its places are connected with a table of data. The table stays with the places, so that
circles can be followed later. -/
theorem IsData.relink {table : List Value} (circular : circles) (places : ∀ x ∈ table, x.IsScalar → x = .null)
    (all : ∀ x ∈ table, IsData circles x) (data : IsData circles v) : IsData circles (relink table v) :=
  data.replaced fun place => .loop place circular places all

/-- Where every place of a list has to give way, each member comes from one of the list. The list is only there if
each of its places has given way. -/
theorem mem_of_replaceInAll {put : Nat → Option Value} {xs ys : List Value} (found : replaceInAll put xs = some ys)
    {y : Value} (member : y ∈ ys) : ∃ x ∈ xs, replacePlaces put x = some y := by
  induction xs generalizing ys with
  | nil =>
    cases found
    cases member
  | cons x xs ih =>
    obtain ⟨first, isFirst, found⟩ := Option.bind_eq_some_iff.mp found
    obtain ⟨others, areOthers, same⟩ := Option.bind_eq_some_iff.mp found
    cases same
    rcases List.mem_cons.mp member with rfl | later
    · exact ⟨x, List.mem_cons_self, isFirst⟩
    · obtain ⟨source, isSource, given⟩ := ih areOthers later
      exact ⟨source, List.mem_cons_of_mem _ isSource, given⟩

/-- Where every place has to give way, the value of each pair comes from one of the pairs before, and keys stay what
they were. -/
theorem mem_of_replaceInPairs {put : Nat → Option Value} {pairs others : List (Value × Value)}
    (found : replaceInPairs put pairs = some others) {pair : Value × Value} (member : pair ∈ others) :
    ∃ source ∈ pairs, source.1 = pair.1 ∧ replacePlaces put source.2 = some pair.2 := by
  induction pairs generalizing others with
  | nil =>
    cases found
    cases member
  | cons first pairs ih =>
    obtain ⟨value, isValue, found⟩ := Option.bind_eq_some_iff.mp found
    obtain ⟨more, areMore, same⟩ := Option.bind_eq_some_iff.mp found
    cases same
    rcases List.mem_cons.mp member with rfl | later
    · exact ⟨first, List.mem_cons_self, rfl, isValue⟩
    · obtain ⟨source, isSource, given⟩ := ih areMore later
      exact ⟨source, List.mem_cons_of_mem _ isSource, given⟩

/-- Data stays data when all its places give way to data. The induction is on the data, as where nothing can fail. -/
theorem IsData.replaced? {put : Nat → Option Value} (puts : ∀ place x, put place = some x → IsData circles x)
    (data : IsData circles v) {w : Value} (found : replacePlaces put v = some w) : IsData circles w := by
  induction data generalizing w with
  | scalar scalar => cases scalar <;> cases found <;> exact .scalar (by constructor)
  | list members ih =>
    obtain ⟨ys, areYs, same⟩ := Option.bind_eq_some_iff.mp found
    cases same
    refine .list fun y member => ?_
    obtain ⟨x, isMember, given⟩ := mem_of_replaceInAll areYs member
    exact ih x isMember given
  | tuple members ih =>
    obtain ⟨ys, areYs, same⟩ := Option.bind_eq_some_iff.mp found
    cases same
    refine .tuple fun y member => ?_
    obtain ⟨x, isMember, given⟩ := mem_of_replaceInAll areYs member
    exact ih x isMember given
  | set members =>
    cases found
    exact .set members
  | map keys values _ valuesIh =>
    obtain ⟨others, areOthers, same⟩ := Option.bind_eq_some_iff.mp found
    cases same
    refine .map (fun pair member => ?_) fun pair member => ?_
    · obtain ⟨source, isMember, same, -⟩ := mem_of_replaceInPairs areOthers member
      exact same ▸ keys source isMember
    · obtain ⟨source, isMember, -, given⟩ := mem_of_replaceInPairs areOthers member
      exact valuesIh source isMember given
  | @loop nodes place circular places members =>
    cases nodes with
    | nil => exact puts place w found
    | cons node nodes =>
      cases found
      exact .loop place circular places members

/-- The built-in value of data is data. Data has no objects that could extend one. -/
theorem IsData.plain (data : IsData circles v) : IsData circles v.plain := by
  cases data with
  | scalar scalar => cases scalar <;> exact .scalar (by constructor)
  | list all => exact .list all
  | tuple all => exact .tuple all
  | set all => exact .set all
  | map keys values => exact .map keys values
  | @loop nodes place circular places all =>
    refine IsData.relink circular places all ?_
    rw [List.getD_eq_getElem?_getD]
    cases found : nodes[place]? with
    | none => exact .scalar .null
    | some content => exact all content (List.mem_of_getElem? found)

/-- Data whose built-in value is a text is that text. Nothing else has a text for its built-in value. -/
theorem IsData.eq_text_of_plain {s : String} (data : IsData circles v) (isText : v.plain = .text s) : v = .text s := by
  cases data with
  | scalar scalar => cases scalar <;> exact isText
  | list _ | tuple _ | set _ | map _ _ => exact isText
  | @loop nodes place circular places all =>
    rw [Value.plain, List.getD_eq_getElem?_getD] at isText
    cases found : nodes[place]? with
    | none =>
      rw [found] at isText
      cases isText
    | some content =>
      have isMember := List.mem_of_getElem? found
      rw [found, Option.getD_some] at isText
      cases all content isMember with
      | scalar scalar =>
        rw [places content isMember scalar] at isText
        cases isText
      | list _ | tuple _ | set _ | map _ _ => cases isText
      | @loop inner _ _ _ _ => cases inner <;> cases isText

/-- The keys and the values of a mapping that is data are data. This is where a circle is opened, if the mapping is in
one. -/
theorem IsData.of_mem_pairs? {pairs : List (Value × Value)} (data : IsData circles v) (found : v.pairs? = some pairs)
    {pair : Value × Value} (member : pair ∈ pairs) : IsData circles pair.1 ∧ IsData circles pair.2 := by
  have isPlain := data.plain
  unfold pairs? at found
  split at found
  · rename_i isMap
    cases found
    rw [isMap] at isPlain
    cases isPlain with
    | scalar scalar => cases scalar
    | map keys values => exact ⟨keys pair member, values pair member⟩
  · cases found

/-- What is looked up is held under the key, as a pair with the text of it. -/
theorem mem_of_lookup? {key : String} {pairs : List (Value × Value)} {x : Value} (found : lookup? key pairs = some x) :
    (.text key, x) ∈ pairs := by
  induction pairs with
  | nil => cases found
  | cons pair pairs ih =>
    unfold lookup? at found
    split at found
    · cases found
    · rename_i k y rest same
      cases same
      split at found
      · rename_i isKey
        cases found
        rw [isKey]
        exact List.mem_cons_self
      · exact List.mem_cons_of_mem _ (ih found)
    · rename_i same
      cases same
      exact List.mem_cons_of_mem _ (ih found)

/-- What data holds under a key is data. It is the value of one of its pairs. -/
theorem IsData.of_get? {key : String} {x : Value} (data : IsData circles v) (found : v.get? key = some x) :
    IsData circles x := by
  obtain ⟨pairs, isMap, held⟩ := Option.bind_eq_some_iff.mp found
  exact (data.of_mem_pairs? isMap (mem_of_lookup? held)).2

/-- What data holds under a key, or null, is data. Null is data as well. -/
theorem IsData.get (data : IsData circles v) (key : String) : IsData circles (v.get key) := by
  unfold Value.get
  cases found : v.get? key with
  | none => exact .scalar .null
  | some x => exact data.of_get? found

/-- Data is either true or false. Only objects of a host can fail to decide. -/
theorem IsData.truth (data : IsData circles v) : ∃ b, v.truth = .ok b := by
  cases data with
  | scalar scalar => cases scalar <;> exact ⟨_, rfl⟩
  | list _ | tuple _ | set _ | map _ _ | loop _ _ _ _ => exact ⟨_, rfl⟩

/-- Data can be read as a flag: a text by its word, and anything else by whether it counts as true. -/
theorem IsData.succeeds_flagOf (data : IsData circles v) (default : Bool) :
    Succeeds (MenuDocument.flagOf v default) := by
  cases data with
  | scalar scalar => cases scalar <;> exact succeeds_ok _
  | list _ | tuple _ | set _ | map _ _ | loop _ _ _ _ => exact succeeds_ok _

/-- An infinite number. -/
def IsInfinite (v : Value) : Prop :=
  ∃ x negative, v = .real x ∧ realParts x = .infinite negative

/-- Data can be read as an integer, or replaced by a default, unless it is an infinite number. No other value of data
breaks the reading off. -/
theorem IsData.succeeds_integerOf (data : IsData circles v) (default : Int) :
    Succeeds (MenuDocument.integerOf v default) ↔ ¬v.IsInfinite := by
  have given {v : Value} {n : Int} (isInteger : v.toInteger = .ok n) :
      Succeeds (MenuDocument.integerOf v default) := by
    rw [MenuDocument.integerOf, isInteger]
    exact succeeds_ok n
  have replaced {v : Value} {cause : Failure} (refused : v.toInteger = .error cause) (mild : cause.isNoNumber = true) :
      Succeeds (MenuDocument.integerOf v default) := by
    rw [MenuDocument.integerOf, refused]
    simp [mild]
  have finite {v : Value} (succeeds : Succeeds (MenuDocument.integerOf v default)) (other : ∀ x, v ≠ .real x) :
      Succeeds (MenuDocument.integerOf v default) ↔ ¬v.IsInfinite :=
    iff_of_true succeeds fun ⟨x, _, isReal, _⟩ => other x isReal
  cases data with
  | scalar scalar =>
    cases scalar with
    | real x =>
      cases parts : realParts x with
      | nan =>
        refine iff_of_true (replaced (by rw [toInteger, parts]) rfl) ?_
        rintro ⟨_, _, ⟨⟩, isInfinite⟩
        cases parts.symm.trans isInfinite
      | infinite negative =>
        refine iff_of_false ?_ fun finite => finite ⟨x, negative, rfl, parts⟩
        rw [MenuDocument.integerOf, toInteger, parts]
        simp [Failure.isNoNumber]
      | finite negative mantissa exponent =>
        refine iff_of_true (given (by rw [toInteger, parts])) ?_
        rintro ⟨_, _, ⟨⟩, isInfinite⟩
        cases parts.symm.trans isInfinite
    | text s =>
      refine finite ?_ (by simp)
      cases read : readInteger? s.toList with
      | none => exact replaced (by rw [toInteger, read]) rfl
      | some n => exact given (by rw [toInteger, read])
    | bytes b =>
      refine finite ?_ (by simp)
      cases read : (if b.all (· < 0x80) then readInteger? (b.map fun c => Char.ofNat c.toNat) else none) with
      | none => exact replaced (by rw [toInteger, read]) rfl
      | some n => exact given (by rw [toInteger, read])
    | bool _ | int _ => exact finite (given rfl) (by simp)
    | null | date _ | moment _ => exact finite (replaced rfl rfl) (by simp)
  | list _ | tuple _ | set _ | map _ _ | loop _ _ _ _ => exact finite (replaced rfl rfl) (by simp)

/-- A member of a list, a tuple or a set, or a key or a value of a mapping. -/
inductive Has : Value → Value → Prop
  | list {xs : List Value} {x : Value} (member : x ∈ xs) : Has (.list xs) x
  | tuple {xs : List Value} {x : Value} (member : x ∈ xs) : Has (.tuple xs) x
  | set {xs : List Value} {x : Value} (member : x ∈ xs) : Has (.set xs) x
  | key {pairs : List (Value × Value)} {pair : Value × Value} (member : pair ∈ pairs) : Has (.map pairs) pair.1
  | value {pairs : List (Value × Value)} {pair : Value × Value} (member : pair ∈ pairs) : Has (.map pairs) pair.2

/-- The integers in a value, also in its members and in its keys. -/
inductive Holds : Value → Int → Prop
  | int (n : Int) : Holds (.int n) n
  | inside {v x : Value} {n : Int} (has : v.Has x) (held : Holds x n) : Holds v n

/-- An integer that is short enough to be written. -/
def IsShort (n : Int) : Prop :=
  n.natAbs < Nat.pow 10 digitLimit

/-- An integer can be written exactly if it is short, which is to say that it has no more digits than a numeral may
have. -/
theorem succeeds_integerShown (n : Int) : Succeeds (integerShown n) ↔ IsShort n := by
  unfold integerShown integerText? IsShort
  split <;> rename_i shown
  · rw [Option.ite_none_right_eq_some] at shown
    exact iff_of_true (succeeds_ok _) shown.1
  · refine iff_of_false (not_succeeds_error _) fun short => ?_
    rw [if_pos short] at shown
    cases shown

/-- How deep something stands inside a value: the value itself not at all, and what is in a member of it one deeper
than there. -/
inductive Nests : Value → Nat → Prop
  | self (v : Value) : Nests v 0
  | inside {v x : Value} {depth : Nat} (has : v.Has x) (nested : Nests x depth) : Nests v (depth + 1)

/-- What is needed for the text of a value: its integers are short, and nothing in it is nested too deep. -/
structure IsWritable (v : Value) (levels : Nat) : Prop where
  short : ∀ n, v.Holds n → IsShort n
  nested : ∀ depth, v.Nests depth → depth ≤ levels

section

variable {levels : Nat} {xs : List Value} {pairs : List (Value × Value)}

/-- A value that is no integer can be written if its members can, one level deeper. The levels that are left are
counted down to nothing. -/
theorem isWritable_iff (noInt : ∀ n, v ≠ int n) :
    v.IsWritable levels ↔ ∀ x, v.Has x → 0 < levels ∧ x.IsWritable (levels - 1) := by
  constructor
  · intro writable x has
    have inside (depth : Nat) (nested : x.Nests depth) := writable.nested _ (.inside has nested)
    have deep := inside 0 (.self x)
    refine ⟨by omega, fun n held => writable.short n (.inside has held), fun depth nested => ?_⟩
    have bound := inside depth nested
    omega
  · refine fun each => ⟨fun n held => ?_, fun depth nested => ?_⟩
    · cases held with
      | int => exact absurd rfl (noInt n)
      | inside has held => exact (each _ has).2.short n held
    · cases nested with
      | self => exact Nat.zero_le levels
      | inside has nested =>
        obtain ⟨deep, writable⟩ := each _ has
        have bound := writable.nested _ nested
        omega

/-- A value without members that is no integer can be written. There is nothing in it to be too long or too deep. -/
theorem isWritable_of_bare (noInt : ∀ n, v ≠ int n) (bare : ∀ x, ¬v.Has x) : v.IsWritable levels :=
  (isWritable_iff noInt).mpr fun x has => absurd has (bare x)

/-- An integer can be written at any level exactly if it is short. -/
theorem isWritable_int (n : Int) : (int n).IsWritable levels ↔ IsShort n := by
  refine ⟨fun writable => writable.short n (.int n), fun short => ⟨fun m held => ?_, fun depth nested => ?_⟩⟩
  · cases held with
    | int => exact short
    | inside has => cases has
  · cases nested with
    | self => exact Nat.zero_le levels
    | inside has => cases has

variable {link : Nat → Nat → List Value → Except Failure String}

/-- The members of a list are written if there is room for them and each can be written. The induction is on the
list. -/
theorem succeeds_innerAll :
    Succeeds (innerAll link levels xs) ↔ ∀ x ∈ xs, 0 < levels ∧ Succeeds (innerWith link (levels - 1) x) := by
  induction xs with
  | nil => simp [innerAll]
  | cons x xs ih =>
    cases levels with
    | zero => exact iff_of_false (not_succeeds_error _) fun each => absurd (each x List.mem_cons_self).1 (by decide)
    | succ levels =>
      rw [innerAll, List.forall_mem_cons]
      refine succeeds_bind_and (by simp) fun _ _ => ?_
      rw [succeeds_bind_pure, ih]

/-- The pairs of a mapping are written if there is room for them and the key and the value of each can be written. The
induction is on the pairs. -/
theorem succeeds_innerPairs :
    Succeeds (innerPairs link levels pairs) ↔ ∀ pair ∈ pairs,
      0 < levels ∧ Succeeds (innerWith link (levels - 1) pair.1) ∧ Succeeds (innerWith link (levels - 1) pair.2) := by
  induction pairs with
  | nil => simp [innerPairs]
  | cons pair pairs ih =>
    cases levels with
    | zero =>
      exact iff_of_false (not_succeeds_error _) fun each => absurd (each pair List.mem_cons_self).1 (by decide)
    | succ levels =>
      rw [innerPairs, List.forall_mem_cons, and_iff_right (Nat.succ_pos levels), and_assoc]
      refine succeeds_bind_and .rfl fun _ _ => succeeds_bind_and .rfl fun _ _ => ?_
      rw [succeeds_bind_pure, ih]

end

/-- Data without circles is written exactly if its integers are short and it is not nested too deep. Proof: by induction
on the data, at all levels at once; a member of a collection is written at one level less. -/
theorem IsData.succeeds_innerWith (data : IsData False v) (link : Nat → Nat → List Value → Except Failure String)
    (levels : Nat) : Succeeds (innerWith link levels v) ↔ v.IsWritable levels := by
  have members {v : Value} {xs : List Value} {levels : Nat} (noInt : ∀ n, v ≠ int n) (has : ∀ x, v.Has x ↔ x ∈ xs)
      (ih : ∀ x ∈ xs, ∀ levels, Succeeds (innerWith link levels x) ↔ x.IsWritable levels) :
      Succeeds (innerAll link levels xs) ↔ v.IsWritable levels := by
    rw [succeeds_innerAll, isWritable_iff noInt]
    exact forall_congr' fun x =>
      ⟨fun each isMember => (each ((has x).mp isMember)).imp_right (ih x ((has x).mp isMember) _).mp,
        fun each member => (each ((has x).mpr member)).imp_right (ih x member _).mpr⟩
  induction data generalizing levels with
  | scalar scalar =>
    cases scalar with
    | int n => rw [innerWith, succeeds_integerShown, isWritable_int]
    | _ => exact iff_of_true (by simp [innerWith]) (isWritable_of_bare (by simp) (by rintro _ ⟨⟩))
  | list _ ih =>
    rw [innerWith, succeeds_bind_pure]
    exact members (by simp) (fun x => ⟨fun has => by cases has; assumption, .list⟩) ih
  | tuple _ ih =>
    rw [← members (by simp) (fun x => ⟨fun has => by cases has; assumption, .tuple⟩) ih, innerWith, succeeds_bind]
    refine exists_congr fun texts => and_iff_left ?_
    split <;> exact succeeds_pure _
  | @set xs _ ih =>
    rw [← members (by simp) (fun x => ⟨fun has => by cases has; assumption, .set⟩) ih]
    cases xs with
    | nil => exact iff_of_true (by simp [innerWith]) (by simp [innerAll])
    | cons x xs => exact succeeds_bind_pure
  | @map pairs keys values keysIh valuesIh =>
    rw [innerWith, succeeds_bind_pure, succeeds_innerPairs, isWritable_iff (by simp)]
    constructor
    · intro each x has
      cases has with
      | key member => exact (each _ member).imp_right fun written => (keysIh _ member _).mp written.1
      | value member => exact (each _ member).imp_right fun written => (valuesIh _ member _).mp written.2
    · intro each pair member
      obtain ⟨deep, key⟩ := each _ (.key member)
      exact ⟨deep, (keysIh pair member _).mpr key, (valuesIh pair member _).mpr (each _ (.value member)).2⟩
  | loop _ circular _ _ => exact circular.elim

section

variable [Machine]

/-- A value that has a text, when it stands alone. -/
def HasText (v : Value) : Prop :=
  Succeeds v.shown

/-- Data without circles has a text exactly if its integers are short and it is not nested deeper than the machine has
room for. That room is a parameter, and nothing is known of it here. -/
theorem IsData.hasText_iff (data : IsData False v) : v.HasText ↔ v.IsWritable Machine.textNesting := by
  have inner := data.succeeds_innerWith
    (fun levels place table => placeText table (table.length + 1) [] levels place) Machine.textNesting
  unfold HasText
  cases data with
  | scalar scalar =>
    cases scalar with
    | text _ | date _ | moment _ =>
      exact iff_of_true (succeeds_ok _) (isWritable_of_bare (by simp) (by rintro _ ⟨⟩))
    | _ => exact inner
  | loop _ circular _ _ => exact circular.elim
  | _ => exact inner

end

/-- A value that is gone into when it is read as slots, and its members. -/
inductive IsRow : Value → List Value → Prop
  | list (xs : List Value) : IsRow (.list xs) xs
  | tuple (xs : List Value) : IsRow (.tuple xs) xs

/-- The texts that a value is read by when it is read as slots. -/
inductive Lists : Value → String → Prop
  | text (s : String) : Lists (.text s) s
  | inside {v x : Value} {xs : List Value} {s : String} (row : v.IsRow xs) (member : x ∈ xs) (listed : Lists x s) :
      Lists v s

/-- How many calls inside one another are made when a value is read as slots: one for a text, and one for a member of
a list beside those for the member. -/
inductive Takes : Value → Nat → Prop
  | none (v : Value) : Takes v 0
  | text (s : String) : Takes (.text s) 1
  | inside {v x : Value} {xs : List Value} {calls : Nat} (row : v.IsRow xs) (member : x ∈ xs) (taken : Takes x calls) :
      Takes v (calls + 1)

variable [Machine]

/-- A value that can be read as slots where there is room for so many calls. -/
def HasSlots (v : Value) (calls : Nat) : Prop :=
  Succeeds (Slots.ofValueWithin calls v)

end Value

namespace Slots

variable [Machine]

/-- No part of a text is a range of more slots than there is room for. -/
def FitRoom (s : String) : Prop :=
  ∀ part ∈ splitOnChar ',' s.toList, ∀ a b,
    ((splitOnChar '-' part).map fun bound => readInteger? (trimChars isBlank bound)) = [some a, some b] →
      count a b ≤ Machine.room

/-- A text is read as slots exactly if its ranges fit. Malformed parts stand for nothing and are no reason to fail. -/
theorem succeeds_ofChars (s : String) : Succeeds (ofChars s.toList) ↔ FitRoom s := by
  rw [ofChars, succeeds_bind_pure, succeeds_mapM]
  refine forall₂_congr fun part _ => ?_
  unfold ofPart
  split
  · rename_i isNumber
    exact iff_of_true (succeeds_ok _) fun a b isRange => by simp [isNumber] at isRange
  · rename_i a b isRange
    by_cases fits : count a b ≤ Machine.room
    · refine iff_of_true (exists_slots_between fits) fun c d same => ?_
      rw [isRange] at same
      cases same
      exact fits
    · rw [between_of_wide (Nat.lt_of_not_le fits)]
      exact iff_of_false (not_succeeds_error _) fun fit => fits (fit a b isRange)
  · rename_i other
    exact iff_of_true (succeeds_ok _) fun a b isRange => absurd isRange (other a b)

end Slots

namespace Value

variable [Machine] {v : Value} {calls : Nat}

/-- What is needed to read a value as slots: its ranges fit, and its lists are not nested too deep. -/
structure IsLegible (v : Value) (calls : Nat) : Prop where
  fit : ∀ s, v.Lists s → Slots.FitRoom s
  nested : ∀ taken, v.Takes taken → taken ≤ calls

/-- A value that is no text is read if its members are, with one call less. A value that is no list has no members in
this sense, and is read as no slots or one. -/
theorem isLegible_iff (noText : ∀ s, v ≠ text s) :
    v.IsLegible calls ↔ ∀ xs, v.IsRow xs → ∀ x ∈ xs, 0 < calls ∧ x.IsLegible (calls - 1) := by
  constructor
  · intro legible xs row x member
    have inside (taken : Nat) (takes : x.Takes taken) := legible.nested _ (.inside row member takes)
    have deep := inside 0 (.none x)
    refine ⟨by omega, fun s listed => legible.fit s (.inside row member listed), fun taken takes => ?_⟩
    have bound := inside taken takes
    omega
  · refine fun each => ⟨fun s listed => ?_, fun taken takes => ?_⟩
    · cases listed with
      | text => exact absurd rfl (noText s)
      | inside row member listed => exact (each _ row _ member).2.fit s listed
    · cases takes with
      | none => exact Nat.zero_le calls
      | text s => exact absurd rfl (noText s)
      | inside row member takes =>
        obtain ⟨deep, legible⟩ := each _ row _ member
        have bound := legible.nested _ takes
        omega

/-- A text is read exactly if there is a call left and its ranges fit. -/
theorem isLegible_text {s : String} : (text s).IsLegible calls ↔ 0 < calls ∧ Slots.FitRoom s := by
  refine ⟨fun legible => ⟨legible.nested 1 (.text s), legible.fit s (.text s)⟩,
    fun ⟨room, fit⟩ => ⟨fun t listed => ?_, fun taken takes => ?_⟩⟩
  · cases listed with
    | text => exact fit
    | inside row => cases row
  · cases takes with
    | none => exact Nat.zero_le calls
    | text => exact room
    | inside row => cases row

/-- Data without circles is read as slots exactly if the ranges in its texts fit and its lists are not nested too deep.
Proof: by induction on the data, for all numbers of calls at once; a member of a list is read with one call less. -/
theorem IsData.hasSlots_iff (data : IsData False v) : v.HasSlots calls ↔ v.IsLegible calls := by
  have members {v : Value} {xs : List Value} {calls : Nat} (row : v.IsRow xs)
      (ih : ∀ x ∈ xs, ∀ {calls}, x.HasSlots calls ↔ x.IsLegible calls) : v.HasSlots calls ↔ v.IsLegible calls := by
    have noText (s : String) : v ≠ text s := by cases row <;> simp
    have only : ∀ ys, v.IsRow ys → ys = xs := by cases row <;> rintro _ ⟨⟩ <;> rfl
    have each : v.HasSlots calls ↔ ∀ x ∈ xs, 0 < calls ∧ x.IsLegible (calls - 1) := by
      cases calls with
      | succ calls =>
        have read : v.HasSlots (calls + 1) ↔ Succeeds (do
            return (← xs.mapM (Slots.ofValueWithin calls)).flatten) := by
          cases row <;> exact .rfl
        rw [read, succeeds_bind_pure, succeeds_mapM]
        exact forall₂_congr fun x member => (ih x member).trans (and_iff_right (Nat.succ_pos calls)).symm
      | zero =>
        cases xs with
        | nil => exact iff_of_true (by cases row <;> exact succeeds_ok _) (by simp)
        | cons x xs =>
          refine iff_of_false (by cases row <;> exact not_succeeds_error _) fun each => ?_
          exact absurd (each x List.mem_cons_self).1 (Nat.lt_irrefl 0)
    rw [each, isLegible_iff noText]
    exact ⟨fun all ys isRow => only ys isRow ▸ all, fun all => all xs row⟩
  induction data generalizing calls with
  | scalar scalar =>
    cases scalar with
    | text s =>
      rw [isLegible_text, ← Slots.succeeds_ofChars]
      cases calls with
      | zero => exact iff_of_false (not_succeeds_error _) fun room => absurd room.1 (Nat.lt_irrefl 0)
      | succ calls => exact (and_iff_right (Nat.succ_pos calls)).symm
    | _ =>
      refine iff_of_true ?_ ((isLegible_iff (by simp)).mpr (by rintro _ ⟨⟩))
      cases calls <;> exact succeeds_ok _
  | list _ ih => exact members (.list _) fun x member _ => ih x member
  | tuple _ ih => exact members (.tuple _) fun x member _ => ih x member
  | set _ _ | map _ _ _ _ =>
    refine iff_of_true ?_ ((isLegible_iff (by simp)).mpr (by rintro _ ⟨⟩))
    cases calls <;> exact succeeds_ok _
  | loop _ circular _ _ => exact circular.elim

end Value

end ChestMenu
