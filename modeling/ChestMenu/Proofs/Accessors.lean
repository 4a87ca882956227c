import ChestMenu.Context.Discovery

/-!
# Where the fields of a type are taken from

A data field of the class comes first, then an attribute that its objects have room for, and then the first in order
of the public members that offer the field: the property of its name, or a getter whose name tells it. So each field
has one accessor, whatever else goes by its name along the lineage.

Which methods are getters is told from their parameters, the first of them being passed over as the object. A static
method has no object, so that one with an argument counts as a getter, and one without as none. For all other methods
it is the same as that nothing has to be given to them.
-/
namespace ChestMenu.Discovery

variable {classes : Classes} {type name field source : String} {a : Accessor} {found more : List Accessor}

/-- Of several accessors for a field the first is kept, unless there was one before. The induction is on the accessors
that are added. -/
theorem mem_foldl_addAccessor :
    a ∈ more.foldl addAccessor found ↔
      a ∈ found ∨ (∀ b ∈ found, b.field ≠ a.field) ∧ more.find? (·.field = a.field) = some a := by
  induction more generalizing found with
  | nil => simp
  | cons b more ih =>
    rw [List.foldl_cons, ih]
    by_cases isThere : found.any (·.field = b.field)
    · obtain ⟨c, member, same⟩ := List.any_eq_true.mp isThere
      rw [addAccessor, if_pos isThere]
      refine or_congr_right (and_congr_right fun clear => ?_)
      have other : b.field ≠ a.field := fun named => clear c member ((of_decide_eq_true same).trans named)
      rw [List.find?_cons_of_neg (by simpa using other)]
    · rw [addAccessor, if_neg isThere]
      have clear : ∀ c ∈ found, c.field ≠ b.field := by simpa using isThere
      by_cases named : b.field = a.field
      · rw [List.find?_cons_of_pos (by simpa using named)]
        constructor
        · rintro (member | ⟨others, -⟩)
          · rcases List.mem_append.mp member with before | last
            · exact .inl before
            · cases List.mem_singleton.mp last
              exact .inr ⟨clear, rfl⟩
          · exact absurd named (others b (by simp))
        · rintro (before | ⟨-, same⟩)
          · exact .inl (List.mem_append_left _ before)
          · cases same
            exact .inl (by simp)
      · rw [List.find?_cons_of_neg (by simpa using named)]
        have apart : a ≠ b := fun same => named (congrArg Accessor.field same.symm)
        simp [apart, named, or_imp, forall_and]

/-- Each field is given one accessor. Another for the same field is passed over. -/
theorem nodup_foldl_addAccessor (once : (found.map (·.field)).Nodup) :
    ((more.foldl addAccessor found).map (·.field)).Nodup := by
  induction more generalizing found with
  | nil => exact once
  | cons b more ih =>
    refine ih ?_
    unfold addAccessor
    split
    · exact once
    · rename_i absent
      have clear : ∀ c ∈ found, c.field ≠ b.field := by simpa using absent
      simpa [List.nodup_append] using ⟨once, clear⟩

/-- The first of a sorted list with a property is the least with it. All that come before it are less and do not have
the property. -/
theorem find?_eq_some_iff_least {names : List String} (sorted : names.Pairwise (· ≤ ·)) {p : String → Bool} :
    names.find? p = some name ↔ (name ∈ names ∧ p name = true) ∧ ∀ other ∈ names, p other = true → name ≤ other := by
  induction names with
  | nil => simp
  | cons first rest ih =>
    obtain ⟨below, sorted⟩ := List.pairwise_cons.mp sorted
    by_cases holds : p first = true
    · rw [List.find?_cons_of_pos holds]
      constructor
      · intro same
        cases same
        refine ⟨⟨List.mem_cons_self, holds⟩, List.forall_mem_cons.mpr ⟨fun _ => String.le_refl _, ?_⟩⟩
        exact fun other member _ => below other member
      · rintro ⟨⟨member, -⟩, least⟩
        have lower := least first List.mem_cons_self holds
        rcases List.mem_cons.mp member with same | later
        · exact congrArg some same.symm
        · exact congrArg some (String.le_antisymm (below _ later) lower)
    · rw [List.find?_cons_of_neg holds, ih sorted]
      have apart : p name = true → name ≠ first := fun holdsToo same => holds (same ▸ holdsToo)
      constructor
      · rintro ⟨⟨member, holdsToo⟩, least⟩
        exact ⟨⟨List.mem_cons_of_mem _ member, holdsToo⟩,
          List.forall_mem_cons.mpr ⟨fun wrong => absurd wrong holds, least⟩⟩
      · rintro ⟨⟨member, holdsToo⟩, least⟩
        exact ⟨⟨(List.mem_cons.mp member).resolve_left (apart holdsToo), holdsToo⟩, (List.forall_mem_cons.mp least).2⟩

/-- The public names of a class are in order, as they have been sorted. -/
theorem pairwise_publicNames : (publicNames classes type).Pairwise (· ≤ ·) := by
  have passes (a b c : String) (first : decide (a ≤ b) = true) (second : decide (b ≤ c) = true) :
      decide (a ≤ c) = true :=
    decide_eq_true (String.le_trans (of_decide_eq_true first) (of_decide_eq_true second))
  have compares (a b : String) : (decide (a ≤ b) || decide (b ≤ a)) = true := by
    simpa using String.le_total a b
  exact (List.pairwise_mergeSort passes compares _).imp of_decide_eq_true

/-- What is looked up under a name is a pair of the list. It is the first with the name. -/
theorem mem_of_lookup {β : Type} {entries : List (String × β)} {b : β} (held : entries.lookup name = some b) :
    (name, b) ∈ entries := by
  obtain ⟨before, after, rfl, -⟩ := List.lookup_eq_some_iff.mp held
  simp

/-- An item of a class is one of those of its kind, or the method that describes fields. -/
inductive Declares (c : ContextClass) (name : String) : ClassItem → Prop
  | property {member : Member} (isMember : (name, member) ∈ c.properties) : Declares c name (.property member)
  | store (isMember : name ∈ c.ownStores) : Declares c name .store
  | method {m : Method} (isMember : name ≠ "describe_fields" → (name, m) ∈ c.methods) : Declares c name (.method m)
  | attribute {value : Value} (isMember : (name, value) ∈ c.attributes) : Declares c name (.attribute value)

/-- What a class holds under a name is one of its items: an attribute, a method, a property or a place for an
attribute of its objects. -/
theorem declares_of_item? {c : ContextClass} {item : ClassItem} (isItem : c.item? name = some item) :
    Declares c name item := by
  simp only [ContextClass.item?, ContextClass.declared?, Option.or_eq_some_iff, Option.map_eq_some_iff] at isItem
  rcases isItem with
    (⟨value, held, rfl⟩ | ⟨-, describing | ⟨-, ⟨m, held, rfl⟩ | ⟨-, member, held, rfl⟩⟩⟩) | ⟨-, stored⟩
  · exact .attribute (mem_of_lookup held)
  · split at describing
    · rename_i same
      obtain ⟨m, -, rfl⟩ := Option.map_eq_some_iff.mp describing
      exact .method fun undescribing => absurd same undescribing
    · cases describing
  · exact .method fun _ => mem_of_lookup held
  · exact .property (mem_of_lookup held)
  · split at stored
    · rename_i isMember
      cases stored
      exact .store (List.contains_iff_mem.mp isMember)
    · cases stored

/-- A property that a class holds under a name is one of its properties, with that name. -/
theorem mem_properties {c : ContextClass} {member : Member} (isItem : c.item? name = some (.property member)) :
    (name, member) ∈ c.properties := by
  cases declares_of_item? isItem with
  | property isMember => exact isMember

/-- A method that a class holds is one of its methods, unless it is the one that describes fields. That one is kept
apart from the others. -/
theorem mem_methods {c : ContextClass} {m : Method} (isItem : c.item? name = some (.method m))
    (undescribing : name ≠ "describe_fields") : (name, m) ∈ c.methods := by
  cases declares_of_item? isItem with
  | method isMember => exact isMember undescribing

/-- The name of a method that describes fields tells none. So it is never taken for a getter. -/
theorem undescribing_of_told (told : (fieldOfMethod? name).isSome = true) : name ≠ "describe_fields" := by
  rintro rfl
  cases told

/-- Where only one class has items, what is inherited is what that class holds. The search through the ancestors ends
with it. -/
theorem item?_of_ancestors {c : ContextClass} (only : classes.ancestors type = [c]) (name : String) :
    classes.item? type name = c.item? name := by
  rw [Classes.item?, only, List.findSome?_singleton]

/-- What a class holds under a name is named among its items, unless it is the method that describes fields. These are
the names that are looked at when accessors are sought. -/
theorem mem_itemNames {c : ContextClass} {item : ClassItem} (isItem : c.item? name = some item)
    (undescribing : ∀ m, item = .method m → name ≠ "describe_fields") : name ∈ c.itemNames := by
  simp only [ContextClass.itemNames, List.mem_append, List.mem_map]
  rcases declares_of_item? isItem with isMember | isMember | isMember | isMember
  · exact .inl (.inl (.inl ⟨_, isMember, rfl⟩))
  · exact .inl (.inl (.inr isMember))
  · exact .inl (.inr ⟨_, isMember (undescribing _ rfl), rfl⟩)
  · exact .inr ⟨_, isMember, rfl⟩

/-- The name of a public item is among the public names of a class, unless it is the method that describes fields. It
may be held by the class itself or by one of its ancestors. -/
theorem mem_publicNames {item : ClassItem} (isThere : classes.item? type name = some item)
    (shown : isPublic name = true) (undescribing : ∀ m, item = .method m → name ≠ "describe_fields") :
    name ∈ publicNames classes type := by
  obtain ⟨c, ancestor, isItem⟩ := List.exists_of_findSome?_eq_some isThere
  rw [publicNames, List.mem_mergeSort, List.mem_filter, List.mem_flatMap]
  exact ⟨⟨c, ancestor, mem_itemNames isItem undescribing⟩, shown⟩

/-- Nothing has to be given to a method besides its object. -/
def takesNothing (m : Method) : Bool :=
  m.parameters.all (!·)

/-- A member of a class offers a field: a public property the one of its name, and a public method that is a getter the
one that its name tells. -/
inductive Offers (isGetter : Method → Bool) (classes : Classes) (type source field : String) : Prop
  | property {member : Member} (isThere : classes.item? type source = some (.property member))
      (shown : isPublic source = true) (same : source = field)
  | getter {m : Method} (isThere : classes.item? type source = some (.method m)) (shown : isPublic source = true)
      (getter : isGetter m = true) (told : fieldOfMethod? source = some field)

/-- The source that a class has for a field: a data field, else an attribute that its objects have room for, else the
first of the members that offer the field. -/
inductive DeclaresSource (isGetter : Method → Bool) (classes : Classes) (type field : String) : String → Prop
  | data (isData : field ∈ publicData classes type) : DeclaresSource isGetter classes type field field
  | store (noData : field ∉ publicData classes type) (isStore : field ∈ publicStores classes type) :
      DeclaresSource isGetter classes type field field
  | member {source : String} (noData : field ∉ publicData classes type) (noStore : field ∉ publicStores classes type)
      (offers : Offers isGetter classes type source field)
      (first : ∀ other, Offers isGetter classes type other field → source ≤ other) :
      DeclaresSource isGetter classes type field source

/-- An accessor is named for the item that makes it. This is where it is read later. -/
theorem source_memberAccessor? (made : memberAccessor? classes type name = some a) : a.source = name := by
  unfold memberAccessor? at made
  split at made
  · cases made
    rfl
  · split at made
    · obtain ⟨field, -, rfl⟩ := Option.map_eq_some_iff.mp made
      rfl
    · cases made
  · cases made

/-- A member offers a field exactly if its name is among those of the class and it makes an accessor for the field.
The members that offer a field are those that the code goes through. -/
theorem offers_iff :
    Offers looksBare classes type source field ↔
      source ∈ publicNames classes type ∧ memberAccessor? classes type source = some ⟨field, source⟩ := by
  constructor
  · rintro (⟨isThere, shown, rfl⟩ | ⟨isThere, shown, bare, told⟩)
    · exact ⟨mem_publicNames isThere shown nofun, by simp [memberAccessor?, isThere, plain]⟩
    · have undescribing := undescribing_of_told (Option.isSome_of_eq_some told)
      exact ⟨mem_publicNames isThere shown fun _ _ => undescribing, by simp [memberAccessor?, isThere, bare, told]⟩
  · rintro ⟨isName, made⟩
    have shown : isPublic source = true := by
      rw [publicNames, List.mem_mergeSort, List.mem_filter] at isName
      exact isName.2
    unfold memberAccessor? at made
    split at made
    · rename_i isThere
      cases made
      exact .property isThere shown rfl
    · rename_i isThere
      split at made
      · rename_i bare
        obtain ⟨_, told, same⟩ := Option.map_eq_some_iff.mp made
        cases same
        exact .getter isThere shown bare told
      · cases made
    · cases made

/-- Of accessors under their own names the one for a field is found if the field is among the names. It is then read
under that name. -/
theorem find?_plain (names : List String) :
    (names.map plain).find? (·.field = field) = if field ∈ names then some (plain field) else none := by
  induction names with
  | nil => rfl
  | cons first rest ih =>
    by_cases same : first = field
    · subst same
      simp [plain]
    · rw [List.map_cons, List.find?_cons_of_neg (by simp [plain, same]), ih]
      simp [Ne.symm same]

/-- Among the members of a class the first accessor for a field is made by the first that offers it. Names are sorted,
so the first is the least. -/
theorem find?_members :
    ((publicNames classes type).filterMap (memberAccessor? classes type)).find? (·.field = field) =
        some ⟨field, source⟩ ↔
      Offers looksBare classes type source field ∧
        ∀ other, Offers looksBare classes type other field → source ≤ other := by
  have makes (name : String) : (memberAccessor? classes type name).any (·.field = field) = true ↔
      memberAccessor? classes type name = some ⟨field, name⟩ := by
    rw [Option.any_eq_true]
    constructor
    · rintro ⟨made, isMade, same⟩
      rw [isMade, ← source_memberAccessor? isMade, ← of_decide_eq_true same]
    · exact fun isMade => ⟨_, isMade, by simp⟩
  rw [List.find?_filterMap, Option.bind_eq_some_iff]
  simp only [find?_eq_some_iff_least pairwise_publicNames, makes, offers_iff, and_imp]
  constructor
  · rintro ⟨name, ⟨⟨isName, made⟩, least⟩, same⟩
    cases source_memberAccessor? same
    exact ⟨⟨isName, same⟩, least⟩
  · rintro ⟨⟨isName, made⟩, least⟩
    exact ⟨source, ⟨⟨isName, made⟩, least⟩, made⟩

/-- The accessors of a class are the sources that it has for fields. Data fields come first, and members only after
them. Data fields come first, then attributes that its objects have room for, and members only after these. -/
theorem mem_declaredAccessors :
    ⟨field, source⟩ ∈ declaredAccessors classes type ↔ DeclaresSource looksBare classes type field source := by
  rw [declaredAccessors, List.mem_mergeSort, mem_foldl_addAccessor, List.find?_append, find?_plain]
  simp only [List.not_mem_nil, false_or, false_implies, implies_true, true_and, List.mem_append]
  by_cases isData : field ∈ publicData classes type
  · rw [if_pos (.inl isData)]
    constructor
    · rintro ⟨⟩
      exact .data isData
    · rintro (_ | ⟨noData, -⟩ | ⟨noData, -⟩)
      · rfl
      · exact absurd isData noData
      · exact absurd isData noData
  · by_cases isStore : field ∈ publicStores classes type
    · rw [if_pos (.inr isStore)]
      constructor
      · rintro ⟨⟩
        exact .store isData isStore
      · rintro (there | _ | ⟨-, noStore⟩)
        · exact absurd there isData
        · rfl
        · exact absurd isStore noStore
    · rw [if_neg (not_or.mpr ⟨isData, isStore⟩), Option.none_or, find?_members]
      constructor
      · rintro ⟨offers, first⟩
        exact .member isData isStore offers first
      · rintro (there | ⟨-, there⟩ | ⟨-, -, offers, first⟩)
        · exact absurd there isData
        · exact absurd there isStore
        · exact ⟨offers, first⟩

/-- Each field of a class has one accessor. An accessor for a field that has one is not added. -/
theorem nodup_declaredAccessors : ((declaredAccessors classes type).map (·.field)).Nodup :=
  ((List.mergeSort_perm _ _).map _).nodup_iff.mpr (nodup_foldl_addAccessor List.nodup_nil)

/-- The source from which a field of a type is taken. Of the built-in types only that of identifiers has fields, which
are its parts. -/
def TakenFrom (isGetter : Method → Bool) (classes : Classes) (type field source : String) : Prop :=
  if type = Classes.typeOf (.uuid 0) then field ∈ (Uuid.attributes 0).map (·.1) ∧ source = field
  else DeclaresSource isGetter classes type field source

/-- The accessors of a type are the sources from which its fields are taken. Besides what its class declares, a type
may have slots, which come last. A built-in type has none, except for that of identifiers. -/
theorem mem_accessorsOf :
    ⟨field, source⟩ ∈ accessorsOf classes type ↔ TakenFrom looksBare classes type field source := by
  unfold accessorsOf TakenFrom
  split
  · simp only [List.mem_map, plain, Accessor.mk.injEq]
    constructor
    · rintro ⟨part, member, rfl, rfl⟩
      exact ⟨⟨part, member, rfl⟩, rfl⟩
    · rintro ⟨⟨part, member, rfl⟩, rfl⟩
      exact ⟨part, member, rfl, rfl⟩
  · exact mem_declaredAccessors

/-- Each field of a type has one accessor, for the types that are built in as for the classes of a host. -/
theorem nodup_accessorsOf : ((accessorsOf classes type).map (·.field)).Nodup := by
  unfold accessorsOf
  split
  · decide +kernel
  · exact nodup_declaredAccessors

/-- A method looks bare if nothing has to be given to it, but for a static one, which has to have a parameter and may
require that one. The parameter that a static method may require is the one that is dropped as if it were the object. -/
theorem looksBare_eq (m : Method) :
    looksBare m = if m.static then !m.parameters.isEmpty && (m.parameters.drop 1).all (!·) else takesNothing m := by
  unfold looksBare takesNothing
  cases m.static with
  | false => rfl
  | true => cases m.parameters <;> rfl

/-- Where two notions of a getter agree on the methods whose names tell fields, these are taken from the same sources.
No other method is ever asked whether it is one. -/
theorem takenFrom_congr {isGetter isGetter' : Method → Bool}
    (same : ∀ name m, classes.item? type name = some (.method m) → (fieldOfMethod? name).isSome = true →
      isGetter m = isGetter' m) :
    TakenFrom isGetter classes type field source ↔ TakenFrom isGetter' classes type field source := by
  have offers (name : String) :
      Offers isGetter classes type name field ↔ Offers isGetter' classes type name field := by
    constructor
    · rintro (⟨isThere, shown, told⟩ | ⟨isThere, shown, getter, told⟩)
      · exact .property isThere shown told
      · exact .getter isThere shown (same name _ isThere (by simp [told]) ▸ getter) told
    · rintro (⟨isThere, shown, told⟩ | ⟨isThere, shown, getter, told⟩)
      · exact .property isThere shown told
      · exact .getter isThere shown (same name _ isThere (by simp [told]) ▸ getter) told
  unfold TakenFrom
  split
  · rfl
  constructor
  · rintro (isData | ⟨noData, isStore⟩ | ⟨noData, noStore, isOffer, first⟩)
    · exact .data isData
    · exact .store noData isStore
    · exact .member noData noStore ((offers _).mp isOffer) fun other there => first other ((offers _).mpr there)
  · rintro (isData | ⟨noData, isStore⟩ | ⟨noData, noStore, isOffer, first⟩)
    · exact .data isData
    · exact .store noData isStore
    · exact .member noData noStore ((offers _).mpr isOffer) fun other there => first other ((offers _).mp there)

end ChestMenu.Discovery
