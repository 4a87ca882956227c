import ChestMenu.Menu.Directory
import ChestMenu.Proofs.Drawing

/-!
# What is loaded from files

A document can give an item texts, slots and actions, but neither a resolver nor a
predicate of its own, and no callback; so no menu that was loaded has a memory. And each is loaded under its own id,
whatever the document says.

Both hold of every directory that is read without a failure, of whatever documents.
-/
namespace ChestMenu

open MenuDocument

/-- What a step that loads menus gives has a property, if it gives anything. -/
abbrev Loads {α : Type} (P : α → Prop) (x : Loading α) : Prop :=
  Leads (fun _ => True) (fun _ => True) P x

section

variable {α : Type} {P : α → Prop}

/-- A step of which nothing need be known loads anything. -/
theorem loads_any (x : Loading α) : Loads (fun _ => True) x :=
  ⟨fun _ _ _ _ _ => ⟨trivial, trivial⟩, fun _ _ _ _ _ => trivial⟩

/-- A result that is there already loads what holds of it. -/
theorem loads_ofExcept {result : Except Failure α} (holds : ∀ a, result = .ok a → P a) :
    Loads P (Loading.ofExcept result) :=
  leads_result holds fun _ _ _ _ => trivial

/-- A result that is there already leaves no notice. So readers that return results can be followed without the
notices. -/
theorem run_ofExcept_eq_ok_iff {result : Except Failure α} {notices after : List Notice} {a : α} :
    (Loading.ofExcept result).run.run notices = (.ok a, after) ↔ result = .ok a ∧ after = notices := by
  change (result, notices) = _ ↔ _
  rw [Prod.mk.injEq, eq_comm (a := notices)]

end

/-- Entering pairs into a map brings in no other pairs. A pair of the map itself may be replaced, which is why this
goes in one direction only. -/
theorem OrderedMap.mem_putAll {α β : Type} [DecidableEq α] {m : OrderedMap α β} {pairs : List (α × β)} {pair : α × β}
    (member : pair ∈ putAll m pairs) : pair ∈ m ∨ pair ∈ pairs := by
  induction pairs generalizing m with
  | nil => exact Or.inl member
  | cons first rest ih =>
    rcases ih (m := put first.1 first.2 m) member with before | later
    · rcases mem_put before with isOld | isFirst
      · exact Or.inl isOld
      · exact Or.inr (List.mem_cons.mpr (Or.inl isFirst))
    · exact Or.inr (List.mem_cons_of_mem _ later)

/-- A map of pairs holds no other pairs. Of several with one key it has a single one. -/
theorem OrderedMap.mem_ofPairs {α β : Type} [DecidableEq α] {pairs : List (α × β)} {pair : α × β}
    (member : pair ∈ ofPairs pairs) : pair ∈ pairs :=
  (mem_putAll (m := []) member).resolve_left (List.not_mem_nil)

/-- Texts stand for all tokens of a table. -/
def Placeholder.Table.AreTexts (table : Placeholder.Table) : Prop :=
  ∀ pair ∈ table, ∃ text, pair.2 = .text text

/-- An item as a document can give it: texts stand for its own placeholders, and no code of a host belongs to it. -/
structure Entry.IsPlain (entry : Entry) : Prop where
  texts : Placeholder.Table.AreTexts entry.placeholders
  fixed : entry.dynamicPlaceholders = []
  unasked : entry.predicate = none
  silent : entry.onClick = none

/-- A menu of such items, without placeholders of its own. -/
structure Menu.IsPlain (menu : Menu) : Prop where
  bare : menu.placeholders = []
  items : ∀ pair ∈ menu.items, pair.2.IsPlain
  pageItems : ∀ pages, menu.pagination = some pages → ∀ entry ∈ pages.items, entry.IsPlain

/-- An item without code has no memory. It has no resolvers of its own and no predicate. -/
theorem Entry.IsPlain.isPure {entry : Entry} (plain : entry.IsPlain) : entry.IsPure where
  placeholders := by simp [plain.fixed]
  predicate := by simp [plain.unasked]

/-- A menu of items without code has no memory, its page items included. -/
theorem Menu.IsPlain.isPure {menu : Menu} (plain : menu.IsPlain) : menu.IsPure where
  items pair member := (plain.items pair member).isPure
  pageItems pages found entry member := (plain.pageItems pages found entry member).isPure

variable [Machine]

namespace MenuDocument

/-- Texts stand for the own placeholders of an item. Whatever the document has for them is written out when it is
read. -/
theorem areTexts_of_metadataOf (v : Value) : Gives Placeholder.Table.AreTexts (metadataOf v) := by
  unfold metadataOf
  refine gives_bind fun entries areEntries => gives_pure fun pair member => ?_
  obtain ⟨source, -, given⟩ := mem_of_mapM areEntries (OrderedMap.mem_ofPairs member)
  obtain ⟨name, -, given⟩ := ok_of_bind given
  split at given
  · cases given
    exact ⟨_, rfl⟩
  · obtain ⟨text, -, same⟩ := ok_of_bind given
    cases same
    exact ⟨text, rfl⟩

/-- An item of a document is plain, whatever the document says. No document can hold code of a host. -/
theorem isPlain_of_entryOf (calls : Nat) (document : Value) (needsSlots : Bool) :
    Gives (fun found => ∀ entry, found = some entry → entry.IsPlain) (entryOf calls document needsSlots) := by
  have nothing : ∀ entry, (none : Option Entry) = some entry → entry.IsPlain := by simp
  unfold entryOf
  refine gives_bind fun hasMaterial _ => ?_
  split
  · exact gives_pure nothing
  refine gives_bind fun slots _ => ?_
  split
  · exact gives_pure nothing
  -- Its texts, its actions and its numbers are read one after another, and its own placeholders last but one.
  iterate 10 refine gives_bind fun _ _ => ?_
  refine gives_bind fun placeholders arePlaceholders => gives_bind fun _ _ => ?_
  apply gives_pure
  rintro _ ⟨⟩
  exact ⟨areTexts_of_metadataOf _ placeholders arePlaceholders, rfl, rfl, rfl⟩

/-- Any of several items of a document is plain. The induction is on the members of their section. -/
theorem isPlain_of_entriesOf (calls : Nat) (needsSlots : Bool) (members : List (Value × Value)) :
    Gives (fun entries => ∀ pair ∈ entries, pair.2.IsPlain) (entriesOf calls needsSlots members) := by
  intro entries given pair member
  obtain ⟨source, -, found⟩ := mem_of_filterMapM given member
  dsimp only at found
  split at found
  · obtain ⟨name, -, found⟩ := ok_of_bind found
    obtain ⟨found, isEntry, same⟩ := ok_of_bind found
    obtain ⟨entry, isSome, rfl⟩ := Option.map_eq_some_iff.mp (Except.ok.inj same)
    exact isPlain_of_entryOf _ _ _ _ isEntry entry isSome
  · cases found

/-- Any page item of a document is plain, too, as page items are read like all others. -/
theorem isPlain_of_paginationOf (document : Value) :
    Gives (fun found => ∀ pages, found = some pages → ∀ entry ∈ pages.items, entry.IsPlain)
      (paginationOf document) := by
  unfold paginationOf
  refine gives_bind fun enabled _ => ?_
  split
  · exact gives_pure (by simp)
  refine gives_bind fun slots _ => gives_bind fun items areItems => ?_
  have plain : ∀ entry ∈ items, entry.IsPlain := by
    intro entry member
    obtain ⟨entries, given, same⟩ := ok_of_bind areItems
    cases same
    obtain ⟨pair, isPair, rfl⟩ := List.mem_map.mp member
    exact isPlain_of_entriesOf _ _ _ entries given pair isPair
  -- The number of pages may be fixed or not.
  dsimp only
  split
  · exact gives_pure (by rintro _ ⟨⟩; exact plain)
  · exact gives_bind fun number _ => gives_pure (by rintro _ ⟨⟩; exact plain)

end MenuDocument

/-- A menu that was loaded under an id: it is its own, and none of its items has code of a host. -/
structure Menu.LoadedAs (id : String) (menu : Menu) : Prop where
  own : menu.id = id
  plain : menu.IsPlain

/-- The menu of a document is loaded under the id that it was to be loaded under, and without code of a host. -/
theorem Menu.loads_ofDocument (document : Value) (id : String) (defaultSize : Value) :
    Loads (Menu.LoadedAs id) (Menu.ofDocument document id defaultSize) := by
  unfold Menu.ofDocument
  refine leads_bind (loads_any _) fun document _ => ?_
  -- Before its pages are read, the menu has the items and the id.
  refine leads_bind (P := fun menu => menu.id = id ∧ menu.placeholders = [] ∧ ∀ pair ∈ menu.items, pair.2.IsPlain) ?_
    fun drawn holds => ?_
  · apply loads_ofExcept
    change Gives _ _
    iterate 5 refine gives_bind fun _ _ => ?_
    refine gives_bind fun items areItems => gives_pure ⟨rfl, rfl, fun pair member => ?_⟩
    exact isPlain_of_entriesOf _ _ _ items areItems pair (OrderedMap.mem_ofPairs member)
  · obtain ⟨own, bare, items⟩ := holds
    refine leads_bind (loads_any _) fun _ _ => ?_
    apply loads_ofExcept
    change Gives _ _
    refine gives_bind fun pagination isPagination => ?_
    iterate 3 refine gives_bind fun _ _ => ?_
    exact gives_pure ⟨own, bare, items, isPlain_of_paginationOf _ pagination isPagination⟩

/-- The menu of a file, if there is one in it, is loaded under the name of the file without its ending. -/
theorem Menu.loads_ofFile (name : String) (content : Option FileContent) (defaultSize : Value) :
    Loads (fun found => ∀ menu, found = some menu → menu.LoadedAs (MenuName.stem name))
      (Menu.ofFile name content defaultSize) := by
  unfold Menu.ofFile
  split
  · refine leads_bind (Menu.loads_ofDocument _ _ _) fun menu loaded => leads_pure ?_
    rintro _ ⟨⟩
    exact loaded
  · exact leads_bind (loads_any _) fun _ _ => leads_pure (by simp)
  · exact leads_throw fun _ _ => trivial

/-- The menus of a directory are loaded under their own ids, and none has code of a host. The invariant of the loop
over the files is that this holds of the menus that are there. -/
theorem Menu.loads_ofDirectory (directory : String) (listing : Option FileListing) (defaultSize : Value) :
    Loads (fun menus => ∀ pair ∈ menus, pair.2.LoadedAs pair.1)
      (Menu.ofDirectory directory listing defaultSize) := by
  unfold Menu.ofDirectory
  cases listing with
  | none => exact leads_bind (loads_any _) fun _ _ => leads_pure (by simp)
  | some files =>
    refine leads_foldlM (by simp) fun file _ menus holds => ?_
    refine leads_bind (Menu.loads_ofFile _ _ _) fun found loaded => ?_
    cases found with
    | none => exact leads_pure holds
    | some menu =>
      refine leads_pure fun pair member => ?_
      rcases OrderedMap.mem_put member with before | rfl
      · exact holds pair before
      · obtain ⟨own, plain⟩ := loaded menu rfl
        exact ⟨rfl, plain⟩

/-- Whatever menus a reading of a directory gives, they are loaded under their own ids, and none has code of a host. -/
theorem Menu.loadedAs_ofDirectory {directory : String} {listing : Option FileListing} {defaultSize : Value}
    {notices after : List Notice} {menus : OrderedMap String Menu}
    (read : (Menu.ofDirectory directory listing defaultSize).run.run notices = (.ok menus, after)) :
    ∀ pair ∈ menus, pair.2.LoadedAs pair.1 :=
  ((Menu.loads_ofDirectory directory listing defaultSize).answered notices trivial menus after read).1

end ChestMenu
