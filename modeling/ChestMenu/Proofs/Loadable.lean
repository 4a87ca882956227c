import ChestMenu.Proofs.ReadData

/-!
# Which documents stop the loading of menus

A document degrades gracefully in most places: what is of a wrong kind counts as left out. It does not where a number
is infinite that is read as an integer, where lines cannot be gone through, where a range has more slots than there is
room for, where lists are nested too deep, or where something has no text; and then not only the menu is lost, but with
it all menus of the directory.

The conditions are exact, for the documents as well as for the directories, and no part of a document counts that is
not read. How many members and how many levels there is room for is left to the machine.
-/
namespace ChestMenu

open ChestMenu.Number ChestMenu.Text

namespace MenuDocument

variable [Machine]

/-- The menu of a document without its pages and without what is read behind them. -/
def drawnOf (document : Value) (id : String) (defaultSize : Value) : Except Failure Menu := do
  let title ← ((document.get? "title").getD (.text "Menu")).shown
  let usualSize ← sizeOf defaultSize fullSize
  let size ← sizeOf ((document.get? "size").getD defaultSize) usualSize
  let placeable ← Slots.ofValueWithin (Machine.calls + 3) (document.get "placeable-slots")
  let contextAware ← flagOf (document.get "context-aware") false
  let items ← entriesOf (Machine.calls + 2) true (pairsOf (sectionOf document "items"))
  return { id, title, size, placeable := placeable.eraseDups, contextAware, items := .ofPairs items }

/-- The menu with its pages and what is read behind them. -/
def completed (document : Value) (drawn : Menu) : Except Failure Menu := do
  let inventory := sectionOf document "player-inventory"
  let pagination ← paginationOf document
  let refresh ← refreshOf document
  let playerInventory ← flagOf (inventory.get "enabled") false
  let inventoryHandler ← textIfTrue (inventory.get "handler")
  return { drawn with pagination, refresh, playerInventory, inventoryHandler }

omit [Machine] in
/-- Slots that are claimed twice are noted, one after another. This never fails, whatever the numbers of the slots. -/
theorem run_noteOverlaps (id : String) (overlaps : List (Int × String × String)) (notices : List Notice) :
    (forIn overlaps PUnit.unit fun overlap _ => do
        Loading.note (.slotClaimedTwice id overlap.1 overlap.2.1 overlap.2.2)
        return ForInStep.yield PUnit.unit : Loading PUnit).run.run notices =
      (.ok PUnit.unit, notices ++ overlaps.map fun overlap =>
        .slotClaimedTwice id overlap.1 overlap.2.1 overlap.2.2) := by
  induction overlaps generalizing notices with
  | nil =>
    rw [List.map_nil, List.append_nil]
    rfl
  | cons overlap overlaps ih =>
    rw [List.forIn_cons, run_bind]
    refine (ih (notices ++ [.slotClaimedTwice id overlap.1 overlap.2.1 overlap.2.2])).trans ?_
    rw [List.map_cons, List.append_assoc, List.singleton_append]

/-- The menu of a mapping is loaded in three steps: what is drawn on every page, the notices of slots that are claimed
twice, and what is read behind these. Only the first and the last can fail. -/
theorem ofDocument_eq_ok_iff {pairs : List (Value × Value)} {id : String} {defaultSize : Value}
    {notices after : List Notice} {menu : Menu} :
    (Menu.ofDocument (.map pairs) id defaultSize).run.run notices = (.ok menu, after) ↔
      ∃ drawn, drawnOf (.map pairs) id defaultSize = .ok drawn ∧ completed (.map pairs) drawn = .ok menu ∧
        after = notices ++
          drawn.overlaps.map fun overlap => .slotClaimedTwice id overlap.1 overlap.2.1 overlap.2.2 := by
  have opened : (do
      if !(← (Value.map pairs).truth) then return Value.map []
      else if (Value.map pairs).pairs?.isSome then return Value.map pairs
      else throw (.missingAttribute "get") : Except Failure Value) = .ok (.map pairs) := by
    cases pairs <;> rfl
  have ready (document : Value) : Loading.ofExcept (.ok document) = pure document := rfl
  rw [Menu.ofDocument, opened, ready, pure_bind]
  dsimp only
  simp only [run_bind_eq_ok_iff, run_ofExcept_eq_ok_iff]
  constructor
  · rintro ⟨drawn, _, ⟨isDrawn, rfl⟩, _, between, noted, isMenu, rfl⟩
    obtain ⟨-, rfl⟩ := Prod.mk.inj ((run_noteOverlaps id drawn.overlaps _).symm.trans noted)
    exact ⟨drawn, isDrawn, isMenu, rfl⟩
  · rintro ⟨drawn, isDrawn, isMenu, rfl⟩
    exact ⟨drawn, _, ⟨isDrawn, rfl⟩, _, _, run_noteOverlaps id drawn.overlaps _, isMenu, rfl⟩

variable {circles : Prop} {v document : Value}

/-- The lines of an item can be read: if there are any, they can be gone through, and each has a text. -/
def HasLines (v : Value) : Prop :=
  v.truth = .ok true → ∃ xs, v.members = .ok xs ∧ ∀ x ∈ xs, x.HasText

/-- The members of a value are gone through and written exactly if it has members, and each of them has a text. -/
theorem succeeds_members :
    Succeeds (do (← v.members).mapM (·.shown)) ↔ ∃ xs, v.members = .ok xs ∧ ∀ x ∈ xs, x.HasText := by
  simp only [succeeds_bind, succeeds_mapM, Value.HasText]

/-- Actions can be read from lines exactly if these have members which all have texts, or count as false. Whatever is
no action is passed over, so nothing else can stop the reading. -/
theorem succeeds_ofLines {b : Bool} (isTrue : v.truth = .ok b) : Succeeds (Action.ofLines v) ↔ HasLines v := by
  unfold HasLines Action.ofLines
  rw [isTrue]
  cases b with
  | false => exact iff_of_true (succeeds_ok _) fun h => nomatch h
  | true =>
    rw [← succeeds_members, imp_iff_right rfl]
    change Succeeds (do
      let xs ← v.members
      let texts ← xs.mapM (·.shown)
      return texts.filterMap Action.ofText?) ↔ _
    rw [succeeds_bind, succeeds_bind]
    exact exists_congr fun _ => and_congr_right fun _ => succeeds_bind_pure

/-- The lines of an item are read both for its lore and for its actions if they can be read at all. So a lore that is
written is a list of actions that is read, and the other way round. -/
theorem succeeds_linesOf (data : v.IsData circles) :
    ∃ lines, linesOf v = .ok lines ∧ (Succeeds (do (← lines.members).mapM (·.shown)) ↔ HasLines v) ∧
      (Succeeds (Action.ofLines lines) ↔ HasLines v) := by
  obtain ⟨b, isTrue⟩ := data.truth
  cases b with
  | false =>
    have none : HasLines v := fun h => by rw [isTrue] at h; cases h
    refine ⟨.list [], by rw [linesOf, isTrue]; rfl, iff_of_true (succeeds_ok _) none, iff_of_true (succeeds_ok _) none⟩
  | true =>
    cases plain : v.plain with
    | text s =>
      obtain rfl := data.eq_text_of_plain plain
      have written : HasLines (.text s) := by
        refine fun _ => ⟨_, rfl, fun x member => ?_⟩
        obtain ⟨c, -, rfl⟩ := List.mem_map.mp member
        exact succeeds_ok _
      refine ⟨.list [.text s], by rw [linesOf, isTrue]; rfl, iff_of_true ⟨_, rfl⟩ written, iff_of_true ⟨_, rfl⟩ written⟩
    | _ =>
      refine ⟨v, by simp only [linesOf, isTrue, plain]; rfl, ?_, succeeds_ofLines isTrue⟩
      rw [succeeds_members, HasLines, isTrue, imp_iff_right rfl]

/-- A text that counts only if its value counts as true can be had exactly if that value has a text whenever it does. -/
theorem succeeds_textIfTrue (data : v.IsData circles) : Succeeds (textIfTrue v) ↔ (v.truth = .ok true → v.HasText) := by
  obtain ⟨b, isTrue⟩ := data.truth
  unfold textIfTrue
  rw [isTrue]
  cases b with
  | false => exact iff_of_true (succeeds_ok _) fun h => nomatch h
  | true => exact succeeds_bind_pure.trans (imp_iff_right rfl).symm

/-- The own placeholders of an item can be read exactly if all their names and values have texts. What is no mapping
has none. -/
theorem succeeds_metadataOf :
    Succeeds (metadataOf v) ↔ ∀ pair ∈ pairsOf v, pair.1.HasText ∧ pair.2.HasText := by
  unfold metadataOf
  rw [succeeds_bind_pure, succeeds_mapM]
  refine forall₂_congr fun pair _ => succeeds_bind_and .rfl fun name _ => ?_
  split
  · rename_i isNull
    rw [isNull]
    exact iff_of_true (succeeds_ok _) ⟨_, rfl⟩
  · exact succeeds_bind_pure

/-- The value that the slots of an item are read from. -/
def slotsMember (item : Value) : Value :=
  (item.get? "slot").getD (item.get "slots")

/-- What is read of an item that is kept. -/
structure ItemReadable (item : Value) : Prop where
  material : (item.get "material").HasText
  name : ((item.get? "name").getD (.text "")).HasText
  lore : HasLines (item.get "lore")
  amount : ¬(item.get "amount").IsInfinite
  actions : HasLines (item.get "actions")
  priority : ¬(item.get "priority").IsInfinite
  placeholders : ∀ pair ∈ pairsOf (sectionOf item "metadata"), pair.1.HasText ∧ pair.2.HasText
  visibleIf : (item.get "visible-if").truth = .ok true → (item.get "visible-if").HasText

/-- An item does not stop the loading: unless it has no material, its slots can be read, and if there are some where
it needs them, so can the rest. -/
def ItemLoads (calls : Nat) (needsSlots : Bool) (item : Value) : Prop :=
  (item.get "material").truth = .ok true →
    ∃ slots, Slots.ofValueWithin calls (slotsMember item) = .ok slots ∧
      ((needsSlots = true → slots ≠ []) → ItemReadable item)

/-- An item is read, whether it is kept or not, exactly if it does not stop the loading. The members are read one
after another, so none may stop. -/
theorem succeeds_entryOf {item : Value} (data : item.IsData circles) (calls : Nat) (needsSlots : Bool) :
    Succeeds (entryOf calls item needsSlots) ↔ ItemLoads calls needsSlots item := by
  have given {α β : Type} (a : α) (f : α → Except Failure β) : (Except.ok a >>= f) = f a := rfl
  obtain ⟨hasMaterial, isTrue⟩ := (data.get "material").truth
  obtain ⟨lore, isLore, loreTexts, -⟩ := succeeds_linesOf (data.get "lore")
  obtain ⟨actions, areActions, -, actionLines⟩ := succeeds_linesOf (data.get "actions")
  unfold entryOf ItemLoads
  dsimp only
  rw [isTrue, isLore, areActions, given]
  cases hasMaterial with
  | false => exact iff_of_true (succeeds_ok _) fun h => nomatch h
  | true =>
    rw [imp_iff_right rfl, if_neg (by decide), succeeds_bind]
    refine exists_congr fun slots => and_congr_right fun _ => ?_
    split
    · rename_i none
      rw [Bool.and_eq_true, List.isEmpty_iff] at none
      exact iff_of_true (succeeds_ok _) fun some => absurd none.2 (some none.1)
    · rename_i some
      have kept : needsSlots = true → slots ≠ [] := by simpa using some
      have inOrder : ItemReadable item ↔ _ ∧ _ ∧ _ ∧ _ ∧ _ ∧ _ ∧ True ∧ _ ∧ _ :=
        ⟨fun r => ⟨r.material, r.name, r.lore, r.amount, r.actions, r.priority, trivial, r.placeholders, r.visibleIf⟩,
          fun ⟨material, name, lore, amount, actions, priority, _, placeholders, visibleIf⟩ =>
            ⟨material, name, lore, amount, actions, priority, placeholders, visibleIf⟩⟩
      rw [imp_iff_right kept, inOrder, given, given]
      refine succeeds_bind_and .rfl fun _ _ => succeeds_bind_and .rfl fun _ _ => ?_
      rw [← bind_assoc]
      refine succeeds_bind_and loreTexts fun _ _ => ?_
      refine succeeds_bind_and ((data.get "amount").succeeds_integerOf 1) fun _ _ => ?_
      refine succeeds_bind_and actionLines fun _ _ => ?_
      refine succeeds_bind_and ((data.get "priority").succeeds_integerOf 0) fun _ _ => ?_
      refine succeeds_bind_and (iff_true_intro ((data.get "clickable").succeeds_flagOf true)) fun _ _ => ?_
      refine succeeds_bind_and succeeds_metadataOf fun _ _ => ?_
      exact succeeds_bind_pure.trans (succeeds_textIfTrue (data.get "visible-if"))

/-- Among the members of a section, those that are mappings have keys with a text and do not stop the loading. -/
def EntriesLoad (calls : Nat) (needsSlots : Bool) (members : List (Value × Value)) : Prop :=
  ∀ pair ∈ members, pair.2.pairs?.isSome = true → pair.1.HasText ∧ ItemLoads calls needsSlots pair.2

/-- The items of a section are read exactly if none of them stops the loading. The induction is on the members of the
section. -/
theorem succeeds_entriesOf {members : List (Value × Value)} (data : ∀ pair ∈ members, pair.2.IsData circles)
    (calls : Nat) (needsSlots : Bool) :
    Succeeds (entriesOf calls needsSlots members) ↔ EntriesLoad calls needsSlots members := by
  rw [entriesOf, succeeds_filterMapM]
  refine forall₂_congr fun pair member => ?_
  dsimp only
  split
  · rename_i isMap
    rw [imp_iff_right isMap]
    exact succeeds_bind_and .rfl fun _ _ => succeeds_bind_pure.trans (succeeds_entryOf (data pair member) calls needsSlots)
  · rename_i noMap
    exact iff_of_true (succeeds_ok _) fun isMap => absurd isMap noMap

omit [Machine] in
/-- A section of data is data. A section that is missing is an empty mapping. -/
theorem isData_sectionOf (data : document.IsData circles) (name : String) :
    (sectionOf document name).IsData circles := by
  unfold sectionOf
  cases found : (document.get name).pairs? with
  | none => exact .map (by simp) (by simp)
  | some pairs =>
    exact .map (fun _ member => ((data.get name).of_mem_pairs? found member).1)
      fun _ member => ((data.get name).of_mem_pairs? found member).2

omit [Machine] in
/-- A size can be read exactly if it is no infinite number. Anything else that is no size is replaced by the default. -/
theorem succeeds_sizeOf (data : v.IsData circles) (default : Int) : Succeeds (sizeOf v default) ↔ ¬v.IsInfinite :=
  succeeds_bind_pure.trans (data.succeeds_integerOf default)

/-- What the page items of a document are read from: the pairs of a mapping, or the members of a list. -/
def pageMembers (v : Value) : List (Value × Value) :=
  match v.plain with
  | .map pairs => pairs
  | .list xs => xs.map fun x => (.null, x)
  | _ => []

omit [Machine] in
/-- The members that page items are read from are data. They are those of a mapping or of a list, and any other value
has none. -/
theorem isData_of_mem_pageMembers (data : v.IsData circles) {pair : Value × Value} (member : pair ∈ pageMembers v) :
    pair.2.IsData circles := by
  have isPlain := data.plain
  unfold pageMembers at member
  split at member
  · rename_i isMap
    rw [isMap] at isPlain
    cases isPlain with
    | scalar scalar => cases scalar
    | map _ values => exact values pair member
  · rename_i isList
    rw [isList] at isPlain
    obtain ⟨x, isMember, rfl⟩ := List.mem_map.mp member
    cases isPlain with
    | scalar scalar => cases scalar
    | list all => exact all x isMember
  · cases member

/-- A flag that is set. -/
def IsSet (v : Value) : Prop :=
  flagOf v false = .ok true

/-- What is read of the pages of a menu that has pages. -/
structure PagesReadable (pages : Value) : Prop where
  slots : (pages.get "slots").HasSlots (Machine.calls + 3)
  items : EntriesLoad (Machine.calls + 1) false (pageMembers (pages.get "items"))
  fixed : ¬(pages.get "pages").IsInfinite

omit [Machine] in
/-- What a section says is read only if the section is enabled. What it says otherwise makes no difference. -/
theorem succeeds_ifSet {α : Type} (data : v.IsData circles) {default : α} {f : Except Failure α} {P : Prop}
    (enabled : Succeeds f ↔ P) :
    Succeeds (do if !(← flagOf v false) then return default else f) ↔ (IsSet v → P) := by
  obtain ⟨b, isFlag⟩ := data.succeeds_flagOf false
  unfold IsSet
  rw [isFlag]
  cases b with
  | false => exact iff_of_true (succeeds_ok _) fun h => nomatch h
  | true => exact enabled.trans (imp_iff_right rfl).symm

/-- The pages of a document can be read exactly if its section, when it is enabled, has page items that can be read
and slots and a count that can. -/
theorem succeeds_paginationOf (data : document.IsData circles) :
    Succeeds (paginationOf document) ↔
      (IsSet ((sectionOf document "pagination").get "enabled") → PagesReadable (sectionOf document "pagination")) := by
  have pages := isData_sectionOf data "pagination"
  have inOrder : PagesReadable (sectionOf document "pagination") ↔ _ ∧ _ ∧ _ :=
    ⟨fun r => ⟨r.slots, r.items, r.fixed⟩, fun ⟨slots, items, fixed⟩ => ⟨slots, items, fixed⟩⟩
  refine succeeds_ifSet (pages.get "enabled") ?_
  rw [inOrder]
  refine succeeds_bind_and .rfl fun _ _ => succeeds_bind_and ?_ fun _ _ => ?_
  · have isData : ∀ pair ∈ pageMembers ((sectionOf document "pagination").get "items"), pair.2.IsData circles :=
      fun _ member => isData_of_mem_pageMembers (pages.get "items") member
    exact succeeds_bind_pure.trans (succeeds_entriesOf isData _ false)
  · -- The number of pages may be fixed or not.
    dsimp only
    split
    · rename_i isNull
      rw [isNull]
      exact iff_of_true (succeeds_ok _) fun ⟨_, _, isReal, _⟩ => nomatch isReal
    · exact succeeds_bind_pure.trans ((pages.get "pages").succeeds_integerOf 1)

/-- The refreshing of a document can be read exactly if its section, when it is enabled, has an interval that is no
infinite number and slots that can be read. -/
theorem succeeds_refreshOf (data : document.IsData circles) :
    Succeeds (refreshOf document) ↔
      (IsSet ((sectionOf document "auto-refresh").get "enabled") →
        ¬((sectionOf document "auto-refresh").get "interval").IsInfinite ∧
          ((sectionOf document "auto-refresh").get "slots").HasSlots (Machine.calls + 3)) := by
  have refresh := isData_sectionOf data "auto-refresh"
  refine succeeds_ifSet (refresh.get "enabled") ?_
  exact succeeds_bind_and ((refresh.get "interval").succeeds_integerOf usualInterval) fun _ _ => succeeds_bind_pure

/-- A document that does not stop the loading of menus. -/
structure Loadable (document : Value) : Prop where
  title : ((document.get? "title").getD (.text "Menu")).HasText
  size : ¬(document.get "size").IsInfinite
  placeable : (document.get "placeable-slots").HasSlots (Machine.calls + 3)
  items : EntriesLoad (Machine.calls + 2) true (pairsOf (sectionOf document "items"))
  pages : IsSet ((sectionOf document "pagination").get "enabled") → PagesReadable (sectionOf document "pagination")
  refresh : IsSet ((sectionOf document "auto-refresh").get "enabled") →
    ¬((sectionOf document "auto-refresh").get "interval").IsInfinite ∧
      ((sectionOf document "auto-refresh").get "slots").HasSlots (Machine.calls + 3)
  handler : ((sectionOf document "player-inventory").get "handler").truth = .ok true →
    ((sectionOf document "player-inventory").get "handler").HasText

omit [Machine] in
/-- The size is infinite if the document says so; the default that may stand for it is finite. -/
theorem isInfinite_size (defaultSize : Int) :
    ((document.get? "size").getD (.int defaultSize)).IsInfinite ↔ (document.get "size").IsInfinite := by
  unfold Value.get
  cases document.get? "size" with
  | some v => exact .rfl
  | none => exact iff_of_false (fun ⟨_, _, isReal, _⟩ => nomatch isReal) fun ⟨_, _, isReal, _⟩ => nomatch isReal

omit [Machine] in
/-- The items of a section of data are data, and so are their names. -/
theorem isData_of_mem_sectionOf (data : document.IsData circles) (name : String) {pair : Value × Value}
    (member : pair ∈ pairsOf (sectionOf document name)) : pair.2.IsData circles :=
  ((isData_sectionOf data name).of_mem_pairs? rfl member).2

/-- What is drawn on every page can be read exactly if the title has a text, the size and the slots that things may be
put into can be read, and none of the items stops the reading. -/
theorem drawnOf_eq_ok_iff {id : String} {defaultSize : Value} {drawn : Menu} :
    drawnOf document id defaultSize = .ok drawn ↔
      ∃ title usualSize size placeable contextAware items,
        ((document.get? "title").getD (.text "Menu")).shown = .ok title ∧
        sizeOf defaultSize fullSize = .ok usualSize ∧
        sizeOf ((document.get? "size").getD defaultSize) usualSize = .ok size ∧
        Slots.ofValueWithin (Machine.calls + 3) (document.get "placeable-slots") = .ok placeable ∧
        flagOf (document.get "context-aware") false = .ok contextAware ∧
        entriesOf (Machine.calls + 2) true (pairsOf (sectionOf document "items")) = .ok items ∧
        drawn = { id, title, size, placeable := placeable.eraseDups, contextAware, items := .ofPairs items } := by
  simp only [drawnOf, bind_eq_ok_iff, pure_eq_ok_iff]
  constructor
  · rintro ⟨title, isTitle, usualSize, isUsual, size, isSize, placeable, isPlaceable, contextAware, isAware, items,
      areItems, rfl⟩
    exact ⟨title, usualSize, size, placeable, contextAware, items, isTitle, isUsual, isSize, isPlaceable, isAware,
      areItems, rfl⟩
  · rintro ⟨title, usualSize, size, placeable, contextAware, items, isTitle, isUsual, isSize, isPlaceable, isAware,
      areItems, rfl⟩
    exact ⟨title, isTitle, usualSize, isUsual, size, isSize, placeable, isPlaceable, contextAware, isAware, items,
      areItems, rfl⟩

/-- A document that is data is loaded exactly if it does not stop the loading. It is read by one reader after another,
and the conditions of these are put together. -/
theorem ofDocument_succeeds_iff {pairs : List (Value × Value)} (data : (Value.map pairs).IsData circles) (id : String)
    (defaultSize : Int) (notices : List Notice) :
    (∃ menu after, (Menu.ofDocument (.map pairs) id (.int defaultSize)).run.run notices = (.ok menu, after)) ↔
      Loadable (.map pairs) := by
  have rest (drawn : Menu) : Succeeds (completed (.map pairs) drawn) ↔ _ :=
    succeeds_bind_and (succeeds_paginationOf data) fun _ _ => succeeds_bind_and (succeeds_refreshOf data) fun _ _ =>
      succeeds_bind_and
        (iff_true_intro (((isData_sectionOf data "player-inventory").get "enabled").succeeds_flagOf false))
        fun _ _ => succeeds_bind_pure.trans
          (succeeds_textIfTrue ((isData_sectionOf data "player-inventory").get "handler"))
  have items := succeeds_entriesOf (fun pair member => isData_of_mem_sectionOf data "items" member) (Machine.calls + 2) true
  have default : Value.IsData circles (.int defaultSize) := .scalar (.int defaultSize)
  have size : Value.IsData circles (((Value.map pairs).get? "size").getD (.int defaultSize)) := by
    cases found : (Value.map pairs).get? "size" with
    | none => exact default
    | some v => exact data.of_get? found
  constructor
  · rintro ⟨menu, after, loaded⟩
    obtain ⟨drawn, isDrawn, isMenu, -⟩ := ofDocument_eq_ok_iff.mp loaded
    obtain ⟨pages, refresh, -, handler⟩ := (rest drawn).mp ⟨menu, isMenu⟩
    obtain ⟨title, usualSize, number, placeable, contextAware, entries, isTitle, isUsual, isSize, isPlaceable, isAware,
      areItems, rfl⟩ := drawnOf_eq_ok_iff.mp isDrawn
    refine ⟨⟨title, isTitle⟩, ?_, ⟨placeable, isPlaceable⟩, items.mp ⟨entries, areItems⟩, pages, refresh, handler⟩
    rw [← isInfinite_size defaultSize]
    exact (succeeds_sizeOf size usualSize).mp ⟨number, isSize⟩
  · intro loadable
    obtain ⟨title, isTitle⟩ := loadable.title
    obtain ⟨usualSize, isUsual⟩ := (succeeds_sizeOf default fullSize).mpr fun ⟨_, _, isReal, _⟩ => nomatch isReal
    obtain ⟨number, isSize⟩ := (succeeds_sizeOf size usualSize).mpr
      ((not_congr (isInfinite_size defaultSize)).mpr loadable.size)
    obtain ⟨placeable, isPlaceable⟩ := loadable.placeable
    obtain ⟨contextAware, isAware⟩ := (data.get "context-aware").succeeds_flagOf false
    obtain ⟨entries, areItems⟩ := items.mpr loadable.items
    obtain ⟨drawn, isDrawn⟩ : ∃ drawn, drawnOf (.map pairs) id (.int defaultSize) = .ok drawn :=
      ⟨_, drawnOf_eq_ok_iff.mpr ⟨title, usualSize, number, placeable, contextAware, entries, isTitle, isUsual, isSize,
        isPlaceable, isAware, areItems, rfl⟩⟩
    obtain ⟨menu, isMenu⟩ := (rest drawn).mpr ⟨loadable.pages, loadable.refresh, trivial, loadable.handler⟩
    exact ⟨menu, _, ofDocument_eq_ok_iff.mpr ⟨drawn, isDrawn, isMenu, rfl⟩⟩

end MenuDocument

open MenuDocument

section

variable [Machine]

/-- A file does not stop the loading: its text breaks nothing off, and if there is a document in it, the document does
not stop it either. -/
structure FileLoads (name : String) (content : FileContent) : Prop where
  legible : ∀ cause, readDocument name content ≠ .error (.failed cause)
  loads : ∀ document, readDocument name content = .ok document → Loadable document

section

variable {defaultSize : Int} {name : String} {content : FileContent} {notices after : List Notice}

/-- A file is loaded, whether there is a menu in it or not, exactly if it does not stop the loading. A file that
cannot be read at all is passed over with a notice. -/
theorem ofFile_succeeds_iff :
    (∃ found after, (Menu.ofFile name (some content) (.int defaultSize)).run.run notices = (.ok found, after)) ↔
      FileLoads name content := by
  unfold Menu.ofFile
  rw [Option.map_some, Option.getD_some]
  cases read : readDocument name content with
  | ok document =>
    obtain ⟨pairs, rfl, data⟩ := isData_of_readDocument read
    have loads := ofDocument_succeeds_iff data (MenuName.stem name) defaultSize notices
    dsimp only
    simp only [run_bind_eq_ok_iff]
    constructor
    · rintro ⟨found, after, menu, between, loaded, -⟩
      refine ⟨fun cause failed => (nomatch read.symm.trans failed), fun document same => ?_⟩
      cases read.symm.trans same
      exact loads.mp ⟨menu, between, loaded⟩
    · rintro ⟨-, loadable⟩
      obtain ⟨menu, between, loaded⟩ := loads.mpr (loadable _ read)
      exact ⟨some menu, between, menu, between, loaded, rfl⟩
  | error fault =>
    cases fault with
    | malformed =>
      refine iff_of_true ⟨none, _, rfl⟩ ⟨fun cause failed => ?_, fun document same => ?_⟩
      · cases read.symm.trans failed
      · cases read.symm.trans same
    | failed cause => exact iff_of_false (fun ⟨_, _, failed⟩ => nomatch failed) fun loads => loads.legible cause read

/-- From a file with a document a menu is loaded. Only files without one have none. -/
theorem exists_menu_of_ofFile {found : Option Menu} {document : Value}
    (loaded : (Menu.ofFile name (some content) (.int defaultSize)).run.run notices = (.ok found, after))
    (read : readDocument name content = .ok document) : ∃ menu, found = some menu := by
  unfold Menu.ofFile at loaded
  rw [Option.map_some, Option.getD_some, read] at loaded
  obtain ⟨menu, between, -, same⟩ := run_bind_eq_ok_iff.mp loaded
  cases same
  exact ⟨menu, rfl⟩

end

/-- Loads the menu of one of several files. -/
def loadInto (defaultSize : Value) (menus : OrderedMap String Menu) (file : String × FileContent) :
    Loading (OrderedMap String Menu) := do
  match ← Menu.ofFile file.1 (some file.2) defaultSize with
  | some menu => return menus.put menu.id menu
  | none => return menus

section

variable {defaultSize : Int} {files : List (String × FileContent)} {menus loaded : OrderedMap String Menu}
  {notices after : List Notice}

/-- The menu of a file is entered, if there is one, exactly if the file does not stop the loading. Entering it cannot
fail. -/
theorem loadInto_succeeds_iff {file : String × FileContent} :
    (∃ loaded after, (loadInto (.int defaultSize) menus file).run.run notices = (.ok loaded, after)) ↔
      FileLoads file.1 file.2 := by
  have entered := @ofFile_succeeds_iff _ defaultSize file.1 file.2 notices
  rw [← entered]
  constructor
  · rintro ⟨loaded, after, given⟩
    obtain ⟨found, between, first, -⟩ := run_bind_eq_ok_iff.mp given
    exact ⟨found, between, first⟩
  · rintro ⟨found, between, first⟩
    cases found with
    | none => exact ⟨menus, between, run_bind_eq_ok_iff.mpr ⟨none, between, first, rfl⟩⟩
    | some menu => exact ⟨menus.put menu.id menu, between, run_bind_eq_ok_iff.mpr ⟨some menu, between, first, rfl⟩⟩

/-- The menu of a file with a document is there under the id of the file, beside all menus that were there before.
Another file with the same id may have been there, and is replaced. -/
theorem has_of_loadInto {file : String × FileContent}
    (given : (loadInto (.int defaultSize) menus file).run.run notices = (.ok loaded, after)) :
    (∀ id, menus.has id = true → loaded.has id = true) ∧
      ∀ document, readDocument file.1 file.2 = .ok document → loaded.has (MenuName.stem file.1) = true := by
  obtain ⟨found, between, first, entered⟩ := run_bind_eq_ok_iff.mp given
  have own := ((Menu.loads_ofFile _ _ _).answered notices trivial found between first).1
  cases found with
  | none =>
    cases entered
    refine ⟨fun id has => has, fun document read => ?_⟩
    obtain ⟨_, ⟨⟩⟩ := exists_menu_of_ofFile first read
  | some menu =>
    cases entered
    refine ⟨fun id has => ?_, fun document read => ?_⟩
    · rw [OrderedMap.has, OrderedMap.get?_put]
      split
      · rfl
      · exact has
    · rw [OrderedMap.has, OrderedMap.get?_put, if_pos (own menu rfl).own]
      rfl

/-- Several files are loaded exactly if none of them stops the loading. The induction is on the files. -/
theorem foldlM_loadInto_succeeds_iff :
    (∃ loaded after, (files.foldlM (loadInto (.int defaultSize)) menus).run.run notices = (.ok loaded, after)) ↔
      ∀ file ∈ files, FileLoads file.1 file.2 := by
  induction files generalizing menus notices with
  | nil => exact iff_of_true ⟨menus, notices, rfl⟩ (by simp)
  | cons file files ih =>
    rw [List.foldlM_cons, List.forall_mem_cons, ← @loadInto_succeeds_iff _ defaultSize menus notices file]
    constructor
    · rintro ⟨loaded, after, given⟩
      obtain ⟨more, between, first, later⟩ := run_bind_eq_ok_iff.mp given
      exact ⟨⟨more, between, first⟩, ih.mp ⟨loaded, after, later⟩⟩
    · rintro ⟨⟨more, between, first⟩, others⟩
      obtain ⟨loaded, after, later⟩ := ih.mpr others
      exact ⟨loaded, after, run_bind_eq_ok_iff.mpr ⟨more, between, first, later⟩⟩

/-- Each file with a document then has its menu, as no later file takes a menu away. -/
theorem has_of_foldlM_loadInto
    (given : (files.foldlM (loadInto (.int defaultSize)) menus).run.run notices = (.ok loaded, after)) :
    (∀ id, menus.has id = true → loaded.has id = true) ∧
      ∀ file ∈ files, ∀ document, readDocument file.1 file.2 = .ok document →
        loaded.has (MenuName.stem file.1) = true := by
  induction files generalizing menus notices with
  | nil =>
    cases given
    exact ⟨fun id has => has, by simp⟩
  | cons file files ih =>
    rw [List.foldlM_cons] at given
    obtain ⟨more, between, first, later⟩ := run_bind_eq_ok_iff.mp given
    obtain ⟨kept, own⟩ := has_of_loadInto first
    obtain ⟨stillKept, others⟩ := ih later
    refine ⟨fun id has => stillKept id (kept id has), fun other member document read => ?_⟩
    rcases List.mem_cons.mp member with rfl | isLater
    · exact stillKept _ (own document read)
    · exact others other isLater document read

end

/-- The menus of a directory are those of its menu files, loaded one after another. Other files are left out before
anything is read. -/
theorem Menu.ofDirectory_eq (directory : String) (files : FileListing) (defaultSize : Value) :
    Menu.ofDirectory directory (some files) defaultSize =
      ((files.filter fun file => MenuName.isMenuFile file.1).mergeSort fun a b => a.1 ≤ b.1).foldlM
        (loadInto defaultSize) [] := rfl

/-- A document stops the loading of menus exactly if something in it that is read is an infinite number where an
integer is needed, lines that cannot be gone through, slots that cannot be read or a value without a text. A directory
is loaded exactly if none of its menu files stops the loading, and then each that has a document has a menu.

Proof: each reader of a member succeeds exactly on a condition of its value, and a document is read by one of them
after another, so the conditions are put together member by member. For a directory the induction is on the files: a
file that is read adds its menu and removes none. -/
theorem Menu.loading_stops_exactly {circles : Prop} {pairs : List (Value × Value)}
    (data : (Value.map pairs).IsData circles) (id directory : String) (files : FileListing) (defaultSize : Int)
    (notices : List Notice) :
    ((∃ menu after, (Menu.ofDocument (.map pairs) id (.int defaultSize)).run.run notices = (.ok menu, after)) ↔
      Loadable (.map pairs)) ∧
    (∀ v : Value, v.IsData False →
      (v.HasText ↔ v.IsWritable Machine.textNesting) ∧ ∀ calls, v.HasSlots calls ↔ v.IsLegible calls) ∧
    ((∃ menus after,
        (Menu.ofDirectory directory (some files) (.int defaultSize)).run.run notices = (.ok menus, after)) ↔
      ∀ file ∈ files, MenuName.isMenuFile file.1 = true → FileLoads file.1 file.2) ∧
    ∀ menus after, (Menu.ofDirectory directory (some files) (.int defaultSize)).run.run notices = (.ok menus, after) →
      ∀ file ∈ files, MenuName.isMenuFile file.1 = true → ∀ document, readDocument file.1 file.2 = .ok document →
        menus.has (MenuName.stem file.1) = true := by
  refine ⟨ofDocument_succeeds_iff data id defaultSize notices, fun v data => ⟨data.hasText_iff, fun _ => data.hasSlots_iff⟩, ?_⟩
  rw [Menu.ofDirectory_eq]
  constructor
  · rw [foldlM_loadInto_succeeds_iff]
    simp [and_imp]
  · intro menus after given file member isMenuFile document read
    refine (has_of_foldlM_loadInto given).2 file ?_ document read
    simpa using ⟨member, isMenuFile⟩

end

/-- A document with members of the wrong kinds that are replaced or passed over: a number for the title, a list for the
size, a number for the key of an item, and words among its slots. -/
def oddDocument : List (Value × Value) :=
  [(.text "title", .int 7), (.text "size", .list [.int 9]),
    (.text "items", .map [(.int 1, .map [(.text "material", .text "door"), (.text "slot", .text "0-2, x, 2-1-0")])])]

/-- A file with a document. -/
def bankFile : String × FileContent :=
  ("bank.json", .text "\x7b\"title\": [1], \"items\": 5\x7d".toList)

/-- The files of a directory with a document, a text that is none and a file of another kind. -/
def oddFiles : FileListing :=
  [bankFile, ("broken.json", .text "[".toList), ("notes.txt", .directory)]

/-- A document with odd values for its members is loaded, and so is a directory with odd files: nothing of this stops
the loading. -/
theorem Menu.loading_of_oddFiles :
    (∃ menu after, (Menu.ofDocument (.map oddDocument) "odd" (.int 54)).run.run [] = (.ok menu, after)) ∧
    Loadable (.map oddDocument) ∧
    ∃ menus after, (Menu.ofDirectory "menus" (some oddFiles) (.int 54)).run.run [] = (.ok menus, after) ∧
      menus.has "bank" = true := by
  have succeeds {α : Type} {x : Loading α} (isOk : (x.run.run []).1.toBool = true) :
      ∃ a after, x.run.run [] = (.ok a, after) := by
    rcases given : x.run.run [] with ⟨result, after⟩
    rw [given] at isOk
    cases result with
    | error cause => cases isOk
    | ok a => exact ⟨a, after, rfl⟩
  have text (s : String) : (Value.text s).IsData False := .scalar (.text s)
  have int (n : Int) : (Value.int n).IsData False := .scalar (.int n)
  have item : (Value.map [(.text "material", .text "door"), (.text "slot", .text "0-2, x, 2-1-0")]).IsData False :=
    .map (by simp [text]) (by simp [text])
  have items : (Value.map [(.int 1, .map [(.text "material", .text "door"),
      (.text "slot", .text "0-2, x, 2-1-0")])]).IsData False :=
    .map (by simp [int]) (by simp [item])
  have data : (Value.map oddDocument).IsData False :=
    .map (by simp [oddDocument, text]) (by simp [oddDocument, int, items, Value.IsData.list])
  have loaded : ∃ menu after, (Menu.ofDocument (.map oddDocument) "odd" (.int 54)).run.run [] = (.ok menu, after) :=
    succeeds (by decide +kernel)
  obtain ⟨loadable, -, reads, own⟩ := Menu.loading_stops_exactly data "odd" "menus" oddFiles 54 []
  refine ⟨loaded, loadable.mp loaded, ?_⟩
  have files : ∀ file ∈ oddFiles, MenuName.isMenuFile file.1 = true → FileLoads file.1 file.2 := by
    intro file member isMenuFile
    rw [← @ofFile_succeeds_iff _ 54 file.1 file.2 []]
    simp only [oddFiles, List.mem_cons, List.not_mem_nil, or_false] at member
    rcases member with rfl | rfl | rfl
    · exact succeeds (by decide +kernel)
    · exact succeeds (by decide +kernel)
    · exact absurd isMenuFile (by decide +kernel)
  obtain ⟨menus, after, given⟩ := reads.mpr files
  refine ⟨menus, after, given, ?_⟩
  have isDocument : (readDocument bankFile.1 bankFile.2).toBool = true := by decide +kernel
  cases read : readDocument bankFile.1 bankFile.2 with
  | error fault =>
    rw [read] at isDocument
    cases isDocument
  | ok document => exact own menus after given bankFile (by simp [oddFiles]) (by decide +kernel) document read

/-- A file with a document that has an infinite size. -/
def endlessFile : String × FileContent :=
  ("shop.json", .text "\x7b\"size\": Infinity\x7d".toList)

/-- An infinite size is no size, but the menus of the whole directory are lost for it. So it is with a number for the
lore of an item. -/
theorem Menu.loading_stopped_by_size :
    (readDocument bankFile.1 bankFile.2).toBool = true ∧
    (¬∃ menus after,
      (Menu.ofDirectory "menus" (some [bankFile, endlessFile]) (.int 54)).run.run [] = (.ok menus, after)) ∧
    ¬∃ menu after, (Menu.ofDocument (.map [(.text "items", .map [(.text "door", .map [(.text "material", .text "door"),
        (.text "slot", .int 0), (.text "lore", .int 5)])])]) "shop" (.int 54)).run.run [] = (.ok menu, after) := by
  have fails {α : Type} {x : Loading α} (isError : (x.run.run []).1.toBool = false) :
      ¬∃ a after, x.run.run [] = (.ok a, after) := by
    rintro ⟨a, after, given⟩
    rw [given] at isError
    cases isError
  refine ⟨by decide +kernel, ?_, fails (by decide +kernel)⟩
  rw [Menu.ofDirectory_eq, foldlM_loadInto_succeeds_iff]
  intro loads
  have isFile : endlessFile ∈ ([bankFile, endlessFile].filter fun file => MenuName.isMenuFile file.1).mergeSort
      fun a b => a.1 ≤ b.1 := by
    rw [List.mem_mergeSort, List.mem_filter]
    exact ⟨by simp, by decide +kernel⟩
  exact fails (by decide +kernel) ((@ofFile_succeeds_iff _ 54 endlessFile.1 endlessFile.2 []).mpr (loads _ isFile))

end ChestMenu
