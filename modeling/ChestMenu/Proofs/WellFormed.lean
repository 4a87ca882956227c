import ChestMenu.Proofs.Branching
import ChestMenu.Proofs.Loadable
import ChestMenu.Proofs.Paging
import Mathlib.Data.List.Nodup

/-!
# What every menu that was loaded is like

The size of such a menu is one of six; its items are those of the document, in the order of the document, and each of
them claims a slot; and a condition is in no other condition. Whoever draws the menu or answers a click relies on this
and does not look again.

It holds of every document that a menu was loaded from. Only the names of the items have to be texts, all different,
as those of an object in a document are: by the texts of other values one item could take the place of another.
-/
namespace ChestMenu

open ChestMenu.Number ChestMenu.Text

namespace Action

mutual

/-- How deep conditions are nested in an action. -/
def depth : Action → Nat
  | simple _ => 0
  | conditional _ _ thenActions elseActions => 1 + max (depthOfAll thenActions) (depthOfAll elseActions)

/-- How deep conditions are nested in several actions. -/
def depthOfAll : List Action → Nat
  | [] => 0
  | action :: actions => max (depth action) (depthOfAll actions)

end

mutual

/-- The actions without a condition in an action. -/
def simpleParts : Action → List SimpleAction
  | simple action => [action]
  | conditional _ _ thenActions elseActions => simplePartsOfAll thenActions ++ simplePartsOfAll elseActions

/-- The actions without a condition in several actions. -/
def simplePartsOfAll : List Action → List SimpleAction
  | [] => []
  | action :: actions => simpleParts action ++ simplePartsOfAll actions

end

/-- Actions without a condition have none in them, so they are not nested at all. -/
theorem depthOfAll_simple (actions : List SimpleAction) : depthOfAll (actions.map simple) = 0 := by
  induction actions with
  | nil => rfl
  | cons action actions ih => rw [List.map_cons, depthOfAll, depth, ih, Nat.max_self]

/-- Actions without a condition are their own parts. There is nothing in them to be taken apart. -/
theorem simplePartsOfAll_simple (actions : List SimpleAction) : simplePartsOfAll (actions.map simple) = actions := by
  induction actions with
  | nil => rfl
  | cons action actions ih => rw [List.map_cons, simplePartsOfAll, simpleParts, ih, List.singleton_append]

/-- A named action is meant for the handlers of the context. -/
def HasContextStyle (action : SimpleAction) : Prop :=
  ∀ name style, action = .trigger name style → style = .context

/-- What is read as a sound is one, however its value is taken apart. -/
theorem exists_soundOfChars (value : List Char) :
    ∃ name volume pitch, SimpleAction.soundOfChars value = .sound name volume pitch := by
  unfold SimpleAction.soundOfChars
  split
  · split
    · exact ⟨_, _, _, rfl⟩
    · exact ⟨_, _, _, rfl⟩
  · exact ⟨_, _, _, rfl⟩

/-- A named action that is read is meant for the handlers of the context. No tag gives one for handlers of the old
kind. -/
theorem hasContextStyle_of_ofChars? {line : List Char} {action : SimpleAction}
    (read : SimpleAction.ofChars? line = some action) : HasContextStyle action := by
  obtain ⟨⟨tag, value⟩, -, read⟩ := Option.bind_eq_some_iff.mp read
  obtain ⟨_, _, _, isSound⟩ := exists_soundOfChars value
  rintro name style rfl
  unfold SimpleAction.ofTag? at read
  dsimp only at read
  split at read
  all_goals simp [isSound, SimpleAction.triggerOf] at read
  exact read.2.2.symm

/-- What is read is an action without a condition, or one condition with two branches of such actions. There is no
other way to be read. -/
theorem shape_of_ofText? {line : String} {action : Action} (read : ofText? line = some action) :
    (∃ piece part, SimpleAction.ofChars? piece = some part ∧ action = simple part) ∨
      ∃ condition text thenText elseText, action = conditional condition text
        ((SimpleAction.branchOfChars thenText).map simple) ((SimpleAction.branchOfChars elseText).map simple) := by
  unfold ofText? ofChars? at read
  dsimp only at read
  split at read
  · cases first : cutAtTag? "[THEN]" ((trimChars isBlank line.toList).drop 4) with
    | none =>
      rw [conditionalOfChars?, first] at read
      cases read
    | some parts =>
      rw [conditionalOfChars?_of_cut first rfl] at read
      obtain ⟨condition, -, rfl⟩ := Option.map_eq_some_iff.mp read
      exact .inr ⟨condition, _, _, _, rfl⟩
  · obtain ⟨part, isPart, rfl⟩ := Option.map_eq_some_iff.mp read
    exact .inl ⟨_, part, isPart, rfl⟩

/-- The actions without a condition in an action that is read are read themselves. Each of them was read from a piece
of the line. -/
theorem exists_of_mem_simpleParts {line : String} {action : Action} (read : ofText? line = some action)
    {part : SimpleAction} (member : part ∈ simpleParts action) : ∃ piece, SimpleAction.ofChars? piece = some part := by
  obtain ⟨piece, part, isPart, rfl⟩ | ⟨condition, text, thenText, elseText, rfl⟩ := shape_of_ofText? read
  · cases List.mem_singleton.mp member
    exact ⟨piece, isPart⟩
  · rw [simpleParts, simplePartsOfAll_simple, simplePartsOfAll_simple, List.mem_append] at member
    rcases member with inBranch | inBranch
    all_goals
      obtain ⟨piece, -, isPart⟩ := List.mem_filterMap.mp inBranch
      exact ⟨piece, isPart⟩

/-- Nothing that is read has a condition inside a condition, or a named action for handlers of the old kind. The parts
of a branch are read as simple actions, so a condition among them is passed over. -/
theorem depth_le_one {line : String} {action : Action} (read : ofText? line = some action) :
    depth action ≤ 1 ∧ ∀ part ∈ simpleParts action, HasContextStyle part := by
  refine ⟨?_, fun part member => ?_⟩
  · obtain ⟨piece, part, -, rfl⟩ | ⟨condition, text, thenText, elseText, rfl⟩ := shape_of_ofText? read
    · exact Nat.zero_le 1
    · rw [depth, depthOfAll_simple, depthOfAll_simple]
      exact Nat.le_refl 1
  · obtain ⟨piece, isPart⟩ := exists_of_mem_simpleParts read member
    exact hasContextStyle_of_ofChars? isPart

end Action

namespace MenuDocument

/-- The sizes of menus. -/
def sizes : List Int := [9, 18, 27, 36, 45, 54]

/-- The size that a value stands for, if its integer is one. -/
def sizeValue? (v : Value) : Option Int :=
  v.toInteger.toOption.filter (sizes.contains ·)

/-- What a value stands for is the size of a menu, if the default is. The sizes are the multiples of nine from nine to
fifty-four. -/
theorem getD_sizeValue?_mem {v : Value} {default : Int} (isSize : default ∈ sizes) :
    (sizeValue? v).getD default ∈ sizes := by
  cases found : sizeValue? v with
  | none => exact isSize
  | some size => simpa using (Option.filter_eq_some_iff.mp found).2

/-- A size is that of a value, or else the default. An infinite number has no size at all. -/
theorem eq_of_sizeOf {v : Value} {default size : Int} (read : sizeOf v default = .ok size) :
    size = (sizeValue? v).getD default := by
  have refused (n : Int) : (n % 9 != 0 || n < 9 || fullSize < n) = !sizes.contains n := by
    have rows : (n % 9 ≠ 0 ∨ n < 9 ∨ fullSize < n) ↔ n ∉ sizes := by
      simp only [sizes, fullSize, List.mem_cons, List.not_mem_nil, or_false]
      omega
    rw [Bool.eq_iff_iff]
    simpa [or_assoc] using rows
  obtain ⟨n, isNumber, same⟩ := bind_eq_ok_iff.mp read
  rw [pure_eq_ok_iff, refused] at same
  unfold integerOf at isNumber
  unfold sizeValue?
  cases given : v.toInteger with
  | ok m =>
    rw [given] at isNumber
    cases isNumber
    rw [same, Except.toOption, Option.filter_some]
    cases sizes.contains n <;> rfl
  | error cause =>
    -- What is no number stands for the default, which is kept whether it is a size or not.
    rw [given] at isNumber
    dsimp only at isNumber
    split at isNumber
    · cases isNumber
      rw [same, ite_self]
      rfl
    · cases isNumber

variable [Machine]

/-- An item is kept if its material counts as true, and if it claims a slot where it needs one. -/
def isKept (calls : Nat) (needsSlots : Bool) (item : Value) : Bool :=
  (item.get "material").truthy &&
    !(needsSlots && ((Slots.ofValueWithin calls (slotsMember item)).toOption.getD []).isEmpty)

/-- A section that is an item: a mapping that is kept. -/
def isItem (calls : Nat) (needsSlots : Bool) (item : Value) : Bool :=
  item.pairs?.isSome && isKept calls needsSlots item

/-- An item as it was read from its section. Its slots are those of the section, there is at least one of it, and its
actions are those of the lines that are actions. -/
structure ReadFrom (calls : Nat) (needsSlots : Bool) (item : Value) (entry : Entry) : Prop where
  read : entryOf calls item needsSlots = .ok (some entry)
  slots : Slots.ofValueWithin calls (slotsMember item) = .ok entry.slots
  amount : 1 ≤ entry.template.amount
  actions : ∃ texts : List String, entry.actions = texts.filterMap Action.ofText?
  depth : ∀ action ∈ entry.actions, action.depth ≤ 1
  style : ∀ action ∈ entry.actions, ∀ part ∈ action.simpleParts, Action.HasContextStyle part

/-- The actions of lines are those of the texts that are actions. Texts that are no actions are passed over. -/
theorem exists_texts_of_ofLines {lines : Value} {actions : List Action} (read : Action.ofLines lines = .ok actions) :
    ∃ texts : List String, actions = texts.filterMap Action.ofText? := by
  obtain ⟨b, -, read⟩ := bind_eq_ok_iff.mp read
  split at read
  · obtain ⟨members, -, read⟩ := bind_eq_ok_iff.mp read
    obtain ⟨texts, -, same⟩ := bind_eq_ok_iff.mp read
    exact ⟨texts, pure_eq_ok_iff.mp same⟩
  · exact ⟨[], pure_eq_ok_iff.mp read⟩

omit [Machine] in
/-- A value that decides counts as true exactly if it decides so. The one may fail, the other does not. -/
theorem truthy_of_truth {v : Value} {b : Bool} (decides : v.truth = .ok b) : v.truthy = b := by
  rw [Value.truthy, decides]
  rfl

/-- What was read of an item is there exactly if the item is kept. If it is, its template, its slots and its actions
are those of the members that are named for them. -/
theorem entryOf_cases {calls : Nat} {item : Value} {needsSlots : Bool} {found : Option Entry}
    (read : entryOf calls item needsSlots = .ok found) :
    (found = none ∧ isKept calls needsSlots item = false) ∨
      ∃ entry, found = some entry ∧ isKept calls needsSlots item = true ∧ ReadFrom calls needsSlots item entry := by
  have whole := read
  unfold entryOf at read
  dsimp only at read
  obtain ⟨hasMaterial, decides, read⟩ := bind_eq_ok_iff.mp read
  rw [isKept, truthy_of_truth decides]
  cases hasMaterial with
  | false => exact .inl ⟨pure_eq_ok_iff.mp read, Bool.false_and _⟩
  | true =>
    rw [if_neg (by decide)] at read
    obtain ⟨slots, areSlots, read⟩ := bind_eq_ok_iff.mp read
    have same : (Slots.ofValueWithin calls (slotsMember item)).toOption.getD [] = slots := by
      rw [slotsMember, areSlots]
      rfl
    rw [same, Bool.true_and]
    split at read
    · rename_i none
      exact .inl ⟨pure_eq_ok_iff.mp read, by rw [none]; rfl⟩
    · rename_i some
      simp only [bind_eq_ok_iff, pure_eq_ok_iff] at read
      obtain ⟨lore, -, actions, -, material, -, name, -, members, -, texts, -, amount, -, parsed, areParsed,
        priority, -, clickable, -, table, -, visibleIf, -, rfl⟩ := read
      obtain ⟨lines, rfl⟩ := exists_texts_of_ofLines areParsed
      have parts : ∀ action ∈ lines.filterMap Action.ofText?,
          action.depth ≤ 1 ∧ ∀ part ∈ action.simpleParts, Action.HasContextStyle part := by
        intro action member
        obtain ⟨line, -, isAction⟩ := List.mem_filterMap.mp member
        exact Action.depth_le_one isAction
      refine .inr ⟨_, rfl, by rw [Bool.not_eq_true] at some; rw [some]; rfl, ?_⟩
      exact
        { read := whole
          slots := areSlots
          amount := Int.le_max_left 1 amount
          actions := ⟨lines, rfl⟩
          depth := fun action member => (parts action member).1
          style := fun action member => (parts action member).2 }

omit [Machine] in
/-- What is kept of a list is read member by member from the members that it should be kept of. The induction is on
the list. -/
theorem forall₂_of_filterMapM {α β : Type} {f : α → Except Failure (Option β)} {p : α → Bool} {R : α → β → Prop}
    (each : ∀ x found, f x = .ok found → (found = none ∧ p x = false) ∨ ∃ y, found = some y ∧ p x = true ∧ R x y)
    {xs : List α} {ys : List β} (read : xs.filterMapM f = .ok ys) : List.Forall₂ R (xs.filter p) ys := by
  induction xs generalizing ys with
  | nil =>
    cases read
    exact .nil
  | cons x xs ih =>
    rw [List.filterMapM_cons] at read
    obtain ⟨found, isFound, read⟩ := bind_eq_ok_iff.mp read
    obtain ⟨rfl, passed⟩ | ⟨y, rfl, kept, related⟩ := each x found isFound
    · rw [List.filter_cons_of_neg (by simp [passed])]
      exact ih read
    · obtain ⟨rest, isRest, same⟩ := bind_eq_ok_iff.mp read
      rw [pure_eq_ok_iff.mp same, List.filter_cons_of_pos kept]
      exact .cons related (ih isRest)

/-- The items of a section are those of its members that are items, in order, under the texts of their keys. Members
that are none are passed over without a trace. -/
theorem forall₂_of_entriesOf {calls : Nat} {needsSlots : Bool} {members : List (Value × Value)}
    {entries : List (String × Entry)} (read : entriesOf calls needsSlots members = .ok entries) :
    List.Forall₂ (fun member entry => member.1.shown = .ok entry.1 ∧ ReadFrom calls needsSlots member.2 entry.2)
      (members.filter fun member => isItem calls needsSlots member.2) entries := by
  refine forall₂_of_filterMapM (fun member found isFound => ?_) read
  unfold isItem
  dsimp only at isFound
  split at isFound
  · rename_i isMap
    obtain ⟨name, isName, isFound⟩ := bind_eq_ok_iff.mp isFound
    obtain ⟨read?, isEntry, same⟩ := bind_eq_ok_iff.mp isFound
    rw [pure_eq_ok_iff.mp same, isMap, Bool.true_and]
    obtain ⟨rfl, passed⟩ | ⟨entry, rfl, kept, reads⟩ := entryOf_cases isEntry
    · exact .inl ⟨rfl, passed⟩
    · exact .inr ⟨(name, entry), rfl, kept, isName, reads⟩
  · rename_i noMap
    exact .inl ⟨pure_eq_ok_iff.mp isFound, by rw [Bool.not_eq_true] at noMap; rw [noMap]; rfl⟩

/-- A mapping whose keys are texts, all different. -/
def HasNames (pairs : List (Value × Value)) : Prop :=
  ∃ names : List String, pairs.map (·.1) = names.map .text ∧ names.Nodup

/-- The items of a section with names have these names, and they are all different. The names are the keys, as these
are texts already. -/
theorem forall₂_of_named {calls : Nat} {members : List (Value × Value)} {entries : List (String × Entry)}
    (named : HasNames members) (read : entriesOf calls true members = .ok entries) :
    (entries.map (·.1)).Nodup ∧
      List.Forall₂ (fun member entry => member.1 = .text entry.1 ∧ ReadFrom calls true member.2 entry.2)
        (members.filter fun member => isItem calls true member.2) entries := by
  obtain ⟨names, areNames, once⟩ := named
  have texts : ∀ member ∈ members.filter fun member => isItem calls true member.2, ∃ name, member.1 = .text name := by
    intro member kept
    have isKey : member.1 ∈ names.map Value.text := areNames ▸ List.mem_map_of_mem (List.mem_of_mem_filter kept)
    obtain ⟨name, -, same⟩ := List.mem_map.mp isKey
    exact ⟨name, same.symm⟩
  have reads : List.Forall₂ (fun member entry => member.1 = .text entry.1 ∧ ReadFrom calls true member.2 entry.2)
      (members.filter fun member => isItem calls true member.2) entries := by
    refine ((List.forall₂_and_left _ _).mpr ⟨texts, forall₂_of_entriesOf read⟩).imp ?_
    rintro member entry ⟨⟨name, isText⟩, isShown, reads⟩
    rw [isText] at isShown
    cases isShown
    exact ⟨isText, reads⟩
  refine ⟨?_, reads⟩
  have keys : (members.filter fun member => isItem calls true member.2).map (·.1) = entries.map (Value.text ·.1) := by
    rw [← List.forall₂_eq_eq_eq, List.forall₂_map_left_iff, List.forall₂_map_right_iff]
    exact reads.imp fun _ _ both => both.1
  have distinct : (members.map (·.1)).Nodup := by
    rw [areNames]
    exact once.map fun _ _ same => Value.text.inj same
  have kept : (entries.map (Value.text ·.1)).Nodup := keys ▸ distinct.sublist (List.filter_sublist.map _)
  exact List.Nodup.of_map Value.text (by rw [List.map_map]; exact kept)

/-- The pages of a document are there exactly if it enables them, with the items of their section. Page items need no
slots of their own. -/
theorem pagination_of_paginationOf {document : Value} {found : Option Pagination}
    (read : paginationOf document = .ok found) :
    (found.isSome = true ↔ IsSet ((sectionOf document "pagination").get "enabled")) ∧
      ∀ pages, found = some pages → List.Forall₂ (fun member entry => ReadFrom (Machine.calls + 1) false member.2 entry)
        ((pageMembers ((sectionOf document "pagination").get "items")).filter fun member =>
          isItem (Machine.calls + 1) false member.2)
        pages.items := by
  unfold paginationOf at read
  dsimp only at read
  obtain ⟨enabled, isFlag, read⟩ := bind_eq_ok_iff.mp read
  rw [IsSet, isFlag]
  cases enabled with
  | false =>
    cases pure_eq_ok_iff.mp read
    simp
  | true =>
    rw [if_neg (by decide)] at read
    obtain ⟨slots, -, read⟩ := bind_eq_ok_iff.mp read
    obtain ⟨items, areItems, read⟩ := bind_eq_ok_iff.mp read
    -- The number of pages may be fixed or not.
    obtain ⟨fixed, rfl⟩ : ∃ fixed, found = some { slots, items, pages := fixed } := by
      split at read
      · exact ⟨none, pure_eq_ok_iff.mp read⟩
      · obtain ⟨number, -, same⟩ := bind_eq_ok_iff.mp read
        exact ⟨some number, pure_eq_ok_iff.mp same⟩
    refine ⟨by simp, ?_⟩
    rintro _ ⟨⟩
    obtain ⟨entries, areEntries, same⟩ := bind_eq_ok_iff.mp areItems
    rw [pure_eq_ok_iff.mp same, List.forall₂_map_right_iff]
    exact (forall₂_of_entriesOf areEntries).imp fun _ _ reads => reads.2

/-- A menu is refreshed exactly if its document enables it, and the slots are those of its section. Of a section that
is disabled the slots are not read. -/
theorem refresh_of_refreshOf {document : Value} {policy : RefreshPolicy} (read : refreshOf document = .ok policy) :
    (policy.enabled = true ↔ IsSet ((sectionOf document "auto-refresh").get "enabled")) ∧
      ∃ slots : List Int, policy.slots = slots.map .number ∧
        (policy.enabled = true →
          Slots.ofValueWithin (Machine.calls + 3) ((sectionOf document "auto-refresh").get "slots") = .ok slots) := by
  unfold refreshOf at read
  dsimp only at read
  obtain ⟨enabled, isFlag, read⟩ := bind_eq_ok_iff.mp read
  rw [IsSet, isFlag]
  cases enabled with
  | false =>
    cases pure_eq_ok_iff.mp read
    exact ⟨by simp [RefreshPolicy.disabled], [], rfl, by simp [RefreshPolicy.disabled]⟩
  | true =>
    rw [if_neg (by decide)] at read
    obtain ⟨interval, -, read⟩ := bind_eq_ok_iff.mp read
    obtain ⟨slots, areSlots, same⟩ := bind_eq_ok_iff.mp read
    cases pure_eq_ok_iff.mp same
    exact ⟨by simp [RefreshPolicy.forSlots], slots, rfl, fun _ => areSlots⟩

/-- A menu as it is loaded from a document. -/
structure LoadedFrom (document defaultSize : Value) (menu : Menu) : Prop where
  size : menu.size =
    (sizeValue? ((document.get? "size").getD defaultSize)).getD ((sizeValue? defaultSize).getD fullSize)
  size_mem : menu.size ∈ sizes
  items : List.Forall₂ (fun member item => member.1 = .text item.1 ∧ ReadFrom (Machine.calls + 2) true member.2 item.2)
    ((pairsOf (sectionOf document "items")).filter fun member => isItem (Machine.calls + 2) true member.2) menu.items
  paginated : menu.isPaginated = true ↔ IsSet ((sectionOf document "pagination").get "enabled")
  pageItems : ∀ pages, menu.pagination = some pages →
    List.Forall₂ (fun member item => ReadFrom (Machine.calls + 1) false member.2 item)
      ((pageMembers ((sectionOf document "pagination").get "items")).filter fun member =>
        isItem (Machine.calls + 1) false member.2)
      pages.items
  totalPages : 1 ≤ menu.totalPages
  refreshed : menu.refresh.enabled = true ↔ IsSet ((sectionOf document "auto-refresh").get "enabled")
  refreshSlots : ∃ slots : List Int, menu.refresh.slots = slots.map .number ∧
    (menu.refresh.enabled = true →
      Slots.ofValueWithin (Machine.calls + 3) ((sectionOf document "auto-refresh").get "slots") = .ok slots)

end MenuDocument

open MenuDocument

/-- Every menu that is loaded from a document with named items is well formed. Its size is that of the document or
else the default one, or else the full one. Its items are those members of their section that are items, in order, and
so are its page items; each is one or more, with actions that were read and in which conditions are not nested. It has
pages and is refreshed exactly if the document says so.

Proof: an accepted document is one of which every reader gave a value (`ofDocument_eq_ok_iff`, `drawnOf_eq_ok_iff`).
Each part of the menu is then told by what its reader gives on success: the size, the items one by one along their
section, the pages and the refreshing. -/
theorem Menu.loadedFrom_of_ofDocument [Machine] {pairs : List (Value × Value)} {id : String} {defaultSize : Value}
    {notices after : List Notice} {menu : Menu}
    (named : HasNames (pairsOf (sectionOf (.map pairs) "items")))
    (loaded : (Menu.ofDocument (.map pairs) id defaultSize).run.run notices = (.ok menu, after)) :
    LoadedFrom (.map pairs) defaultSize menu := by
  obtain ⟨drawn, isDrawn, isMenu, -⟩ := ofDocument_eq_ok_iff.mp loaded
  obtain ⟨title, usualSize, size, placeable, contextAware, items, -, isUsual, isSize, -, -, areItems, rfl⟩ :=
    drawnOf_eq_ok_iff.mp isDrawn
  obtain ⟨pagination, isPagination, isMenu⟩ := bind_eq_ok_iff.mp isMenu
  obtain ⟨refresh, isRefresh, isMenu⟩ := bind_eq_ok_iff.mp isMenu
  obtain ⟨playerInventory, -, isMenu⟩ := bind_eq_ok_iff.mp isMenu
  obtain ⟨inventoryHandler, -, isMenu⟩ := bind_eq_ok_iff.mp isMenu
  cases pure_eq_ok_iff.mp isMenu
  obtain ⟨once, reads⟩ := forall₂_of_named named areItems
  obtain ⟨paginated, pageItems⟩ := pagination_of_paginationOf isPagination
  obtain ⟨refreshed, refreshSlots⟩ := refresh_of_refreshOf isRefresh
  have isUsual := eq_of_sizeOf isUsual
  have isSize := eq_of_sizeOf isSize
  rw [isUsual] at isSize
  have usual : (sizeValue? defaultSize).getD fullSize ∈ sizes := getD_sizeValue?_mem (by decide)
  exact
    { size := isSize
      size_mem := isSize ▸ getD_sizeValue?_mem usual
      items := by
        dsimp only
        rw [OrderedMap.ofPairs_eq_self once]
        exact reads
      paginated := paginated
      pageItems := pageItems
      totalPages := Menu.one_le_totalPages _
      refreshed := refreshed
      refreshSlots := refreshSlots }

/-- A document with a size that is none, an item, two members that are no items, pages and a refresh policy. -/
def shopDocument : List (Value × Value) :=
  [(.text "size", .text "big"),
    (.text "items", .map [(.text "sell", .map [(.text "material", .text "gold_ingot"), (.text "slot", .text "13"),
        (.text "amount", .int (-3)), (.text "actions", .list [.text "[ACTION] SELL", .text "sold"])]),
      (.text "buy", .map [(.text "material", .text "diamond")]), (.text "note", .int 5)]),
    (.text "pagination", .map [(.text "enabled", .bool true), (.text "slots", .text "0-8"),
      (.text "items", .list [.int 5, .map [(.text "material", .text "stone")]])]),
    (.text "auto-refresh", .map [(.text "enabled", .text "yes"), (.text "slots", .list [.int 13])])]

/-- The menu of this document has the default size, one item and one page, and one of its slots is drawn again. -/
theorem Menu.loadedFrom_shopDocument :
    HasNames (pairsOf (sectionOf (.map shopDocument) "items")) ∧
    ∃ menu after, (Menu.ofDocument (.map shopDocument) "shop" (.int 27)).run.run [] = (.ok menu, after) ∧
      (menu.size, menu.items.map (·.1), menu.totalPages, menu.refresh.slots) = (27, ["sell"], 1, [.number 13]) ∧
      LoadedFrom (.map shopDocument) (.int 27) menu := by
  have named : HasNames (pairsOf (sectionOf (.map shopDocument) "items")) :=
    ⟨["sell", "buy", "note"], rfl, by decide⟩
  have shown : ((Menu.ofDocument (.map shopDocument) "shop" (.int 27)).run.run []).1.toOption.map
      (fun menu => (menu.size, menu.items.map (·.1), menu.totalPages, menu.refresh.slots)) =
        some (27, ["sell"], 1, [.number 13]) := by
    decide +kernel
  rcases loaded : (Menu.ofDocument (.map shopDocument) "shop" (.int 27)).run.run [] with ⟨result, after⟩
  rw [loaded] at shown
  cases result with
  | error cause => cases shown
  | ok menu => exact ⟨named, menu, after, rfl, Option.some.inj shown, Menu.loadedFrom_of_ofDocument named loaded⟩

end ChestMenu
