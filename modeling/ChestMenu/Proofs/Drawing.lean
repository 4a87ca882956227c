import ChestMenu.Engine.State
import ChestMenu.Proofs.Purity
import ChestMenu.Proofs.Readings

/-!
# Drawing some slots of a menu, and drawing all of them

An item is asked for only if one of its slots is to be drawn; so fewer items are asked when only some slots are. Where
no resolver has a memory this makes no difference to the slots that are drawn: they get what a drawing of all slots
would give them.

A surface that shows a drawing of all slots is therefore left as it is when some slots of the same drawing are drawn
on it.
-/
namespace ChestMenu

/-- The members of a part of a list are members of the list. It does not matter how the part is cut. -/
theorem mem_of_mem_slice {α : Type} {start stop : Int} {xs : List α} {x : α}
    (member : x ∈ slice start stop xs) : x ∈ xs :=
  List.mem_of_mem_take (List.mem_of_mem_drop member)

/-- The items of a page are items of the menu. They are given slots, and nothing else happens to them. -/
theorem Pagination.mem_of_mem_page {p : Pagination} {page : Int} {item : Int × Entry}
    (member : item ∈ p.itemsOnPage page) : item.2 ∈ p.items := by
  unfold itemsOnPage at member
  split at member
  · simp at member
  · exact mem_of_mem_slice (List.of_mem_zip member).2

/-- The items of a page that were given keys are items of the menu, too. -/
theorem Pagination.mem_of_mem_keyedPage {p : Pagination} {page : Int} {item : String × Int × Entry}
    (member : item ∈ p.keyedItemsOnPage page) : item.2.2 ∈ p.items := by
  unfold keyedItemsOnPage at member
  obtain ⟨index, inside, rfl⟩ := List.mem_mapIdx.mp member
  exact mem_of_mem_page (List.getElem_mem inside)

/-- What a layout places on a page: the items of the menu in all their slots, and those of the page each in its one. -/
theorem Menu.mem_placements {menu : Menu} {page : Int} {key : String} {entry : Entry} {slots : List Int} :
    (key, entry, slots) ∈ menu.placements page ↔
      (key, entry) ∈ menu.items ∧ slots = entry.slots ∨
        ∃ slot, (key, slot, entry) ∈ menu.pageItems page ∧ slots = [slot] := by
  unfold placements
  rw [List.mem_append, List.mem_map, List.mem_map]
  refine or_congr ⟨?_, ?_⟩ ⟨?_, ?_⟩
  · rintro ⟨_, sorted, ⟨⟩⟩
    exact ⟨List.mem_mergeSort.mp sorted, rfl⟩
  · rintro ⟨isItem, rfl⟩
    exact ⟨_, List.mem_mergeSort.mpr isItem, rfl⟩
  · rintro ⟨_, onPage, ⟨⟩⟩
    exact ⟨_, onPage, rfl⟩
  · rintro ⟨_, onPage, rfl⟩
    exact ⟨_, onPage, rfl⟩

/-- What holds of all items of a menu, its page items included, holds of those that are placed. There is no third kind
of item. -/
theorem Menu.forall_placements {P : Entry → Prop} {menu : Menu} (items : ∀ pair ∈ menu.items, P pair.2)
    (pageItems : ∀ pages, menu.pagination = some pages → ∀ entry ∈ pages.items, P entry) (page : Int) :
    ∀ placement ∈ menu.placements page, P placement.2.1 := by
  intro placement member
  rcases mem_placements.mp member with ⟨isItem, -⟩ | ⟨slot, onPage, -⟩
  · exact items _ isItem
  · unfold Menu.pageItems at onPage
    split at onPage
    · rename_i pages isPages
      exact pageItems pages isPages _ (Pagination.mem_of_mem_keyedPage onPage)
    · simp at onPage

/-- What holds of all items of a menu holds of the item that a click on a slot is for, as it is one of them. -/
theorem Menu.of_itemAtSlot {P : Entry → Prop} {menu : Menu} (items : ∀ pair ∈ menu.items, P pair.2)
    (pageItems : ∀ pages, menu.pagination = some pages → ∀ entry ∈ pages.items, P entry) {slot page : Int}
    {found : String × Entry} (isFound : menu.itemAtSlot slot page = some found) : P found.2 := by
  unfold Menu.itemAtSlot at isFound
  split at isFound
  · rename_i key pageSlot entry onPage
    cases isFound
    have member := List.mem_of_find?_eq_some onPage
    unfold Menu.pageItems at member
    split at member
    · rename_i pages isPages
      exact pageItems pages isPages _ (Pagination.mem_of_mem_keyedPage member)
    · simp at member
  · exact items found (List.mem_of_find?_eq_some isFound)

/-- No item that is placed has a memory if none of the menu has. A menu is pure if all of its items are, its page
items included. -/
theorem Menu.IsPure.placements {menu : Menu} (pure : menu.IsPure) {page : Int}
    {placement : String × Entry × List Int} (member : placement ∈ menu.placements page) :
    placement.2.1.IsPure :=
  Menu.forall_placements pure.items pure.pageItems page placement member

section

variable {classes : Classes} {actor : Actor} {view : Option View} {base : Placeholder.Table}

/-- What an item shows, if it is visible. -/
def Entry.appearance [Machine] (classes : Classes) (actor : Actor) (view : Option View)
    (base : Placeholder.Table) (key : String) (entry : Entry) :
    ExceptT Failure Resolving (Option RenderedItem) := do
  let table ← Placeholders.forItem classes base entry actor
  if ← entry.isVisible classes actor view table then
    return some (← ExceptT.mk (pure (entry.render key table)))
  else return none

/-- Puts what an item shows into its slots. -/
def Grid.show (grid : Grid) (slots : List Int) : Option RenderedItem → Grid
  | some item => slots.foldl (fun grid slot => grid.put slot item) grid
  | none => grid

/-- An item without a slot to be drawn in is not asked anything; any other is put into its slots if it is visible.
These are all the ways to place an item, so the following facts go through them. -/
theorem Menu.place_eq [Machine] (menu : Menu) (wanted : Option (List Int)) (grid : Grid) (key : String)
    (entry : Entry) (slots : List Int) :
    menu.place classes actor view base wanted grid (key, entry, slots) =
      let targets := slots.filter (menu.isTarget wanted)
      if targets.isEmpty then pure grid
      else do return grid.show targets (← entry.appearance classes actor view base key) := by
  unfold Menu.place Entry.appearance
  dsimp only
  split
  · rfl
  · simp only [bind_assoc]
    congr 1
    funext table
    congr 1
    funext visible
    cases visible with
    | true => simp [Grid.show]
    | false => simp [Grid.show]

/-- What an item without a memory shows is steady. The table for the item is, and so is the answer to whether the item
is visible. -/
theorem Entry.IsPure.steady_appearance [Machine] {entry : Entry} (pure : entry.IsPure) (key : String) :
    Steady classes (entry.appearance classes actor view base key) := by
  unfold Entry.appearance
  refine steady_bind (pure.steady_forItem base) fun table => ?_
  refine steady_bind (pure.steady_isVisible view table) fun visible => ?_
  split
  · exact steady_bind (steady_result _) fun _ => steady_pure _
  · exact steady_pure _

/-- Placing an item without a memory is steady. It is the appearance of the item and a change of the grid. -/
theorem Entry.IsPure.steady_place [Machine] {entry : Entry} (pure : entry.IsPure) (menu : Menu)
    (wanted : Option (List Int)) (grid : Grid) (key : String) (slots : List Int) :
    Steady classes (menu.place classes actor view base wanted grid (key, entry, slots)) := by
  rw [Menu.place_eq]
  dsimp only
  split
  · exact steady_pure _
  · exact steady_bind (pure.steady_appearance key) fun _ => steady_pure _

end

section

variable {menu : Menu} {wanted : List Int}

/-- Placing an item of which it is known what it shows. -/
def Menu.placeKnown (look : String → Entry → Except Failure (Option RenderedItem)) (menu : Menu)
    (wanted : Option (List Int)) (grid : Grid) : String × Entry × List Int → Except Failure Grid
  | (key, entry, slots) =>
    let targets := slots.filter (menu.isTarget wanted)
    if targets.isEmpty then .ok grid else (look key entry).map (grid.show targets)

/-- The slots that an item is put into show it, all others what they did before. The induction is on the slots. -/
theorem Grid.get?_show (grid : Grid) (slots : List Int) (item : RenderedItem) (slot : Int) :
    (grid.show slots (some item)).get? slot =
      if slot ∈ slots then some item else grid.get? slot := by
  change (slots.foldl (fun (grid : Grid) slot => grid.put slot item) grid).get? slot = _
  induction slots generalizing grid with
  | nil => simp
  | cons first rest ih =>
    rw [List.foldl_cons, ih, OrderedMap.get?_put]
    by_cases later : slot ∈ rest
    · simp [later]
    · by_cases same : first = slot
      · simp [same]
      · simp [later, same, Ne.symm same]

/-- The part of a grid that is in the slots wanted. -/
def Grid.restrict (grid : Grid) (wanted : List Int) : Grid :=
  grid.filter fun (slot, _) => wanted.contains slot

/-- Two grids show the same in the slots that are wanted. -/
def Grid.AgreeOn (wanted : List Int) (part full : Grid) : Prop :=
  ∀ slot ∈ wanted, part.get? slot = full.get? slot

/-- The part shows the same as the whole in the slots wanted. Outside of them it shows nothing. -/
theorem Grid.agreeOn_restrict (grid : Grid) (wanted : List Int) : AgreeOn wanted (grid.restrict wanted) grid :=
  fun _ isWanted => OrderedMap.get?_filter fun _ => List.contains_iff_mem.mpr isWanted

/-- What is put into a slot shows in the part if the slot is wanted. Otherwise the part stays as it is. -/
theorem Grid.restrict_put (grid : Grid) (slot : Int) (item : RenderedItem) :
    Grid.restrict (grid.put slot item) wanted =
      if slot ∈ wanted then (grid.restrict wanted).put slot item else grid.restrict wanted := by
  induction grid with
  | nil => by_cases isWanted : slot ∈ wanted <;> simp [restrict, OrderedMap.put, isWanted]
  | cons pair rest ih =>
    obtain ⟨first, shown⟩ := pair
    unfold restrict at ih ⊢
    by_cases same : first = slot
    · subst same
      by_cases isWanted : first ∈ wanted <;> simp [OrderedMap.put, isWanted]
    · by_cases isWanted : slot ∈ wanted <;> by_cases firstWanted : first ∈ wanted
      all_goals simpa [OrderedMap.put, same, isWanted, firstWanted] using ih

/-- What is put into several slots shows in the part as far as these are wanted. An item that is not visible shows
nowhere. -/
theorem Grid.restrict_show (grid : Grid) (slots : List Int) (shown : Option RenderedItem) :
    (grid.show slots shown).restrict wanted = (grid.restrict wanted).show (slots.filter wanted.contains) shown := by
  cases shown with
  | none => rfl
  | some item =>
    induction slots generalizing grid with
    | nil => rfl
    | cons slot slots ih =>
      change (Grid.show (grid.put slot item) slots (some item)).restrict wanted = _
      rw [ih, restrict_put]
      by_cases isWanted : slot ∈ wanted
      · rw [if_pos isWanted, List.filter_cons_of_pos (List.contains_iff_mem.mpr isWanted)]
        rfl
      · rw [if_neg isWanted, List.filter_cons_of_neg (mt List.contains_iff_mem.mp isWanted)]

variable {look : String → Entry → Except Failure (Option RenderedItem)}

/-- If an item can be placed in all its slots, it can be placed in those wanted, and makes the part of what it makes
in all of them. An item that has none of the wanted slots is not asked anything, and its part is the one before. -/
theorem Menu.placeKnown_restrict {grid after : Grid} {placement : String × Entry × List Int}
    (placed : menu.placeKnown look none grid placement = .ok after) :
    menu.placeKnown look (some wanted) (grid.restrict wanted) placement = .ok (after.restrict wanted) := by
  obtain ⟨key, entry, slots⟩ := placement
  have targets : slots.filter (menu.isTarget (some wanted)) =
      (slots.filter (menu.isTarget none)).filter wanted.contains := by
    rw [List.filter_filter]
    refine List.filter_congr fun slot _ => ?_
    simp [Menu.isTarget, Bool.and_comm]
  unfold placeKnown at placed ⊢
  dsimp only at placed ⊢
  rw [targets]
  by_cases nowhere : (slots.filter (menu.isTarget none)).isEmpty = true
  · rw [if_pos nowhere] at placed
    cases placed
    rw [List.isEmpty_iff.mp nowhere]
    rfl
  · rw [if_neg nowhere] at placed
    cases known : look key entry with
    | error cause =>
      rw [known] at placed
      cases placed
    | ok shown =>
      rw [known] at placed
      cases placed
      rw [Grid.restrict_show]
      split
      · rename_i unwanted
        rw [List.isEmpty_iff.mp unwanted]
        cases shown <;> rfl
      · rfl

/-- The same holds for all items, one after another. The induction is on the items, and a part may come out where the
whole does not, so only this direction holds. -/
theorem Menu.placeAll_restrict {placements : List (String × Entry × List Int)} {grid after : Grid}
    (placed : placements.foldlM (menu.placeKnown look none) grid = .ok after) :
    placements.foldlM (menu.placeKnown look (some wanted)) (grid.restrict wanted) = .ok (after.restrict wanted) := by
  induction placements generalizing grid with
  | nil =>
    cases placed
    rfl
  | cons placement placements ih =>
    rw [List.foldlM_cons] at placed
    obtain ⟨middle, one, others⟩ := ok_of_bind placed
    rw [List.foldlM_cons, placeKnown_restrict one]
    exact ih others

end

section

variable {classes : Classes} {actor : Actor} {view : Option View} {p : Placeholders} {menu : Menu}

/-- Placing an item without a memory is placing what it shows. What it shows is then a value that does not depend on
the ledger. -/
theorem Entry.IsPure.answerOf_place [Machine] {base : Placeholder.Table} {entry : Entry} (pure : entry.IsPure)
    (wanted : Option (List Int)) (grid : Grid) (key : String) (slots : List Int) :
    answerOf (menu.place classes actor view base wanted grid (key, entry, slots)) =
      menu.placeKnown (fun key entry => answerOf (entry.appearance classes actor view base key))
        wanted grid (key, entry, slots) := by
  rw [Menu.place_eq]
  unfold Menu.placeKnown
  dsimp only
  split
  · rfl
  · rw [answerOf_bind (pure.steady_appearance key) fun _ => steady_pure _]
    cases answerOf (entry.appearance classes actor view base key) <;> rfl

/-- A layout is steady if nothing that it asks has a memory. It asks for the table once and for each of its items in
turn. -/
theorem Menu.IsPure.steady_layout [Machine] (pure : menu.IsPure) (registered : p.IsPure)
    (wanted : Option (List Int)) : Steady classes (menu.layout classes actor view p wanted) := by
  unfold Menu.layout
  refine steady_bind (registered.steady_build menu view) fun base => ?_
  exact steady_foldlM (fun grid placement member => (pure.placements member).steady_place _ _ _ _ _) []

/-- What such a layout gives is the table of the drawing first, and then a loop over the items, each with what it
shows. -/
theorem Menu.IsPure.answerOf_layout [Machine] (pure : menu.IsPure) (registered : p.IsPure)
    (wanted : Option (List Int)) :
    answerOf (menu.layout classes actor view p wanted) =
      answerOf (p.build classes actor menu view) >>= fun base =>
        List.foldlM (menu.placeKnown
          (fun key entry => answerOf (entry.appearance classes actor view base key)) wanted) []
          (menu.placements ((view.map (·.page)).getD 0)) := by
  unfold Menu.layout
  have steady (base : Placeholder.Table) : Steady classes (List.foldlM
      (fun grid placement => menu.place classes actor view base wanted grid placement) []
      (menu.placements ((view.map (·.page)).getD 0))) :=
    steady_foldlM (fun grid placement member => (pure.placements member).steady_place _ _ _ _ _) []
  rw [answerOf_bind (registered.steady_build menu view) steady]
  congr 1
  funext base
  apply answerOf_foldlM
  · exact fun grid placement member => (pure.placements member).steady_place _ _ _ _ _
  · exact fun grid placement member => (pure.placements member).answerOf_place _ _ _ _

/-- If the layout of all slots comes out, that of some slots does, and is the part of it in these. This is why a patch
can be compared with a full drawing. -/
theorem Menu.IsPure.layout_restrict [Machine] (pure : menu.IsPure) (registered : p.IsPure) {grid : Grid}
    (full : answerOf (menu.layout classes actor view p none) = .ok grid) (wanted : List Int) :
    answerOf (menu.layout classes actor view p (some wanted)) = .ok (grid.restrict wanted) := by
  rw [pure.answerOf_layout registered] at full ⊢
  obtain ⟨base, built, placed⟩ := ok_of_bind full
  rw [built]
  exact Menu.placeAll_restrict placed

end

namespace EngineState

variable {s : EngineState} {session : Session} {menu : Menu}

/-- A drawing is steady if nothing that it asks has a memory. It is the title and the layout. -/
theorem steady_drawing [Machine] (pure : menu.IsPure) (registered : s.placeholders.IsPure)
    (slots : Option (List SlotName)) : Steady s.classes (s.drawing session menu slots) := by
  unfold drawing
  refine steady_bind (registered.steady_build menu _) fun table => ?_
  refine steady_bind (steady_result _) fun title => ?_
  exact steady_bind (pure.steady_layout registered _) fun grid => steady_pure _

/-- What such a drawing gives is the title written with the table of the drawing, and the layout. -/
theorem answerOf_drawing [Machine] (pure : menu.IsPure) (registered : s.placeholders.IsPure)
    (slots : Option (List SlotName)) :
    answerOf (s.drawing session menu slots) = do
      let table ← answerOf
        (s.placeholders.build s.classes (s.actor session.actor) menu (some session.view))
      let title ← Placeholder.apply table menu.title
      let grid ← answerOf (menu.layout s.classes (s.actor session.actor) (some session.view)
        s.placeholders (slots.map (·.map (·.slot))))
      return (title, grid) := by
  have laid (title : String) : Steady s.classes (do
      let grid ← menu.layout s.classes (s.actor session.actor) (some session.view)
        s.placeholders (slots.map (·.map (·.slot)))
      return (title, grid)) :=
    steady_bind (pure.steady_layout registered _) fun grid => steady_pure _
  unfold drawing
  dsimp only
  rw [answerOf_bind (registered.steady_build menu _) fun table =>
    steady_bind (steady_result _) fun title => laid title]
  congr 1
  funext table
  rw [answerOf_bind (steady_result _) laid]
  congr 1
  funext title
  exact answerOf_bind (pure.steady_layout registered _) fun grid => steady_pure _

/-- If the drawing of all slots comes out, that of some slots does, with the same title and the part of it in these
slots. The title does not depend on the slots. -/
theorem drawing_restrict [Machine] (pure : menu.IsPure) (registered : s.placeholders.IsPure)
    {title : String} {grid : Grid} (full : answerOf (s.drawing session menu none) = .ok (title, grid))
    (names : List SlotName) :
    answerOf (s.drawing session menu (some names)) = .ok (title, grid.restrict (names.map (·.slot))) := by
  rw [answerOf_drawing pure registered] at full ⊢
  obtain ⟨table, built, full⟩ := ok_of_bind full
  obtain ⟨words, named, full⟩ := ok_of_bind full
  obtain ⟨whole, laid, same⟩ := ok_of_bind full
  cases same
  rw [built]
  change (Placeholder.apply table menu.title >>= _) = _
  rw [named]
  change (answerOf (menu.layout _ _ _ _ (some _)) >>= _) = _
  rw [pure.layout_restrict registered laid]
  rfl

end EngineState

/-- Drawing a slot changes what is shown in it, and in no other. A slot for which nothing was drawn is emptied. -/
theorem Surface.get?_drawSlot (part : Grid) (surface : Surface) (name : SlotName) (slot : Int) :
    (drawSlot part surface name).items.get? slot =
      if name.slot = slot then part.get? slot else surface.items.get? slot := by
  unfold drawSlot
  dsimp only
  cases found : part.get? name.slot with
  | some item =>
    rw [OrderedMap.get?_put]
    split
    · rename_i same
      rw [← same, found]
    · rfl
  | none =>
    rw [OrderedMap.get?_erase]
    split
    · rename_i same
      rw [← same, found]
    · rfl

/-- The slots that are drawn show what was drawn, all others what they did before. The induction is on the slots that
are drawn. -/
theorem Surface.get?_drawSlots (part : Grid) (names : List SlotName) (surface : Surface) (slot : Int) :
    (names.foldl (drawSlot part) surface).items.get? slot =
      if slot ∈ names.map (·.slot) then part.get? slot else surface.items.get? slot := by
  induction names generalizing surface with
  | nil => simp
  | cons name names ih =>
    rw [List.foldl_cons, ih, get?_drawSlot, List.map_cons]
    by_cases later : slot ∈ names.map (·.slot)
    · simp [later]
    · by_cases same : name.slot = slot
      · simp [same]
      · simp [later, same, Ne.symm same]

/-- Drawing some slots on a surface that shows the same in them already leaves its items as they are. Slots that were
not to be drawn are left alone anyway. -/
theorem Surface.items_drawSlots {part : Grid} {names : List SlotName} {surface : Surface}
    (agree : Grid.AgreeOn (names.map (·.slot)) part surface.items) :
    (names.foldl (drawSlot part) surface).items = surface.items := by
  induction names generalizing surface with
  | nil => rfl
  | cons name names ih =>
    have one : (drawSlot part surface name).items = surface.items := by
      have same := agree name.slot (by simp)
      unfold drawSlot
      dsimp only
      cases found : part.get? name.slot with
      | some item =>
        rw [found] at same
        exact OrderedMap.put_eq_self same.symm
      | none =>
        rw [found] at same
        exact OrderedMap.erase_eq_self same.symm
    rw [List.foldl_cons, ih, one]
    intro slot member
    rw [one]
    exact agree slot (List.mem_cons_of_mem _ member)

end ChestMenu
