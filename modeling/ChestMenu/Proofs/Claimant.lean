import ChestMenu.Proofs.Drawing
import ChestMenu.Proofs.Host

/-!
# Whose a slot is

Drawing goes through the items by priority and lets the last visible one cover those before it, the items of the page
on top. Clicking takes the first item in the order of the menu that claims the slot, the items of the page before the
others, and asks neither for priorities nor for what is visible.

In a menu that has no slot claimed twice the two cannot differ: whatever is drawn in a slot was put there by the one
item that a click on the slot is for. Nothing is asked of resolvers here; what is drawn is what the item showed at the
time when the layout asked it.
-/
namespace ChestMenu

section

/-- No slot is claimed twice: no two items have a slot in common, the page slots are all different, and no
item has one of them. -/
structure Menu.SlotsApart (menu : Menu) : Prop where
  items : menu.items.Pairwise fun a b => ∀ slot ∈ a.2.slots, slot ∉ b.2.slots
  pages : ∀ p, menu.pagination = some p →
    p.slots.Nodup ∧ ∀ pair ∈ menu.items, ∀ slot ∈ pair.2.slots, slot ∉ p.slots

/-- An item shows as it is drawn. When the layout asked it, with the tokens of the drawing below its own,
it was visible, and its texts with these tokens replaced are those that are drawn. -/
def Entry.ShowsAs [Machine] (classes : Classes) (actor : Actor) (view : Option View) (base : Placeholder.Table)
    (entry : Entry) (item : RenderedItem) : Prop :=
  ∃ table before asked after,
    (Placeholders.forItem classes base entry actor).run.run before = (.ok table, asked) ∧
      (entry.isVisible classes actor view table).run.run asked = (.ok true, after) ∧
      entry.render item.key table = .ok item

/-- If no two members of a list have a property, the first that has it is any that has it. It is then the only one. -/
theorem find?_of_pairwise {α : Type} {p : α → Bool} {xs : List α} {x : α}
    (apart : xs.Pairwise fun a b => p a = true → p b = false) (member : x ∈ xs) (holds : p x = true) :
    xs.find? p = some x := by
  induction xs with
  | nil => simp at member
  | cons first rest ih =>
    obtain ⟨others, apart⟩ := List.pairwise_cons.mp apart
    rcases List.mem_cons.mp member with rfl | later
    · exact List.find?_cons_of_pos holds
    · have passed : ¬ p first = true := by
        intro also
        rw [others x later also] at holds
        cases holds
      rw [List.find?_cons_of_neg passed]
      exact ih apart later

namespace Pagination

variable {p : Pagination} {page : Int}

/-- The slots of the items of a page are page slots, as the items of a page are put into these one by one. -/
theorem slot_of_mem_page {item : Int × Entry} (member : item ∈ p.itemsOnPage page) :
    item.1 ∈ p.slots := by
  unfold itemsOnPage at member
  split at member
  · simp at member
  · exact (List.of_mem_zip member).1

/-- They stay so when the items are given their keys. -/
theorem slot_of_mem_keyedPage {item : String × Int × Entry} (member : item ∈ p.keyedItemsOnPage page) :
    item.2.1 ∈ p.slots := by
  unfold keyedItemsOnPage at member
  obtain ⟨index, inside, rfl⟩ := List.mem_mapIdx.mp member
  exact slot_of_mem_page (List.getElem_mem inside)

/-- If the page slots are all different, so are those of the items of a page. Each of them has a slot to itself. -/
theorem pairwise_keyedPage (unique : p.slots.Nodup) :
    (p.keyedItemsOnPage page).Pairwise fun a b => a.2.1 ≠ b.2.1 := by
  unfold keyedItemsOnPage itemsOnPage
  split
  · simp
  · rw [List.pairwise_iff_getElem]
    intro i j first second less
    simp only [List.getElem_mapIdx, List.getElem_zip]
    exact List.pairwise_iff_getElem.mp unique i j _ _ less

end Pagination

namespace Menu.SlotsApart

variable {menu : Menu} {page slot : Int}

/-- The page item on a page slot is the one that a click there is for. There is no other in the slot, since page slots
are all different. -/
theorem find?_pageItems (apart : menu.SlotsApart) {key : String} {entry : Entry}
    (member : (key, slot, entry) ∈ menu.pageItems page) :
    ((menu.pageItems page).find? fun (_, pageSlot, _) => pageSlot == slot) =
      some (key, slot, entry) := by
  refine find?_of_pairwise ?_ member (beq_self_eq_true slot)
  unfold pageItems at member ⊢
  cases pagination : menu.pagination with
  | none => simp
  | some p =>
    refine (Pagination.pairwise_keyedPage (apart.pages p pagination).1).imp ?_
    intro a b different isSlot
    rw [beq_iff_eq] at isSlot
    rw [beq_eq_false_iff_ne, ← isSlot]
    exact Ne.symm different

/-- No page item is on a slot that another item claims. Page slots are none that an item of the menu claims. -/
theorem find?_pageItems_eq_none (apart : menu.SlotsApart) {pair : String × Entry}
    (member : pair ∈ menu.items) (claimed : slot ∈ pair.2.slots) :
    ((menu.pageItems page).find? fun (_, pageSlot, _) => pageSlot == slot) = none := by
  rw [List.find?_eq_none]
  intro item onPage isSlot
  unfold pageItems at onPage
  cases pagination : menu.pagination with
  | none => simp [pagination] at onPage
  | some p =>
    rw [pagination] at onPage
    have isPageSlot := Pagination.slot_of_mem_keyedPage onPage
    rw [beq_iff_eq] at isSlot
    rw [isSlot] at isPageSlot
    exact (apart.pages p pagination).2 pair member slot claimed isPageSlot

/-- Whatever is placed in a slot, a click on the slot is for it. It is an item of the page or one of the menu, and in
both cases the only claimant of the slot. -/
theorem itemAtSlot_of_placement (apart : menu.SlotsApart) {key : String} {entry : Entry}
    {slots : List Int} (placed : (key, entry, slots) ∈ menu.placements page) (claimed : slot ∈ slots) :
    menu.itemAtSlot slot page = some (key, entry) := by
  rcases mem_placements.mp placed with ⟨member, rfl⟩ | ⟨_, onPage, rfl⟩
  · have found : (menu.items.find? fun item => item.2.slots.contains slot) = some (key, entry) := by
      refine find?_of_pairwise (apart.items.imp ?_) member (List.contains_iff_mem.mpr claimed)
      intro a b disjoint isClaimed
      have absent := disjoint slot (List.contains_iff_mem.mp isClaimed)
      simpa using absent
    unfold itemAtSlot
    rw [apart.find?_pageItems_eq_none member claimed]
    exact found
  · cases List.mem_singleton.mp claimed
    unfold itemAtSlot
    rw [apart.find?_pageItems onPage]

end Menu.SlotsApart

section

variable {classes : Classes} {actor : Actor} {view : Option View} {base : Placeholder.Table}

/-- An item with its tokens replaced is drawn under the key that it was given. The key is not a text in which tokens
are replaced. -/
theorem Entry.key_of_render {entry : Entry} {key : String} {table : Placeholder.Table}
    {item : RenderedItem} (drawn : entry.render key table = .ok item) : item.key = key := by
  unfold render at drawn
  obtain ⟨name, -, drawn⟩ := ok_of_bind drawn
  obtain ⟨lore, -, drawn⟩ := ok_of_bind drawn
  cases drawn
  rfl

/-- What the layout is given to draw is what the item shows as, under the key of the item. This holds whatever the
item asks, as only the texts are looked at that it was drawn with. -/
theorem Entry.showsAs_of_appearance [Machine] {entry : Entry} {key : String} {item : RenderedItem}
    {before after : Ledger}
    (shown : (entry.appearance classes actor view base key).run.run before = (.ok (some item), after)) :
    item.key = key ∧ entry.ShowsAs classes actor view base item := by
  unfold appearance at shown
  obtain ⟨table, asked, tokens, shown⟩ := run_bind_eq_ok_iff.mp shown
  obtain ⟨visible, answered, isVisible, shown⟩ := run_bind_eq_ok_iff.mp shown
  cases visible with
  | false => cases shown
  | true =>
    obtain ⟨drawn, last, rendered, same⟩ := run_bind_eq_ok_iff.mp shown
    cases same
    have drawing : entry.render key table = .ok item := congrArg Prod.fst rendered
    have sameKey := Entry.key_of_render drawing
    refine ⟨sameKey, table, before, asked, answered, tokens, isVisible, ?_⟩
    rw [sameKey]
    exact drawing

/-- Placing one item leaves each slot with what was there, or with what the item shows as if it claims the slot.
Several slots of one item show the same. -/
theorem Menu.shown_of_place [Machine] {menu : Menu} {wanted : Option (List Int)} {grid placed : Grid}
    {key : String} {entry : Entry} {slots : List Int} {before after : Ledger}
    (done : (menu.place classes actor view base wanted grid (key, entry, slots)).run.run before =
      (.ok placed, after))
    {slot : Int} {item : RenderedItem} (there : placed.get? slot = some item) :
    grid.get? slot = some item ∨
      (slot ∈ slots ∧ item.key = key ∧ entry.ShowsAs classes actor view base item) := by
  rw [Menu.place_eq] at done
  dsimp only at done
  split at done
  · cases done
    exact Or.inl there
  · obtain ⟨shown, asked, appears, same⟩ := run_bind_eq_ok_iff.mp done
    cases same
    cases shown with
    | none => exact Or.inl there
    | some drawn =>
      rw [Grid.get?_show] at there
      split at there
      · rename_i target
        cases there
        exact Or.inr ⟨(List.mem_filter.mp target).1, Entry.showsAs_of_appearance appears⟩
      · exact Or.inl there

/-- After all items are placed, each slot has what was there before, or what one of the items that claim the slot
shows as. The induction is on the items, each of which is placed in the ledger that the ones before have left. -/
theorem Menu.shown_of_placeAll [Machine] {menu : Menu} {wanted : Option (List Int)}
    {placements : List (String × Entry × List Int)} {grid placed : Grid} {before after : Ledger}
    (done : (placements.foldlM (fun grid placement =>
      menu.place classes actor view base wanted grid placement) grid).run.run before =
        (.ok placed, after))
    {slot : Int} {item : RenderedItem} (there : placed.get? slot = some item) :
    grid.get? slot = some item ∨
      ∃ entry slots, (item.key, entry, slots) ∈ placements ∧ slot ∈ slots ∧
        entry.ShowsAs classes actor view base item := by
  induction placements generalizing grid before with
  | nil =>
    cases done
    exact Or.inl there
  | cons placement placements ih =>
    rw [List.foldlM_cons] at done
    obtain ⟨middle, asked, one, others⟩ := run_bind_eq_ok_iff.mp done
    rcases ih others with earlier | ⟨entry, slots, member, claimed, shows⟩
    · rcases shown_of_place one earlier with before | ⟨claimed, sameKey, shows⟩
      · exact Or.inl before
      · refine Or.inr ⟨placement.2.1, placement.2.2, ?_, claimed, shows⟩
        rw [sameKey]
        exact List.mem_cons_self
    · exact Or.inr ⟨entry, slots, List.mem_cons_of_mem _ member, claimed, shows⟩

/-- A layout is the placing of all items, one after another, once the tokens of the drawing are there. It fails if
these are not there. -/
theorem Menu.built_of_layout [Machine] {menu : Menu} {p : Placeholders} {wanted : Option (List Int)} {grid : Grid}
    {before after : Ledger}
    (laid : (menu.layout classes actor view p wanted).run.run before = (.ok grid, after)) :
    ∃ base asked, (p.build classes actor menu view).run.run before = (.ok base, asked) ∧
      ((menu.placements ((view.map (·.page)).getD 0)).foldlM (fun grid placement =>
        menu.place classes actor view base wanted grid placement) []).run.run asked = (.ok grid, after) := by
  unfold layout at laid
  exact run_bind_eq_ok_iff.mp laid

/-- What a layout has in a slot is what one of the items shows as that are placed there. There is nothing in the slots
at the start, so nothing else can be there in the end. -/
theorem Menu.shown_of_layout [Machine] {menu : Menu} {p : Placeholders} {wanted : Option (List Int)} {grid : Grid}
    {before after : Ledger}
    (laid : (menu.layout classes actor view p wanted).run.run before = (.ok grid, after))
    {slot : Int} {item : RenderedItem} (there : grid.get? slot = some item) :
    ∃ base asked entry slots,
      (p.build classes actor menu view).run.run before = (.ok base, asked) ∧
        (item.key, entry, slots) ∈ menu.placements ((view.map (·.page)).getD 0) ∧ slot ∈ slots ∧
        entry.ShowsAs classes actor view base item := by
  obtain ⟨base, asked, built, placed⟩ := Menu.built_of_layout laid
  rcases shown_of_placeAll placed there with nothing | ⟨entry, slots, member, claimed, shows⟩
  · cases nothing
  · exact ⟨base, asked, entry, slots, built, member, claimed, shows⟩

end

/-- If no slot of a menu is claimed twice, the item that a layout has in a slot is drawn from the entry that a click
on the slot is for: under its key, and as it shows. There is only one entry that claims the slot. -/
theorem Menu.SlotsApart.shown_itemAtSlot [Machine] {menu : Menu} (apart : menu.SlotsApart) {classes : Classes}
    {actor : Actor} {view : View} {p : Placeholders} {wanted : Option (List Int)} {grid : Grid}
    {before after : Ledger}
    (laid : (menu.layout classes actor (some view) p wanted).run.run before = (.ok grid, after))
    {slot : Int} {item : RenderedItem} (there : grid.get? slot = some item) :
    ∃ base asked entry,
      (p.build classes actor menu (some view)).run.run before = (.ok base, asked) ∧
        menu.itemAtSlot slot view.page = some (item.key, entry) ∧
        entry.ShowsAs classes actor (some view) base item := by
  obtain ⟨base, asked, entry, slots, built, placed, claimed, shows⟩ := Menu.shown_of_layout laid there
  exact ⟨base, asked, entry, built, apart.itemAtSlot_of_placement placed claimed, shows⟩

/-- Where the slots of a menu are kept apart, a click on a slot of an open menu is for the entry that is drawn there,
whatever the priorities and whatever is visible, on every page.

Proof: what is drawn in a slot was placed there by an entry that claims the slot (`Menu.shown_of_layout`). As no slot
is claimed twice, the search of a click, which goes by another order and asks nobody, finds the same entry. -/
theorem clicked_of_drawn [Machine] {menu : Menu} (apart : menu.SlotsApart) {classes : Classes} {actor : Actor}
    {session : Session} {p : Placeholders} {grid : Grid} {before after : Ledger}
    (laid : (menu.layout classes actor (some session.view) p none).run.run before = (.ok grid, after))
    {slot : Int} {item : RenderedItem} (there : grid.get? slot = some item) :
    ∃ base asked entry,
      (p.build classes actor menu (some session.view)).run.run before = (.ok base, asked) ∧
        menu.itemAtSlot slot session.page = some (item.key, entry) ∧
        entry.ShowsAs classes actor (some session.view) base item :=
  apart.shown_itemAtSlot laid there

/-- No slot of the small menu is claimed twice, neither by two of its items nor by an item and a page. -/
theorem smallMenu_apart : smallMenu.SlotsApart where
  items := by decide
  pages := by
    intro p same
    cases same
    decide

end

/-- The second page of the small menu has wood in its page slot, and a click there is for the wood. -/
theorem clicked_woodMenu :
    ∃ grid item after base asked entry,
      (smallMenu.layout {} { id := .text "ann", name := .text "Ann" }
        (some { actor := 0, menu := "shop", page := 1 : Session }.view) {} none).run.run {} =
          (.ok grid, after) ∧
        grid.get? 1 = some item ∧ item.material = "WOOD" ∧
        (({} : Placeholders).build {} { id := .text "ann", name := .text "Ann" } smallMenu
          (some { actor := 0, menu := "shop", page := 1 : Session }.view)).run.run {} =
            (.ok base, asked) ∧
        smallMenu.itemAtSlot 1 1 = some (item.key, entry) ∧
        entry.ShowsAs {} { id := .text "ann", name := .text "Ann" }
          (some { actor := 0, menu := "shop", page := 1 : Session }.view) base item := by
  have wood : (((smallMenu.layout {} { id := .text "ann", name := .text "Ann" }
      (some { actor := 0, menu := "shop", page := 1 : Session }.view) {} none).run.run
        {}).1.toOption.bind fun grid => (grid.get? 1).map (·.material)) = some "WOOD" := by
    decide +kernel
  rcases laid : (smallMenu.layout {} { id := .text "ann", name := .text "Ann" }
    (some { actor := 0, menu := "shop", page := 1 : Session }.view) {} none).run.run {} with
      ⟨_ | grid, after⟩
  · rw [laid] at wood
    cases wood
  · rw [laid] at wood
    obtain ⟨item, there, material⟩ := Option.map_eq_some_iff.mp wood
    obtain ⟨base, asked, entry, built, clicked, shows⟩ := clicked_of_drawn smallMenu_apart laid there
    exact ⟨grid, item, after, base, asked, entry, rfl, there, material, built, clicked, shows⟩

end ChestMenu
