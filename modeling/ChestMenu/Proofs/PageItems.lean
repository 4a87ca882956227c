import ChestMenu.Proofs.Numerals
import ChestMenu.Proofs.Stacking
import Mathlib.Algebra.Order.Floor.Div

/-!
# Page items

The pages cut the list of page items into pieces as long as there are page slots, so the pieces of the first pages,
put one after another, are the front of the list. If the number of pages is not fixed, there are as many pages as it
takes to get to the end: no item is lost between two pages, none stands on both, and no page behind the last has any.
A fixed number of pages may end before the list does; then the rest is on no page that can be shown.

A page item has its number in the list in its key, and this number is counted from the page and the place on it, once
for clicks and once for layouts. Both give the item the number at which it stands. An item of the menu that is no page
item may have such a key by its own name; that is the only way in which a key does not tell the number.
-/
namespace ChestMenu

open ChestMenu.Number

section

namespace Pagination

variable {p : Pagination} {page : Nat} {slot : Int} {number : Nat} {entry : Entry}

/-- The entries on a page, in order. -/
def entriesOnPage (p : Pagination) (page : Int) : List Entry :=
  (p.itemsOnPage page).map (·.2)

/-- The items of a page are a piece of the list, as long as the number of page slots. -/
theorem entriesOnPage_natCast (p : Pagination) (page : Nat) :
    p.entriesOnPage page = (p.items.drop (page * p.slotsPerPage)).take p.slotsPerPage := by
  rw [entriesOnPage, Menu.itemsOnPage_natCast]
  exact List.map_snd_zip (List.length_take_le _ _)

/-- The first pages have the front of the list. The induction is on the number of pages. -/
theorem flatMap_entriesOnPage (p : Pagination) (count : Nat) :
    (List.range count).flatMap (fun page : Nat => p.entriesOnPage page) = p.items.take (count * p.slotsPerPage) := by
  induction count with
  | zero => simp
  | succ count ih =>
    rw [List.range_succ, List.flatMap_append, ih, List.flatMap_singleton, entriesOnPage_natCast, Nat.succ_mul,
      List.take_add]

/-- A page uses the page slots from the first one on. The last page may leave some of them free. -/
theorem slots_of_page_isPrefix (p : Pagination) (page : Int) : (p.itemsOnPage page).map (·.1) <+: p.slots := by
  unfold itemsOnPage
  split
  · exact List.nil_prefix
  · rw [List.zip_eq_zip_take_min, List.map_fst_zip (by simp)]
    exact List.take_prefix _ _

/-- If the number of pages is not fixed, a number of pages is enough exactly if it is not zero and they have room for
all items. There is one page at least, even without items. -/
theorem totalPages_le_iff (roomy : p.slots ≠ []) (free : p.pages = none) :
    p.totalPages ≤ page ↔ 0 < page ∧ p.items.length ≤ page * p.slotsPerPage := by
  have slots : 0 < p.slotsPerPage := List.length_pos_iff.mpr roomy
  have needed : (p.items.length + p.slotsPerPage - 1) / p.slotsPerPage ≤ page ↔
      p.items.length ≤ page * p.slotsPerPage := by
    rw [← Nat.ceilDiv_eq_add_pred_div, ceilDiv_le_iff_le_mul slots, Nat.mul_comm]
  have counted : p.totalPages = max 1 (((p.items.length + p.slotsPerPage - 1) / p.slotsPerPage : Nat) : Int) := by
    rw [totalPages, free]
    exact if_neg (mt List.isEmpty_iff.mp roomy)
  rw [counted, ← needed]
  omega

/-- A fixed number of pages comes before the number that the items need. It counts as one if it is smaller than that. -/
theorem totalPages_of_fixed {count : Int} (fixed : p.pages = some count) : p.totalPages = max 1 count := by
  rw [totalPages, fixed]

/-- How the items are spread over the pages: one after another they give the list, every page but the last is full, the
last has something unless there is nothing, and behind it there is nothing. -/
structure Spread (p : Pagination) : Prop where
  joined : (List.range p.totalPages.toNat).flatMap (fun page : Nat => p.entriesOnPage page) = p.items
  full : ∀ page : Nat, page + 1 < p.totalPages → (p.entriesOnPage page).length = p.slots.length
  last : p.entriesOnPage (p.totalPages - 1) = [] ↔ p.items = []
  beyond : ∀ page : Int, p.totalPages ≤ page → p.itemsOnPage page = []

/-- The items are spread over the pages if there are page slots and the number of pages is not fixed: joined they give
the list, each page but the last is full, and none comes behind the last. -/
theorem spread (roomy : p.slots ≠ []) (free : p.pages = none) : p.Spread where
  joined := by
    have pages : p.totalPages ≤ p.totalPages.toNat := Int.self_le_toNat _
    obtain ⟨-, enough⟩ := (totalPages_le_iff roomy free).mp pages
    rw [flatMap_entriesOnPage, List.take_of_length_le enough]
  full page before := by
    have short : ¬p.totalPages ≤ (page + 1 : Nat) := by omega
    rw [totalPages_le_iff roomy free, Nat.succ_mul] at short
    rw [entriesOnPage_natCast, List.length_take, List.length_drop, ← slotsPerPage]
    omega
  last := by
    obtain ⟨lastPage, isLast⟩ : ∃ lastPage : Nat, p.totalPages - 1 = lastPage :=
      Int.eq_ofNat_of_zero_le (Int.sub_nonneg.mpr p.one_le_totalPages)
    have short : ¬p.totalPages ≤ lastPage := by omega
    have slots : p.slotsPerPage ≠ 0 := Nat.ne_of_gt (List.length_pos_iff.mpr roomy)
    rw [totalPages_le_iff roomy free] at short
    rw [isLast, entriesOnPage_natCast, List.take_eq_nil_iff, List.drop_eq_nil_iff, or_iff_right slots]
    constructor
    · -- If nothing were left for a later page, the pages before it would have been enough.
      intro noneLeft
      have first : lastPage = 0 := by
        by_contra later
        exact short ⟨Nat.pos_of_ne_zero later, noneLeft⟩
      rw [first, Nat.zero_mul] at noneLeft
      exact List.length_eq_zero_iff.mp (Nat.le_zero.mp noneLeft)
    · intro empty
      rw [empty]
      exact Nat.zero_le _
  beyond page behind := by
    have positive := p.one_le_totalPages
    obtain ⟨page, rfl⟩ := Int.eq_ofNat_of_zero_le (show 0 ≤ page by omega)
    obtain ⟨-, enough⟩ := (totalPages_le_iff roomy free).mp behind
    rw [Menu.itemsOnPage_natCast, List.drop_eq_nil_of_le enough, List.take_nil, List.zip_nil_right]

/-- The key of the page item with a number. -/
def pageKey (index : Nat) : String := "page:" ++ integerText index

/-- The key of a page item tells its number. Two items have the same key only if they are the same. -/
theorem pageKey_injective : Function.Injective pageKey := by
  intro i j same
  exact naturalText_injective ((String.append_right_inj "page:").mp same)

/-- A page item stands on a slot of a page under its number in the list: the slot is a page slot, and counted from the
first item of the page the item has the number of the slot. -/
def StandsOn (p : Pagination) (page : Nat) (slot : Int) (index : Nat) (entry : Entry) : Prop :=
  ∃ number, p.slots[number]? = some slot ∧ index = page * p.slotsPerPage + number ∧ p.items[index]? = some entry

/-- What stands on a page under a key is the page item with the number that the key tells. So the key does not depend
on the page on which the item is found. -/
theorem getElem?_keyedItemsOnPage {key : String} :
    (p.keyedItemsOnPage page)[number]? = some (key, slot, entry) ↔
      key = pageKey (page * p.slotsPerPage + number) ∧ p.slots[number]? = some slot ∧
        p.items[page * p.slotsPerPage + number]? = some entry := by
  have counted : (page : Int) * p.slotsPerPage + number = (page * p.slotsPerPage + number : Nat) := by push_cast; rfl
  simp only [keyedItemsOnPage, List.getElem?_mapIdx, Option.map_eq_some_iff, Prod.exists, Prod.mk.injEq, counted]
  constructor
  · rintro ⟨_, _, there, rfl, rfl, rfl⟩
    exact ⟨rfl, Menu.getElem?_itemsOnPage.mp there⟩
  · rintro ⟨rfl, there⟩
    exact ⟨slot, entry, Menu.getElem?_itemsOnPage.mpr there, rfl, rfl, rfl⟩

end Pagination

namespace Menu

open Pagination

variable {menu : Menu} {p : Pagination} {page index : Nat} {slot : Int} {entry : Entry}

/-- On a page the keys of page items tell their numbers. A click on a slot is for the first page item that stands there,
under the key with its number, and under this key each page item is placed by a layout. What is found or drawn under
such a key is the page item with the number, or an item of the menu with the key for its name. -/
structure KeysTellNumbers [Machine] (menu : Menu) (p : Pagination) (page : Nat) : Prop where
  clicked : ∀ slot index entry, p.StandsOn page slot index entry →
    (∀ other covered, p.StandsOn page slot other covered → index ≤ other) →
      menu.itemAtSlot slot page = some (pageKey index, entry)
  placed : ∀ slot index entry, p.StandsOn page slot index entry →
    (pageKey index, entry, [slot]) ∈ menu.placements page
  ofClicked : ∀ slot index entry, menu.itemAtSlot slot page = some (pageKey index, entry) →
    p.StandsOn page slot index entry ∨ (pageKey index, entry) ∈ menu.items ∧ slot ∈ entry.slots
  ofDrawn : ∀ classes actor view (placeholders : Placeholders) wanted before after grid slot index item,
    (view.map (·.page)).getD 0 = (page : Int) →
      (menu.layout classes actor view placeholders wanted).run.run before = (.ok grid, after) →
        grid.get? slot = some item → item.key = pageKey index →
          ∃ base asked entry, (placeholders.build classes actor menu view).run.run before = (.ok base, asked) ∧
            (p.StandsOn page slot index entry ∨ (pageKey index, entry) ∈ menu.items ∧ slot ∈ entry.slots) ∧
            entry.ShowsAs classes actor view base item

/-- The page items of a page, with their keys, are those that the pagination of the menu gives. -/
theorem pageItems_of_paginated (paginated : menu.pagination = some p) (page : Int) :
    menu.pageItems page = p.keyedItemsOnPage page := by
  rw [pageItems, paginated]

/-- Of the page items with a slot the first is found. Numbers rise along the page, so the first is the one with the
lowest number. -/
theorem find?_of_standsOn (paginated : menu.pagination = some p) (stands : p.StandsOn page slot index entry)
    (first : ∀ other covered, p.StandsOn page slot other covered → index ≤ other) :
    ((menu.pageItems page).find? fun (_, pageSlot, _) => pageSlot == slot) = some (pageKey index, slot, entry) := by
  obtain ⟨number, isSlot, rfl, isItem⟩ := stands
  obtain ⟨inside, there⟩ := List.getElem?_eq_some_iff.mp (getElem?_keyedItemsOnPage.mpr ⟨rfl, isSlot, isItem⟩)
  rw [pageItems_of_paginated paginated, List.find?_eq_some_iff_getElem]
  refine ⟨beq_self_eq_true slot, number, inside, there, fun earlier before => ?_⟩
  rcases beside : (p.keyedItemsOnPage page)[earlier] with ⟨key, otherSlot, covered⟩
  obtain ⟨-, isOtherSlot, isOther⟩ := getElem?_keyedItemsOnPage.mp (List.getElem?_eq_some_iff.mpr ⟨_, beside⟩)
  rw [Bool.not_eq_true', beq_eq_false_iff_ne]
  rintro rfl
  have notBefore := first _ covered ⟨earlier, isOtherSlot, rfl, isOther⟩
  omega

/-- A click on a slot is for the first page item that stands there, whatever other items claim the slot. -/
theorem itemAtSlot_of_standsOn (paginated : menu.pagination = some p) (stands : p.StandsOn page slot index entry)
    (first : ∀ other covered, p.StandsOn page slot other covered → index ≤ other) :
    menu.itemAtSlot slot page = some (pageKey index, entry) := by
  unfold itemAtSlot
  rw [find?_of_standsOn paginated stands first]

/-- What claims a slot under the key of a page item is this page item, or an item with the key for its name. An item
of the menu may have any name, also this one. -/
theorem ClaimsAt.of_pageKey {place : Place} (paginated : menu.pagination = some p)
    (claims : menu.ClaimsAt page slot place (pageKey index) entry) :
    p.StandsOn page slot index entry ∨ (pageKey index, entry) ∈ menu.items ∧ slot ∈ entry.slots := by
  generalize isKey : pageKey index = key at claims
  cases claims with
  | item stands claimed => exact .inr ⟨List.mem_of_getElem? stands, claimed⟩
  | pageItem samePages isSlot stands =>
    cases paginated.symm.trans samePages
    exact .inl ⟨_, isSlot, pageKey_injective isKey, by rw [pageKey_injective isKey, stands]⟩

/-- What a click on a slot is for claims the slot. It is an item of the page, or one of the menu. -/
theorem claimsAt_of_itemAtSlot {key : String} (found : menu.itemAtSlot slot page = some (key, entry)) :
    ∃ place, menu.ClaimsAt page slot place key entry := by
  unfold itemAtSlot at found
  split at found
  · rename_i _ pageSlot _ isFirst
    cases found
    have isSlot := List.find?_some isFirst
    rw [beq_iff_eq] at isSlot
    have member := List.mem_of_find?_eq_some isFirst
    cases paginated : menu.pagination with
    | none => simp [pageItems, paginated] at member
    | some pages =>
      rw [pageItems_of_paginated paginated] at member
      obtain ⟨number, there⟩ := List.getElem?_of_mem member
      obtain ⟨rfl, there, stands⟩ := getElem?_keyedItemsOnPage.mp there
      exact ⟨_, .pageItem paginated (isSlot ▸ there) stands⟩
  · obtain ⟨index, stands⟩ := List.getElem?_of_mem (List.mem_of_find?_eq_some found)
    have claimed := List.find?_some found
    exact ⟨_, .item stands (List.contains_iff_mem.mp claimed)⟩

/-- What is placed in a slot claims it. The place is the one in which it stands in the stack. -/
theorem claimsAt_of_placements {key : String} {slots : List Int} (placed : (key, entry, slots) ∈ menu.placements page)
    (claimed : slot ∈ slots) : ∃ place, menu.ClaimsAt page slot place key entry := by
  rw [← map_stack] at placed
  obtain ⟨⟨place, _⟩, member, rfl⟩ := List.mem_map.mp placed
  exact ⟨place, mem_stack.mp ⟨slots, member, claimed⟩⟩

/-- The keys of page items tell their numbers on every page. This holds for what clicks are for and for what layouts
place. -/
theorem keysTellNumbers [Machine] (paginated : menu.pagination = some p) (page : Nat) :
    menu.KeysTellNumbers p page where
  clicked _ _ _ := itemAtSlot_of_standsOn paginated
  placed slot index entry stands := by
    obtain ⟨number, isSlot, rfl, isItem⟩ := stands
    have onPage := List.mem_of_getElem? (getElem?_keyedItemsOnPage.mpr ⟨rfl, isSlot, isItem⟩)
    rw [← pageItems_of_paginated paginated] at onPage
    exact List.mem_append_right _ (List.mem_map.mpr ⟨_, onPage, rfl⟩)
  ofClicked slot index entry found := by
    obtain ⟨place, claims⟩ := claimsAt_of_itemAtSlot found
    exact claims.of_pageKey paginated
  ofDrawn classes actor view placeholders wanted before after grid slot index item isPage laid there isKey := by
    obtain ⟨base, asked, entry, slots, built, placed, claimed, shows⟩ := shown_of_layout laid there
    rw [isPage, isKey] at placed
    obtain ⟨place, claims⟩ := claimsAt_of_placements placed claimed
    exact ⟨base, asked, entry, built, claims.of_pageKey paginated, shows⟩

end Menu

/-- Pages lose no item and show none twice. If there are page slots and the number of pages is not fixed, the items
are spread over the pages. A page uses the page slots from the first one on. If the number of pages is fixed, the
pages have the items from the first one on for which they have room. And on every page of a menu the keys of the page
items tell their numbers, for clicks and for layouts.

Proof: a page is a slice of the list of items, as long as there are page slots, and slices of one length that follow
one another join to the front of the list. The number of pages is the quotient rounded up, which is where the list
ends. -/
theorem Pagination.pages_keep_items [Machine] (p : Pagination) :
    (p.slots ≠ [] → p.pages = none → p.Spread) ∧
    (∀ page : Int, (p.itemsOnPage page).map (·.1) <+: p.slots) ∧
    (∀ count, p.pages = some count → p.totalPages = max 1 count ∧
      (List.range (max 1 count).toNat).flatMap (fun page : Nat => p.entriesOnPage page) =
        p.items.take ((max 1 count).toNat * p.slots.length)) ∧
    ∀ menu : Menu, menu.pagination = some p → ∀ page : Nat, menu.KeysTellNumbers p page :=
  ⟨spread, p.slots_of_page_isPrefix, fun _ fixed => ⟨totalPages_of_fixed fixed, p.flatMap_entriesOnPage _⟩,
    fun _ => Menu.keysTellNumbers⟩

/-- A bookcase with three boards and seven books. -/
def bookcase : Pagination where
  slots := [10, 11, 12]
  items := (List.range 7).map fun number => { template := { material := "BOOK", name := naturalText number } }

/-- The bookcase when it shows two pages only. -/
def shutBookcase : Pagination := { bookcase with pages := some 2 }

end

/-- The bookcase has three pages, the last with one book. With two pages it shows six. In a menu of its own the last
book is found on the first board, under its number. -/
theorem bookcase_keeps_books :
    bookcase.totalPages = 3 ∧ bookcase.Spread ∧ (bookcase.entriesOnPage 2).map (·.template.name) = ["6"] ∧
    ((List.range 2).flatMap fun page : Nat => shutBookcase.entriesOnPage page) = bookcase.items.take 6 ∧
    ∃ book, ({ id := "library", pagination := some bookcase } : Menu).itemAtSlot 10 2 =
        some (Pagination.pageKey 6, book) ∧ book.template.name = "6" := by
  obtain ⟨spread, -, -, keys⟩ := bookcase.pages_keep_items
  obtain ⟨-, -, fixed, -⟩ := shutBookcase.pages_keep_items
  refine ⟨rfl, spread (by decide) rfl, by decide +kernel, (fixed 2 rfl).2, _,
    (keys { id := "library", pagination := some bookcase } rfl 2).clicked 10 6 _ ⟨0, rfl, rfl, rfl⟩ ?_, ?_⟩
  · rintro other - ⟨number, -, rfl, -⟩
    exact Nat.le_add_right 6 number
  · decide +kernel

end ChestMenu
