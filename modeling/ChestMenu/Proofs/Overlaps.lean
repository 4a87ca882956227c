import ChestMenu.Proofs.Claimant
import ChestMenu.Proofs.Loadable

/-!
# What the loader notes of slots that are claimed twice

The loader goes through the items of a document before it reads the pages: of a slot that a second item claims it says
that clicks there are for the first.

So the page items are left out, although a click asks them first. The notices are right for a slot as long as no page
item stands in it, and a slot that no notice names is drawn and clicked alike unless page items compete for it, with
each other or with another item.
-/
namespace ChestMenu

open MenuDocument

section

namespace Menu

variable {menu : Menu} {page slot : Int} {key owner claimant : String}

/-- An item claims a slot. -/
def Claims (menu : Menu) (key : String) (slot : Int) : Prop :=
  ∃ entry, (key, entry) ∈ menu.items ∧ slot ∈ entry.slots

/-- An item is the first in the order of the menu that claims a slot. -/
def Owns (menu : Menu) (key : String) (slot : Int) : Prop :=
  ∃ entry, menu.items.find? (fun pair => pair.2.slots.contains slot) = some (key, entry)

/-- A page item stands in a slot. -/
def HasPageItem (menu : Menu) (page slot : Int) : Prop :=
  ∃ item ∈ menu.pageItems page, item.2.1 = slot

/-- Page items compete for a slot: two of a page stand in it, or one does that another item claims. -/
def Contested (menu : Menu) (page slot : Int) : Prop :=
  (¬(menu.pageItems page).Pairwise fun a b => a.2.1 = slot → b.2.1 ≠ slot) ∨
    menu.HasPageItem page slot ∧ ∃ key, menu.Claims key slot

/-- The first claim of a slot is that of the first item that claims it. Claims are listed item by item in the order of
the document. -/
theorem find?_claims (items : List (String × Entry)) (slot : Int) :
    ((items.flatMap fun pair => pair.2.slots.map fun slot => (slot, pair.1)).find? (·.1 == slot)) =
      (items.find? fun pair => pair.2.slots.contains slot).map fun pair => (slot, pair.1) := by
  induction items with
  | nil => rfl
  | cons pair items ih =>
    have own : ((pair.2.slots.map fun slot => (slot, pair.1)).find? (·.1 == slot)) =
        (pair.2.slots.find? (· == slot)).map fun slot => (slot, pair.1) := List.find?_map ..
    rw [List.flatMap_cons, List.find?_append, own, ih, List.find?_cons]
    cases claimed : pair.2.slots.contains slot with
    | true =>
      obtain ⟨other, found⟩ := Option.isSome_iff_exists.mp (List.find?_isSome (p := fun x => x == slot).mpr
        ⟨slot, List.contains_iff_mem.mp claimed, beq_self_eq_true slot⟩)
      have isSlot := List.find?_some found
      rw [found, beq_iff_eq.mp isSlot]
      rfl
    | false =>
      have absent : pair.2.slots.find? (· == slot) = none := by
        rw [List.find?_eq_none]
        intro other member isSlot
        rw [beq_iff_eq.mp isSlot, ← List.contains_iff_mem, claimed] at member
        cases member
      rw [absent]
      rfl

/-- An item that owns a slot claims it. It is the first to do so. -/
theorem Owns.claims (owns : menu.Owns key slot) : menu.Claims key slot := by
  obtain ⟨entry, found⟩ := owns
  have claimed := List.find?_some found
  exact ⟨entry, List.mem_of_find?_eq_some found, List.contains_iff_mem.mp claimed⟩

/-- A slot that is claimed is owned. Of the items that claim it, the first in the order of the document owns it. -/
theorem Claims.exists_owns (claims : menu.Claims key slot) : ∃ owner, menu.Owns owner slot := by
  obtain ⟨entry, member, claimed⟩ := claims
  obtain ⟨⟨owner, first⟩, found⟩ := Option.isSome_iff_exists.mp
    (List.find?_isSome (p := fun pair : String × Entry => pair.2.slots.contains slot).mpr
      ⟨(key, entry), member, List.contains_iff_mem.mpr claimed⟩)
  exact ⟨owner, first, found⟩

/-- The overlaps of a menu are the slots that some item claims behind the first that does. One notice is left for each
such item, also where there are three. -/
theorem mem_overlaps_iff :
    (slot, owner, claimant) ∈ menu.overlaps ↔
      menu.Owns owner slot ∧ owner ≠ claimant ∧ menu.Claims claimant slot := by
  have claimed {slot : Int} {key : String} :
      (slot, key) ∈ (menu.items.flatMap fun pair => pair.2.slots.map fun slot => (slot, pair.1)) ↔
        menu.Claims key slot := by
    simp only [Claims, List.mem_flatMap, List.mem_map, Prod.mk.injEq, Prod.exists]
    constructor
    · rintro ⟨_, entry, member, _, isClaimed, rfl, rfl⟩
      exact ⟨entry, member, isClaimed⟩
    · rintro ⟨entry, member, isClaimed⟩
      exact ⟨key, entry, member, slot, isClaimed, rfl, rfl⟩
  unfold overlaps
  rw [List.mem_filterMap]
  constructor
  · rintro ⟨⟨place, key⟩, claim, noted⟩
    dsimp only at noted
    rw [find?_claims] at noted
    cases found : menu.items.find? fun pair => pair.2.slots.contains place with
    | none =>
      rw [found] at noted
      cases noted
    | some first =>
      rw [found, Option.map_some] at noted
      dsimp only at noted
      split at noted
      · cases noted
      · rename_i apart
        cases noted
        exact ⟨⟨first.2, found⟩, apart, claimed.mp claim⟩
  · rintro ⟨⟨entry, found⟩, apart, claim⟩
    refine ⟨(slot, claimant), claimed.mpr claim, ?_⟩
    dsimp only
    rw [find?_claims, found, Option.map_some]
    exact if_neg apart

/-- A click on a slot that a page item stands in is for the first that does. Page items are asked before any other
item. -/
theorem HasPageItem.itemAtSlot (stands : menu.HasPageItem page slot) :
    ∃ item ∈ menu.pageItems page, item.2.1 = slot ∧ menu.itemAtSlot slot page = some (item.1, item.2.2) := by
  obtain ⟨item, member, isSlot⟩ := stands
  obtain ⟨first, found⟩ := Option.isSome_iff_exists.mp
    (List.find?_isSome (p := fun item : String × Int × Entry => item.2.1 == slot).mpr
      ⟨item, member, beq_iff_eq.mpr isSlot⟩)
  have there := List.find?_some found
  refine ⟨first, List.mem_of_find?_eq_some found, beq_iff_eq.mp there, ?_⟩
  unfold Menu.itemAtSlot
  rw [found]

/-- A click on a slot in which no page item stands is for the owner of the slot, if it has one. -/
theorem itemAtSlot_of_not_hasPageItem (free : ¬menu.HasPageItem page slot) :
    menu.itemAtSlot slot page = menu.items.find? fun pair => pair.2.slots.contains slot := by
  have absent : ((menu.pageItems page).find? fun item => item.2.1 == slot) = none := by
    rw [List.find?_eq_none]
    exact fun item member isSlot => free ⟨item, member, beq_iff_eq.mp isSlot⟩
  unfold itemAtSlot
  rw [absent]

/-- If one item alone claims a slot, and page items do not compete for it, whatever is placed there is what a click on
the slot is for. There is nothing else that could be placed in the slot or found there. -/
theorem itemAtSlot_of_uncontested (alone : ∀ key other, menu.Claims key slot → menu.Claims other slot → key = other)
    (once : (OrderedMap.keys menu.items).Nodup) (free : ¬menu.Contested page slot) {entry : Entry} {slots : List Int}
    (placed : (key, entry, slots) ∈ menu.placements page) (claimed : slot ∈ slots) :
    menu.itemAtSlot slot page = some (key, entry) := by
  obtain ⟨apart, unclaimed⟩ := not_or.mp free
  rcases mem_placements.mp placed with ⟨member, rfl⟩ | ⟨_, onPage, rfl⟩
  · have claims : menu.Claims key slot := ⟨entry, member, claimed⟩
    rw [itemAtSlot_of_not_hasPageItem fun stands => unclaimed ⟨stands, key, claims⟩]
    obtain ⟨owner, owning, found⟩ := claims.exists_owns
    have owned := Owns.claims ⟨owning, found⟩
    have same := OrderedMap.get?_of_mem once (List.mem_of_find?_eq_some found)
    rw [alone owner key owned claims, OrderedMap.get?_of_mem once member] at same
    obtain rfl : entry = owning := Option.some.inj same
    rw [found, alone owner key owned claims]
  · obtain rfl := List.mem_singleton.mp claimed
    have found : ((menu.pageItems page).find? fun other => other.2.1 == slot) = some (key, slot, entry) := by
      refine find?_of_pairwise ((Classical.not_not.mp apart).imp fun different isSlot => ?_) onPage (beq_self_eq_true _)
      exact beq_eq_false_iff_ne.mpr (different (beq_iff_eq.mp isSlot))
    unfold itemAtSlot
    rw [found]

end Menu

namespace MenuDocument

/-- The items that a document is loaded with are under different keys. A document has each key once, and an item that
is no mapping is left out. -/
theorem nodup_of_drawnOf [Machine] {document defaultSize : Value} {id : String} {drawn : Menu}
    (isDrawn : drawnOf document id defaultSize = .ok drawn) : (OrderedMap.keys drawn.items).Nodup := by
  unfold drawnOf at isDrawn
  simp only [bind_eq_ok_iff, pure_eq_ok_iff] at isDrawn
  obtain ⟨_, -, _, -, _, -, _, -, _, -, items, -, rfl⟩ := isDrawn
  exact OrderedMap.nodup_putAll List.nodup_nil

/-- What is read behind the notices changes no item. That is the page items, the policy for refreshing and the like. -/
theorem items_of_completed [Machine] {document : Value} {drawn menu : Menu}
    (isMenu : completed document drawn = .ok menu) :
    menu.items = drawn.items := by
  unfold completed at isMenu
  simp only [bind_eq_ok_iff, pure_eq_ok_iff] at isMenu
  obtain ⟨_, -, _, -, _, -, _, -, rfl⟩ := isMenu
  rfl

/-- Whatever document a menu is loaded from, the items are under different keys, and the notices that are left are
those of the overlaps. What was noted before stays in front of them. -/
theorem notices_of_ofDocument [Machine] {document defaultSize : Value} {id : String} {notices after : List Notice}
    {menu : Menu}
    (loaded : (Menu.ofDocument document id defaultSize).run.run notices = (.ok menu, after)) :
    (OrderedMap.keys menu.items).Nodup ∧
      after = notices ++
        menu.overlaps.map fun overlap => .slotClaimedTwice id overlap.1 overlap.2.1 overlap.2.2 := by
  unfold Menu.ofDocument at loaded
  dsimp only at loaded
  simp only [run_bind_eq_ok_iff, run_ofExcept_eq_ok_iff] at loaded
  obtain ⟨opened, _, ⟨-, rfl⟩, drawn, _, ⟨isDrawn, rfl⟩, _, between, noted, isMenu, rfl⟩ := loaded
  obtain ⟨-, rfl⟩ := Prod.mk.inj ((run_noteOverlaps id drawn.overlaps _).symm.trans noted)
  have isDrawn : drawnOf opened id defaultSize = .ok drawn := isDrawn
  have isMenu : completed opened drawn = .ok menu := isMenu
  have items := items_of_completed isMenu
  have overlaps : menu.overlaps = drawn.overlaps := by rw [Menu.overlaps, Menu.overlaps, items]
  exact ⟨items ▸ nodup_of_drawnOf isDrawn, by rw [overlaps]⟩

end MenuDocument

/-- The notices that a document is loaded with are those of the slots that an item claims behind the one that owns
them. Of each of these slots a notice is right on the pages that have no page item there, and on the others the click
is for the page item. Whatever is drawn in a slot without a notice is what a click there is for, unless page items
compete for the slot.

Proof: the notices are made of the slots one after another, and `mem_overlaps_iff` says of which: the first item of
the document that claims a slot owns it, and each later one is told of. A click asks the page items first and then the
owner, which is where the two can differ. -/
theorem Menu.overlap_notices_exact [Machine] {document defaultSize : Value} {id : String} {notices after : List Notice}
    {menu : Menu} (loaded : (Menu.ofDocument document id defaultSize).run.run notices = (.ok menu, after)) :
    ∃ noted, after = notices ++ noted ∧
      (∀ notice, notice ∈ noted ↔ ∃ slot owner claimant, notice = .slotClaimedTwice id slot owner claimant ∧
        menu.Owns owner slot ∧ owner ≠ claimant ∧ menu.Claims claimant slot) ∧
      (∀ slot owner claimant, .slotClaimedTwice id slot owner claimant ∈ noted → ∀ page, ¬menu.HasPageItem page slot →
        ∃ entry, menu.itemAtSlot slot page = some (owner, entry)) ∧
      (∀ page slot, menu.HasPageItem page slot →
        ∃ item ∈ menu.pageItems page, item.2.1 = slot ∧ menu.itemAtSlot slot page = some (item.1, item.2.2)) ∧
      ∀ (classes : Classes) (actor : Actor) (view : Option View) (p : Placeholders) (wanted : Option (List Int))
        (grid : Grid) (before later : Ledger),
        (menu.layout classes actor view p wanted).run.run before = (.ok grid, later) →
        ∀ slot item, grid.get? slot = some item →
          (∀ owner claimant, .slotClaimedTwice id slot owner claimant ∉ noted) →
          ¬menu.Contested ((view.map (·.page)).getD 0) slot →
          ∃ base asked entry, (p.build classes actor menu view).run.run before = (.ok base, asked) ∧
            menu.itemAtSlot slot ((view.map (·.page)).getD 0) = some (item.key, entry) ∧
            entry.ShowsAs classes actor view base item := by
  obtain ⟨once, rfl⟩ := notices_of_ofDocument loaded
  have noted {slot : Int} {owner claimant : String} :
      Notice.slotClaimedTwice id slot owner claimant ∈
          menu.overlaps.map (fun overlap => .slotClaimedTwice id overlap.1 overlap.2.1 overlap.2.2) ↔
        menu.Owns owner slot ∧ owner ≠ claimant ∧ menu.Claims claimant slot := by
    rw [← mem_overlaps_iff, List.mem_map]
    constructor
    · rintro ⟨overlap, member, same⟩
      cases same
      exact member
    · exact fun member => ⟨_, member, rfl⟩
  refine ⟨_, rfl, fun notice => ⟨fun member => ?_, ?_⟩, fun slot owner claimant member page free => ?_,
    fun page slot stands => stands.itemAtSlot, ?_⟩
  · obtain ⟨overlap, isOverlap, rfl⟩ := List.mem_map.mp member
    exact ⟨_, _, _, rfl, mem_overlaps_iff.mp isOverlap⟩
  · rintro ⟨slot, owner, claimant, rfl, claimed⟩
    exact noted.mpr claimed
  · obtain ⟨entry, found⟩ := (noted.mp member).1
    exact ⟨entry, by rw [itemAtSlot_of_not_hasPageItem free, found]⟩
  · intro classes actor view p wanted grid before later laid slot item there unnoted free
    obtain ⟨base, asked, entry, slots, built, placed, claimed, shows⟩ := Menu.shown_of_layout laid there
    refine ⟨base, asked, entry, built, itemAtSlot_of_uncontested (fun key other claims also => ?_) once free placed claimed,
      shows⟩
    -- Without a notice each claimant is the owner.
    obtain ⟨owner, owns⟩ := claims.exists_owns
    have isOwner {claimant : String} (claims : menu.Claims claimant slot) : owner = claimant := by
      refine Classical.byContradiction fun apart => unnoted owner claimant (noted.mpr ⟨owns, apart, claims⟩)
    rw [← isOwner claims, isOwner also]

/-- An item of a document: a material, its slots, and when it is visible. -/
def plainItem (material slots visible : String) : Value :=
  .map [(.text "material", .text material), (.text "slot", .text slots), (.text "visible-if", .text visible)]

/-- A document with two items, without pages. -/
def sharedSlot : Value :=
  .map [(.text "items", .map [(.text "a", plainItem "dirt" "4" ""), (.text "b", plainItem "stone" "3-5" "")])]

end

/-- Of two items in slot four a notice is left that names the slot and both items, and a click there is for the first
of them. -/
theorem Menu.overlap_notices_of_sharedSlot :
    ∃ menu, (Menu.ofDocument sharedSlot "shop" (.int 54)).run.run [] =
        (.ok menu, [.slotClaimedTwice "shop" 4 "a" "b"]) ∧
      ∃ entry, menu.itemAtSlot 4 0 = some ("a", entry) := by
  have noPage : ((Menu.ofDocument sharedSlot "shop" (.int 54)).run.run []).1.toOption.map
      (fun menu => (menu.pageItems 0).length) = some 0 := by decide +kernel
  have notices : ((Menu.ofDocument sharedSlot "shop" (.int 54)).run.run []).2 =
      [.slotClaimedTwice "shop" 4 "a" "b"] := by decide +kernel
  rcases loaded : (Menu.ofDocument sharedSlot "shop" (.int 54)).run.run [] with ⟨cause | menu, after⟩
  · rw [loaded] at noPage
    cases noPage
  · rw [loaded] at noPage notices
    obtain rfl : after = _ := notices
    obtain ⟨noted, same, -, right, -⟩ := Menu.overlap_notices_exact loaded
    have isNoted : Notice.slotClaimedTwice "shop" 4 "a" "b" ∈ noted := by
      rw [← List.nil_append noted, ← same]
      exact List.mem_singleton_self _
    refine ⟨menu, rfl, right 4 "a" "b" isNoted 0 ?_⟩
    rintro ⟨item, member, -⟩
    rw [List.length_eq_zero_iff.mp (Option.some.inj noPage)] at member
    cases member

section

/-- A document with some items and one page item, all in the first slot. -/
def crowdedSlot (items : List String) (visible : String) : Value :=
  .map [(.text "items", .map (items.map fun key => (.text key, plainItem "dirt" "0" ""))),
    (.text "pagination", .map [(.text "enabled", .bool true), (.text "slots", .int 0),
      (.text "items", .list [plainItem "gold" "" visible])])]

end

/-- Two items and a page item share a slot: the notice says that clicks go to the first item, but they go to the page
item. Behind one item alone nothing is noted of a page item that is not visible: the item is drawn, and a click is for
the page item. -/
theorem Menu.overlap_notices_miss_pages :
    (∃ menu, (Menu.ofDocument (crowdedSlot ["a", "b"] "") "shop" (.int 54)).run.run [] =
        (.ok menu, [.slotClaimedTwice "shop" 0 "a" "b"]) ∧
      (menu.itemAtSlot 0 0).map (·.1) = some "page:0") ∧
    ∃ menu grid item after, (Menu.ofDocument (crowdedSlot ["door"] "false") "shop" (.int 54)).run.run [] =
        (.ok menu, []) ∧
      (menu.layout {} { id := .text "ann", name := .text "Ann" } none {} none).run.run {} = (.ok grid, after) ∧
      grid.get? 0 = some item ∧ item.key = "door" ∧ (menu.itemAtSlot 0 0).map (·.1) = some "page:0" := by
  constructor
  · have clicked : ((Menu.ofDocument (crowdedSlot ["a", "b"] "") "shop" (.int 54)).run.run []).1.toOption.bind
        (fun menu => (menu.itemAtSlot 0 0).map (·.1)) = some "page:0" := by decide +kernel
    have notices : ((Menu.ofDocument (crowdedSlot ["a", "b"] "") "shop" (.int 54)).run.run []).2 =
        [.slotClaimedTwice "shop" 0 "a" "b"] := by decide +kernel
    rcases loaded : (Menu.ofDocument (crowdedSlot ["a", "b"] "") "shop" (.int 54)).run.run [] with ⟨cause | menu, after⟩
    · rw [loaded] at clicked
      cases clicked
    · rw [loaded] at clicked notices
      obtain rfl : after = _ := notices
      exact ⟨menu, rfl, clicked⟩
  · have clicked : ((Menu.ofDocument (crowdedSlot ["door"] "false") "shop" (.int 54)).run.run []).1.toOption.bind
        (fun menu => (menu.itemAtSlot 0 0).map (·.1)) = some "page:0" := by decide +kernel
    have drawn : ((Menu.ofDocument (crowdedSlot ["door"] "false") "shop" (.int 54)).run.run []).1.toOption.bind
        (fun menu => ((menu.layout {} { id := .text "ann", name := .text "Ann" } none {} none).run.run
          {}).1.toOption.bind fun grid => (grid.get? 0).map (·.key)) = some "door" := by decide +kernel
    have notices : ((Menu.ofDocument (crowdedSlot ["door"] "false") "shop" (.int 54)).run.run []).2 = [] := by
      decide +kernel
    rcases loaded : (Menu.ofDocument (crowdedSlot ["door"] "false") "shop" (.int 54)).run.run [] with
      ⟨cause | menu, after⟩
    · rw [loaded] at clicked
      cases clicked
    · rw [loaded] at clicked notices drawn
      obtain rfl : after = [] := notices
      have drawn : ((menu.layout {} { id := .text "ann", name := .text "Ann" } none {} none).run.run
          {}).1.toOption.bind (fun grid => (grid.get? 0).map (·.key)) = some "door" := drawn
      rcases laid : (menu.layout {} { id := .text "ann", name := .text "Ann" } none {} none).run.run {} with
        ⟨cause | grid, after⟩
      · rw [laid] at drawn
        cases drawn
      · rw [laid] at drawn
        obtain ⟨item, there, isDoor⟩ := Option.map_eq_some_iff.mp drawn
        exact ⟨menu, grid, item, after, rfl, laid, there, isDoor, clicked⟩

end ChestMenu
