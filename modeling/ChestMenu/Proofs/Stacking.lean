import ChestMenu.Proofs.Claimant
import ChestMenu.Proofs.Loaded

/-!
# What lies on top

The items of a menu are stacked: those with a lower priority below, equal ones in the order of the menu, and the items
of the page above all others in their own order. A slot shows the item on top of those that claim it and are visible,
and nothing if there is none.

The order is one of places, not of keys or entries: the same entry may stand at two places, and an item may claim a
slot twice. A layout goes through the places from below and lets each cover what is there, so what it leaves in a slot
is found by going through them from above.
-/
namespace ChestMenu

open ChestMenu.Number

section

/-- Where an item of a menu stands: by its number among the items, or among the page items. -/
inductive Menu.Place where
  | item (index : Nat)
  | pageItem (index : Nat)

/-- What claims a slot on a page: an item that has the slot, under its key, and the page item that falls on the slot,
under its number among all page items. -/
inductive Menu.ClaimsAt (menu : Menu) (page : Nat) (slot : Int) : Menu.Place → String → Entry → Prop
  | item {index : Nat} {key : String} {entry : Entry} (stands : menu.items[index]? = some (key, entry))
      (claimed : slot ∈ entry.slots) : ClaimsAt menu page slot (.item index) key entry
  | pageItem {pages : Pagination} {number : Nat} {entry : Entry} (paginated : menu.pagination = some pages)
      (isSlot : pages.slots[number]? = some slot)
      (stands : pages.items[page * pages.slotsPerPage + number]? = some entry) :
      ClaimsAt menu page slot (.pageItem (page * pages.slotsPerPage + number))
        ("page:" ++ integerText (page * pages.slotsPerPage + number : Nat)) entry

/-- One place lies below another. -/
def Menu.Below (menu : Menu) : Menu.Place → Menu.Place → Prop
  | .item i, .item j => ∃ lower upper, menu.items[i]? = some lower ∧ menu.items[j]? = some upper ∧
      (lower.2.priority < upper.2.priority ∨ lower.2.priority = upper.2.priority ∧ i < j)
  | .item _, .pageItem _ => True
  | .pageItem _, .item _ => False
  | .pageItem i, .pageItem j => i < j

/-- Of two places not each lies below the other. So the topmost of several is unique. -/
theorem Menu.Below.asymm {menu : Menu} {a b : Menu.Place} (below : menu.Below a b) : ¬menu.Below b a := by
  intro above
  cases a with
  | item i =>
    cases b with
    | item j =>
      obtain ⟨lower, upper, isLower, isUpper, order⟩ := below
      obtain ⟨upper', lower', isUpper', isLower', order'⟩ := above
      cases isLower.symm.trans isLower'
      cases isUpper.symm.trans isUpper'
      omega
    | pageItem j => exact above
  | pageItem i =>
    cases b with
    | item j => exact below
    | pageItem j => exact absurd above (Nat.lt_asymm below)

/-- An item in the stack: where it stands, its key, its entry and the slots that it claims. -/
abbrev Menu.Stacked := Menu.Place × String × Entry × List Int

namespace Menu

variable {menu : Menu} {page : Nat} {slot : Int}

/-- The items in the order in which they are placed, each with its number in the menu. -/
def stackedItems (menu : Menu) : List Stacked :=
  (menu.items.zipIdx.mergeSort (List.zipIdxLE fun (_, a) (_, b) => a.priority ≤ b.priority)).map
    fun ((key, entry), index) => (.item index, key, entry, entry.slots)

/-- The items of a page in their order, each with its number among all page items. -/
def stackedPage (menu : Menu) (page : Nat) : List Stacked :=
  match menu.pagination with
  | none => []
  | some pages => (pages.itemsOnPage page).mapIdx fun number (slot, entry) =>
      (.pageItem (page * pages.slotsPerPage + number),
        "page:" ++ integerText (page * pages.slotsPerPage + number : Nat), entry, [slot])

/-- All items on a page, the lowest first. -/
def stack (menu : Menu) (page : Nat) : List Stacked :=
  menu.stackedItems ++ menu.stackedPage page

/-- A layout places the items in the order of the stack. The stack says in addition in which place each of them
stands. -/
theorem map_stack (menu : Menu) (page : Nat) : (menu.stack page).map (·.2) = menu.placements page := by
  have items : menu.stackedItems.map (·.2) =
      (menu.items.mergeSort fun a b => a.2.priority ≤ b.2.priority).map
        fun item => (item.1, item.2, item.2.slots) := by
    rw [← List.mergeSort_zipIdx, stackedItems, List.map_map, List.map_map]
    rfl
  have onPage : (menu.stackedPage page).map (·.2) =
      (menu.pageItems page).map fun item => (item.1, item.2.2, [item.2.1]) := by
    unfold stackedPage pageItems
    cases menu.pagination with
    | none => rfl
    | some pages =>
      apply List.ext_getElem?
      intro number
      simp only [Pagination.keyedItemsOnPage, List.getElem?_map, List.getElem?_mapIdx, Option.map_map]
      congr 1
  rw [stack, List.map_append, items, onPage]
  rfl

/-- On a page stand the page items from the first of the page on, as far as there are slots. The first of a page
stands behind all items for which the pages before have room. -/
theorem itemsOnPage_natCast (pages : Pagination) (page : Nat) :
    pages.itemsOnPage page =
      pages.slots.zip ((pages.items.drop (page * pages.slotsPerPage)).take pages.slotsPerPage) := by
  unfold Pagination.itemsOnPage
  split
  · rename_i empty
    rw [List.isEmpty_iff.mp empty, List.zip_nil_left]
  · rw [← slice_natCast, Int.natCast_mul]

/-- Each slot has the page item with its number, counted from the first of the page. -/
theorem getElem?_itemsOnPage {pages : Pagination} {number : Nat} {entry : Entry} :
    (pages.itemsOnPage page)[number]? = some (slot, entry) ↔
      pages.slots[number]? = some slot ∧ pages.items[page * pages.slotsPerPage + number]? = some entry := by
  rw [itemsOnPage_natCast, List.getElem?_zip_eq_some]
  refine and_congr_right fun isSlot => ?_
  have room : number < pages.slotsPerPage := (List.getElem?_eq_some_iff.mp isSlot).1
  rw [List.getElem?_take_of_lt room, List.getElem?_drop]

/-- Exactly what claims a slot is in the stack with the slot. There are items of the menu, which claim slots
themselves, and items of the page, each of which claims the slot that it was given. -/
theorem mem_stack {place : Place} {key : String} {entry : Entry} :
    (∃ slots, (place, key, entry, slots) ∈ menu.stack page ∧ slot ∈ slots) ↔
      menu.ClaimsAt page slot place key entry := by
  unfold stack stackedItems stackedPage
  constructor
  · rintro ⟨slots, member, claimed⟩
    rcases List.mem_append.mp member with isItem | isPageItem
    · obtain ⟨⟨pair, index⟩, sorted, same⟩ := List.mem_map.mp isItem
      have stands := List.mem_zipIdx_iff_getElem?.mp (List.mem_mergeSort.mp sorted)
      cases same
      exact .item stands claimed
    · cases paginated : menu.pagination with
      | none => simp [paginated] at isPageItem
      | some pages =>
        rw [paginated] at isPageItem
        obtain ⟨number, inside, same⟩ := List.mem_mapIdx.mp isPageItem
        rcases isOnPage : (pages.itemsOnPage page)[number] with ⟨pageSlot, pageEntry⟩
        rw [isOnPage] at same
        cases same
        cases List.mem_singleton.mp claimed
        obtain ⟨isSlot, stands⟩ := getElem?_itemsOnPage.mp (List.getElem?_eq_some_iff.mpr ⟨inside, isOnPage⟩)
        exact .pageItem paginated isSlot stands
  · rintro (⟨stands, claimed⟩ | ⟨paginated, isSlot, stands⟩)
    · refine ⟨entry.slots, List.mem_append_left _ ?_, claimed⟩
      exact List.mem_map.mpr
        ⟨((key, entry), _), List.mem_mergeSort.mpr (List.mem_zipIdx_iff_getElem?.mpr stands), rfl⟩
    · refine ⟨[slot], List.mem_append_right _ ?_, List.mem_singleton_self slot⟩
      obtain ⟨inside, isOnPage⟩ := List.getElem?_eq_some_iff.mp (getElem?_itemsOnPage.mpr ⟨isSlot, stands⟩)
      rw [paginated]
      exact List.mem_mapIdx.mpr ⟨_, inside, by rw [isOnPage]⟩

/-- In the stack what comes earlier lies below what comes later. The items of the menu are sorted by their priorities
in a stable way, and the items of the page follow all of them. -/
theorem pairwise_stack (menu : Menu) (page : Nat) :
    (menu.stack page).Pairwise fun a b => menu.Below a.1 b.1 := by
  refine List.pairwise_append.mpr ⟨?_, ?_, ?_⟩
  · -- The sort puts no higher priority first and breaks ties by numbers, of which no two are the same.
    let le : String × Entry → String × Entry → Bool := fun (_, a) (_, b) => a.priority ≤ b.priority
    have trans (a b c : String × Entry) (first : le a b = true) (second : le b c = true) : le a c = true := by
      simp only [le, decide_eq_true_eq] at first second ⊢
      omega
    have total (a b : String × Entry) : (le a b || le b a) = true := by
      simp only [le, Bool.or_eq_true, decide_eq_true_eq]
      omega
    have sorted := List.pairwise_mergeSort (List.zipIdxLE_trans trans) (List.zipIdxLE_total total) menu.items.zipIdx
    have numbers : (menu.items.zipIdx.mergeSort (List.zipIdxLE le)).Pairwise fun a b => a.2 ≠ b.2 := by
      refine List.pairwise_map.mp (List.Nodup.perm ?_ ((List.mergeSort_perm _ _).map Prod.snd).symm)
      rw [List.zipIdx_map_snd]
      exact List.nodup_range'
    refine List.pairwise_map.mpr ((sorted.and numbers).imp_of_mem ?_)
    rintro ⟨lower, i⟩ ⟨upper, j⟩ isLower isUpper ⟨ordered, different⟩
    refine ⟨lower, upper, List.mem_zipIdx_iff_getElem?.mp (List.mem_mergeSort.mp isLower),
      List.mem_zipIdx_iff_getElem?.mp (List.mem_mergeSort.mp isUpper), ?_⟩
    simp only [List.zipIdxLE, le, decide_eq_true_eq] at ordered
    dsimp only at different
    split at ordered
    · split at ordered
      · rw [decide_eq_true_eq] at ordered
        omega
      · omega
    · cases ordered
  · unfold stackedPage
    cases menu.pagination with
    | none => exact .nil
    | some pages =>
      rw [List.pairwise_iff_getElem]
      intro i j first second less
      simp only [List.getElem_mapIdx]
      exact Nat.add_lt_add_left less _
  · intro lower isItem upper isPageItem
    obtain ⟨_, _, rfl⟩ := List.mem_map.mp isItem
    unfold stackedPage at isPageItem
    split at isPageItem
    · cases isPageItem
    · obtain ⟨_, _, rfl⟩ := List.mem_mapIdx.mp isPageItem
      trivial

end Menu

/-- In a list whose later members stand below the earlier ones, what is found first is given by the member that gives
something and has none above it that does. -/
theorem findSome?_of_descending {α β γ : Type} (stand : α → γ) {Below : γ → γ → Prop}
    (asymm : ∀ a b, Below a b → ¬Below b a) {f : α → Option β} {xs : List α} {b : β}
    (descending : xs.Pairwise fun upper lower => Below (stand lower) (stand upper)) :
    xs.findSome? f = some b ↔ ∃ a ∈ xs, f a = some b ∧
      ∀ other ∈ xs, (f other).isSome = true → stand other = stand a ∨ Below (stand other) (stand a) := by
  induction xs with
  | nil => simp
  | cons first rest ih =>
    obtain ⟨covered, descending⟩ := List.pairwise_cons.mp descending
    cases given : f first with
    | none =>
      rw [List.findSome?_cons_of_isNone (by rw [given]; rfl), ih descending]
      constructor
      · rintro ⟨a, member, gives, highest⟩
        refine ⟨a, List.mem_cons_of_mem _ member, gives, fun other there isGiven => ?_⟩
        rcases List.mem_cons.mp there with rfl | later
        · simp [given] at isGiven
        · exact highest other later isGiven
      · rintro ⟨a, member, gives, highest⟩
        rcases List.mem_cons.mp member with rfl | later
        · simp [given] at gives
        · exact ⟨a, later, gives, fun other there => highest other (List.mem_cons_of_mem _ there)⟩
    | some found =>
      rw [List.findSome?_cons_of_isSome (by rw [given]; rfl), given]
      constructor
      · intro same
        refine ⟨first, List.mem_cons_self, by rw [given, same], fun other there _ => ?_⟩
        exact (List.mem_cons.mp there).imp (congrArg stand) (covered other)
      · rintro ⟨a, member, gives, highest⟩
        rcases List.mem_cons.mp member with rfl | later
        · rw [← given, gives]
        · have below := covered a later
          rcases highest first List.mem_cons_self (by rw [given]; rfl) with same | above
          · rw [same] at below
            exact absurd below (asymm _ _ below)
          · exact absurd above (asymm _ _ below)

/-- What is made of a result is there if the result is. A failure stays the same failure. -/
theorem map_eq_ok_iff {α β : Type} {x : Except Failure α} {f : α → β} {b : β} :
    x.map f = .ok b ↔ ∃ a, x = .ok a ∧ f a = b := by
  cases x <;> simp [Except.map]

section

variable {menu : Menu} {look : String → Entry → Except Failure (Option RenderedItem)} {wanted : Option (List Int)}
  {slot : Int}

/-- What an item gives to a slot, if it is known what it shows. -/
def Menu.given (look : String → Entry → Except Failure (Option RenderedItem)) (slot : Int) :
    String × Entry × List Int → Option RenderedItem
  | (key, entry, slots) => if slot ∈ slots then (look key entry).toOption.join else none

/-- A slot that is to be drawn gets what an item gives to it, and otherwise keeps what it has. An item gives nothing
to slots that it does not claim. -/
theorem Menu.get?_placeKnown {grid after : Grid} {placement : String × Entry × List Int}
    (placed : menu.placeKnown look wanted grid placement = .ok after) :
    after.get? slot =
      if menu.isTarget wanted slot then (given look slot placement).or (grid.get? slot) else grid.get? slot := by
  obtain ⟨key, entry, slots⟩ := placement
  unfold placeKnown at placed
  unfold given
  dsimp only at placed ⊢
  by_cases target : slot ∈ slots.filter (menu.isTarget wanted)
  · obtain ⟨claimed, isTarget⟩ := List.mem_filter.mp target
    have drawn : (slots.filter (menu.isTarget wanted)).isEmpty = false := by
      rw [List.isEmpty_eq_false_iff]
      exact List.ne_nil_of_mem target
    rw [drawn] at placed
    obtain ⟨shown, known, rfl⟩ := map_eq_ok_iff.mp placed
    rw [if_pos isTarget, if_pos claimed, known]
    cases shown with
    | none => rfl
    | some item => rw [Grid.get?_show, if_pos target]; rfl
  · have kept : after.get? slot = grid.get? slot := by
      split at placed
      · cases placed
        rfl
      · obtain ⟨shown, -, rfl⟩ := map_eq_ok_iff.mp placed
        cases shown with
        | none => rfl
        | some item => rw [Grid.get?_show, if_neg target]
    rw [kept]
    split
    · rename_i isTarget
      rw [if_neg fun claimed => target (List.mem_filter.mpr ⟨claimed, isTarget⟩), Option.none_or]
    · rfl

/-- After all items a slot that is to be drawn has what the last of them gives to it that gives something. The
induction is on the items, from the first that is placed to the last. -/
theorem Menu.get?_placeAll {placements : List (String × Entry × List Int)} {grid after : Grid}
    (placed : placements.foldlM (menu.placeKnown look wanted) grid = .ok after) :
    after.get? slot =
      if menu.isTarget wanted slot then (placements.reverse.findSome? (given look slot)).or (grid.get? slot)
      else grid.get? slot := by
  induction placements generalizing grid with
  | nil =>
    cases placed
    simp
  | cons placement placements ih =>
    rw [List.foldlM_cons] at placed
    obtain ⟨middle, one, others⟩ := ok_of_bind placed
    rw [ih others, get?_placeKnown one, List.reverse_cons, List.findSome?_append]
    split
    · rw [Option.or_assoc, List.findSome?_singleton]
    · rfl

/-- All items can be placed exactly if of each that has a slot to be drawn in it is known what it shows. Items without
such a slot are not asked. -/
theorem Menu.succeeds_placeAll {placements : List (String × Entry × List Int)} {grid : Grid} :
    Succeeds (placements.foldlM (menu.placeKnown look wanted) grid) ↔
      ∀ placement ∈ placements, (∃ slot ∈ placement.2.2, menu.isTarget wanted slot = true) →
        Succeeds (look placement.1 placement.2.1) := by
  induction placements generalizing grid with
  | nil => simp
  | cons placement placements ih =>
    obtain ⟨key, entry, slots⟩ := placement
    have one : Succeeds (menu.placeKnown look wanted grid (key, entry, slots)) ↔
        ((∃ slot ∈ slots, menu.isTarget wanted slot = true) → Succeeds (look key entry)) := by
      unfold placeKnown
      dsimp only
      split
      · rename_i nowhere
        refine iff_of_true (succeeds_ok _) fun ⟨slot, claimed, target⟩ => ?_
        have drawn := List.mem_filter.mpr ⟨claimed, target⟩
        rw [List.isEmpty_iff.mp nowhere] at drawn
        cases drawn
      · rename_i somewhere
        obtain ⟨slot, drawn⟩ := List.exists_mem_of_ne_nil _ (mt List.isEmpty_iff.mpr somewhere)
        rw [imp_iff_right ⟨slot, List.mem_filter.mp drawn⟩]
        simp only [Succeeds, map_eq_ok_iff]
        exact ⟨fun ⟨_, shown, known, _⟩ => ⟨shown, known⟩, fun ⟨shown, known⟩ => ⟨_, shown, known, rfl⟩⟩
    rw [List.foldlM_cons, succeeds_bind_and one fun _ _ => ih, List.forall_mem_cons]

/-- An item gives something to the slots that it claims, if it shows something. A hidden item gives nothing. -/
theorem Menu.given_eq_some_iff {key : String} {entry : Entry} {slots : List Int} {item : RenderedItem} :
    given look slot (key, entry, slots) = some item ↔ slot ∈ slots ∧ look key entry = .ok (some item) := by
  unfold given
  dsimp only
  rw [Option.ite_none_right_eq_some]
  refine and_congr_right fun _ => ?_
  rcases look key entry with cause | _ | shown <;> simp [Except.toOption]

variable {page : Nat} {grid : Grid}

/-- Of the whole stack each slot that is to be drawn gets what the topmost item gives to it. The topmost is the last
to be placed. -/
theorem Menu.get?_placeStack (placed : (menu.placements page).foldlM (menu.placeKnown look wanted) [] = .ok grid) :
    grid.get? slot = if menu.isTarget wanted slot then
      (menu.stack page).reverse.findSome? fun stacked => given look slot stacked.2 else none := by
  rw [get?_placeAll placed, ← map_stack, ← List.map_reverse, List.findSome?_map]
  split
  · exact Option.or_none
  · rfl

/-- A slot has something exactly if it is to be drawn and an item claims it that shows something. -/
theorem Menu.has_placeStack (placed : (menu.placements page).foldlM (menu.placeKnown look wanted) [] = .ok grid) :
    grid.has slot = true ↔ menu.isTarget wanted slot = true ∧
      ∃ place key entry item, menu.ClaimsAt page slot place key entry ∧ look key entry = .ok (some item) := by
  unfold OrderedMap.has
  rw [get?_placeStack placed]
  split
  · rename_i target
    rw [and_iff_right target, List.findSome?_isSome_iff]
    simp only [Option.isSome_iff_exists]
    constructor
    · rintro ⟨⟨place, key, entry, slots⟩, member, item, gives⟩
      obtain ⟨claimed, known⟩ := given_eq_some_iff.mp gives
      exact ⟨place, key, entry, item, mem_stack.mp ⟨slots, List.mem_reverse.mp member, claimed⟩, known⟩
    · rintro ⟨place, key, entry, item, claims, known⟩
      obtain ⟨slots, member, claimed⟩ := mem_stack.mpr claims
      exact ⟨_, List.mem_reverse.mpr member, item, given_eq_some_iff.mpr ⟨claimed, known⟩⟩
  · rename_i outside
    exact iff_of_false (by simp) fun both => outside both.1

/-- What a slot has is what the item shows that has none above it in the slot that shows something. It has to be a
slot that is to be drawn. -/
theorem Menu.topmost_of_placeStack (placed : (menu.placements page).foldlM (menu.placeKnown look wanted) [] = .ok grid)
    {item : RenderedItem} :
    grid.get? slot = some item ↔ menu.isTarget wanted slot = true ∧
      ∃ place key entry, menu.ClaimsAt page slot place key entry ∧ look key entry = .ok (some item) ∧
        ∀ other key covered shown, menu.ClaimsAt page slot other key covered → look key covered = .ok (some shown) →
          other = place ∨ menu.Below other place := by
  rw [get?_placeStack placed]
  split
  · rename_i target
    have descending := List.pairwise_reverse.mpr (menu.pairwise_stack page)
    have asymm (a b : Menu.Place) (below : menu.Below a b) : ¬menu.Below b a := below.asymm
    rw [and_iff_right target, findSome?_of_descending Prod.fst asymm descending]
    simp only [Option.isSome_iff_exists]
    constructor
    · rintro ⟨⟨place, key, entry, slots⟩, member, gives, highest⟩
      obtain ⟨claimed, known⟩ := given_eq_some_iff.mp gives
      refine ⟨place, key, entry, mem_stack.mp ⟨slots, List.mem_reverse.mp member, claimed⟩, known, ?_⟩
      intro other key covered shown claims isShown
      obtain ⟨others, there, isClaimed⟩ := mem_stack.mpr claims
      exact highest (other, key, covered, others) (List.mem_reverse.mpr there)
        ⟨shown, given_eq_some_iff.mpr ⟨isClaimed, isShown⟩⟩
    · rintro ⟨place, key, entry, claims, known, highest⟩
      obtain ⟨slots, member, claimed⟩ := mem_stack.mpr claims
      refine ⟨_, List.mem_reverse.mpr member, given_eq_some_iff.mpr ⟨claimed, known⟩, ?_⟩
      rintro ⟨other, key, covered, others⟩ there ⟨shown, gives⟩
      obtain ⟨isClaimed, isShown⟩ := given_eq_some_iff.mp gives
      exact highest other key covered shown (mem_stack.mp ⟨others, List.mem_reverse.mp there, isClaimed⟩) isShown
  · rename_i outside
    exact iff_of_false (by simp) fun both => outside both.1

end

section

variable {classes : Classes} {actor : Actor} {view : Option View} {base : Placeholder.Table} {entry : Entry}

/-- An item is visible to an actor, with its own tokens above those of the drawing. -/
def Entry.IsVisible [Machine] (classes : Classes) (actor : Actor) (view : Option View) (base : Placeholder.Table)
    (entry : Entry) : Prop :=
  ∃ table, answerOf (Placeholders.forItem classes base entry actor) = .ok table ∧
    answerOf (entry.isVisible classes actor view table) = .ok true

/-- What an item without a memory shows: nothing if it is hidden, and otherwise its texts with its tokens replaced. -/
theorem Entry.IsPure.answerOf_appearance [Machine] (pure : entry.IsPure) (key : String) :
    answerOf (entry.appearance classes actor view base key) =
      answerOf (Placeholders.forItem classes base entry actor) >>= fun table =>
        answerOf (entry.isVisible classes actor view table) >>= fun visible =>
          if visible then (entry.render key table).map some else .ok none := by
  have shown (table : Placeholder.Table) (visible : Bool) :
      answerOf (if visible then some <$> ExceptT.mk (Pure.pure (entry.render key table)) else Pure.pure none :
        ExceptT Failure Resolving (Option RenderedItem)) =
      if visible then (entry.render key table).map some else .ok none := by
    cases visible with
    | false => rfl
    | true => cases entry.render key table <;> rfl
  have steady (table : Placeholder.Table) (visible : Bool) :
      Steady classes (if visible then some <$> ExceptT.mk (Pure.pure (entry.render key table)) else Pure.pure none :
        ExceptT Failure Resolving (Option RenderedItem)) := by
    split
    · exact steady_bind (steady_result _) fun _ => steady_pure _
    · exact steady_pure _
  have unfolded : entry.appearance classes actor view base key =
      Placeholders.forItem classes base entry actor >>= fun table =>
        entry.isVisible classes actor view table >>= fun visible =>
          if visible then some <$> ExceptT.mk (Pure.pure (entry.render key table)) else Pure.pure none := rfl
  rw [unfolded, answerOf_bind (pure.steady_forItem base) fun table =>
    steady_bind (pure.steady_isVisible view table) (steady table)]
  congr 1
  funext table
  rw [answerOf_bind (pure.steady_isVisible view table) (steady table)]
  congr 1
  funext visible
  exact shown table visible

/-- An item without a memory that shows something is visible, and shows its texts under its key. This spells out the
texts that `answerOf_appearance` speaks of. -/
theorem Entry.IsPure.appearance_eq_some_iff [Machine] (pure : entry.IsPure) {key : String} {item : RenderedItem} :
    answerOf (entry.appearance classes actor view base key) = .ok (some item) ↔
      item.key = key ∧ ∃ table, answerOf (Placeholders.forItem classes base entry actor) = .ok table ∧
        answerOf (entry.isVisible classes actor view table) = .ok true ∧ entry.render item.key table = .ok item := by
  simp only [pure.answerOf_appearance, bind_eq_ok_iff]
  constructor
  · rintro ⟨table, tokens, visible, isVisible, shown⟩
    cases visible with
    | false => cases shown
    | true =>
      obtain ⟨drawn, rendered, same⟩ := map_eq_ok_iff.mp shown
      cases same
      have sameKey := Entry.key_of_render rendered
      exact ⟨sameKey, table, tokens, isVisible, by rw [sameKey, rendered]⟩
  · rintro ⟨rfl, table, tokens, isVisible, rendered⟩
    exact ⟨table, tokens, true, isVisible, map_eq_ok_iff.mpr ⟨item, rendered, rfl⟩⟩

/-- If it is known what an item without a memory shows, it shows something exactly if it is visible. The table for the
item, on which that depends, is there if what it shows is known. -/
theorem Entry.IsPure.isSome_iff_isVisible [Machine] (pure : entry.IsPure) {key : String} {shown : Option RenderedItem}
    (known : answerOf (entry.appearance classes actor view base key) = .ok shown) :
    shown.isSome = true ↔ entry.IsVisible classes actor view base := by
  rw [pure.answerOf_appearance] at known
  obtain ⟨table, tokens, known⟩ := ok_of_bind known
  obtain ⟨visible, isVisible, known⟩ := ok_of_bind known
  unfold IsVisible
  rw [tokens]
  cases visible with
  | false =>
    cases known
    refine iff_of_false (by simp) ?_
    rintro ⟨_, ⟨⟩, also⟩
    cases isVisible.symm.trans also
  | true =>
    obtain ⟨drawn, -, rfl⟩ := map_eq_ok_iff.mp known
    exact iff_of_true rfl ⟨table, rfl, isVisible⟩

end

section

variable {classes : Classes} {actor : Actor} {view : Option View} {p : Placeholders} {menu : Menu} {page : Nat}

/-- An item that claims a slot has no memory if none of the menu has. It is one of the items of the menu or one of its
page items. -/
theorem Menu.IsPure.of_claimsAt (pure : menu.IsPure) {slot : Int} {place : Menu.Place} {key : String} {entry : Entry}
    (claims : menu.ClaimsAt page slot place key entry) : entry.IsPure := by
  obtain ⟨slots, member, -⟩ := Menu.mem_stack.mpr claims
  have isPlaced : (key, entry, slots) ∈ menu.placements page := by
    rw [← Menu.map_stack]
    exact List.mem_map_of_mem member
  exact pure.placements isPlaced

/-- A layout of all slots or of some comes out exactly if the table for the drawing is there and each item that claims
a slot to be drawn can be asked. It has exactly the slots to be drawn that a visible item claims, and in each of them
what the item shows that has no other visible one above it. -/
theorem Menu.IsPure.layout_exact [Machine] (pure : menu.IsPure) (registered : p.IsPure)
    (onPage : (view.map (·.page)).getD 0 = page) {before : Ledger} (sound : before.accessors.Sound classes)
    (wanted : Option (List Int)) :
    (Succeeds ((menu.layout classes actor view p wanted).run.run before).1 ↔
      ∃ base, answerOf (p.build classes actor menu view) = .ok base ∧
        ∀ slot place key entry, menu.isTarget wanted slot = true → menu.ClaimsAt page slot place key entry →
          Succeeds (answerOf (entry.appearance classes actor view base key))) ∧
    ∀ grid, ((menu.layout classes actor view p wanted).run.run before).1 = .ok grid →
      ∃ base, answerOf (p.build classes actor menu view) = .ok base ∧ ∀ slot,
        (grid.has slot = true ↔ menu.isTarget wanted slot = true ∧
          ∃ place key entry, menu.ClaimsAt page slot place key entry ∧ entry.IsVisible classes actor view base) ∧
        ∀ item, grid.get? slot = some item ↔ menu.isTarget wanted slot = true ∧
          ∃ place entry table, menu.ClaimsAt page slot place item.key entry ∧
            answerOf (Placeholders.forItem classes base entry actor) = .ok table ∧
            answerOf (entry.isVisible classes actor view table) = .ok true ∧
            entry.render item.key table = .ok item ∧
            ∀ other key covered, menu.ClaimsAt page slot other key covered →
              covered.IsVisible classes actor view base → other = place ∨ menu.Below other place := by
  rw [(pure.steady_layout registered wanted before sound).1, pure.answerOf_layout registered, onPage]
  refine ⟨?_, fun grid laid => ?_⟩
  · rw [succeeds_bind]
    refine exists_congr fun base => and_congr_right fun _ => ?_
    rw [Menu.succeeds_placeAll, ← Menu.map_stack]
    constructor
    · intro asked slot place key entry target claims
      obtain ⟨slots, member, claimed⟩ := Menu.mem_stack.mpr claims
      exact asked (key, entry, slots) (List.mem_map_of_mem member) ⟨slot, claimed, target⟩
    · intro asked placement isPlaced target
      obtain ⟨⟨place, key, entry, slots⟩, member, rfl⟩ := List.mem_map.mp isPlaced
      obtain ⟨slot, claimed, isTarget⟩ := target
      exact asked slot place key entry isTarget (Menu.mem_stack.mp ⟨slots, member, claimed⟩)
  · obtain ⟨base, built, placed⟩ := ok_of_bind laid
    refine ⟨base, built, fun slot => ?_⟩
    -- Everything that claims a slot to be drawn was asked, so being visible is showing something.
    have shows {place : Menu.Place} {key : String} {entry : Entry} (target : menu.isTarget wanted slot = true)
        (claims : menu.ClaimsAt page slot place key entry) :
        (∃ item, answerOf (entry.appearance classes actor view base key) = .ok (some item)) ↔
          entry.IsVisible classes actor view base := by
      obtain ⟨slots, member, claimed⟩ := Menu.mem_stack.mpr claims
      have isPlaced : (key, entry, slots) ∈ menu.placements page := by
        rw [← Menu.map_stack]
        exact List.mem_map_of_mem member
      obtain ⟨shown, known⟩ := Menu.succeeds_placeAll.mp ⟨grid, placed⟩ _ isPlaced ⟨slot, claimed, target⟩
      rw [← (pure.of_claimsAt claims).isSome_iff_isVisible known, Option.isSome_iff_exists, known]
      simp
    refine ⟨?_, fun item => ?_⟩
    · rw [Menu.has_placeStack placed]
      refine and_congr_right fun target => ?_
      refine exists_congr fun place => exists_congr fun key => exists_congr fun entry => ?_
      rw [exists_and_left]
      exact and_congr_right fun claims => shows target claims
    · rw [Menu.topmost_of_placeStack placed]
      refine and_congr_right fun target => ?_
      constructor
      · rintro ⟨place, key, entry, claims, known, highest⟩
        obtain ⟨rfl, table, tokens, isVisible, rendered⟩ :=
          (pure.of_claimsAt claims).appearance_eq_some_iff.mp known
        refine ⟨place, entry, table, claims, tokens, isVisible, rendered, ?_⟩
        intro other key covered others visible
        obtain ⟨shown, isShown⟩ := (shows target others).mpr visible
        exact highest other key covered shown others isShown
      · rintro ⟨place, entry, table, claims, tokens, isVisible, rendered, highest⟩
        refine ⟨place, item.key, entry, claims,
          (pure.of_claimsAt claims).appearance_eq_some_iff.mpr ⟨rfl, table, tokens, isVisible, rendered⟩, ?_⟩
        intro other key covered shown others isShown
        exact highest other key covered others ((shows target others).mp ⟨shown, isShown⟩)

/-- Every slot shows the topmost of the items that claim it and are visible. The layout comes out exactly if the table
for the drawing is there and each item that claims a slot inside the menu can be asked. It has exactly the slots
inside the menu that a visible item claims, and in each of them what the item shows that has no other visible one
above it: under its key, with its own tokens above those of the drawing.

Proof: the layout is a fold over the items from the lowest to the highest. By induction on them, a slot has what the
last visible one among its claimants shows; and the last to be placed is the one above which there is no other. -/
theorem Menu.IsPure.layout_shows_topmost [Machine] (pure : menu.IsPure) (registered : p.IsPure)
    (onPage : (view.map (·.page)).getD 0 = page) {before : Ledger} (sound : before.accessors.Sound classes) :
    (Succeeds ((menu.layout classes actor view p none).run.run before).1 ↔
      ∃ base, answerOf (p.build classes actor menu view) = .ok base ∧
        ∀ slot place key entry, 0 ≤ slot ∧ slot < menu.size → menu.ClaimsAt page slot place key entry →
          Succeeds (answerOf (entry.appearance classes actor view base key))) ∧
    ∀ grid, ((menu.layout classes actor view p none).run.run before).1 = .ok grid →
      ∃ base, answerOf (p.build classes actor menu view) = .ok base ∧ ∀ slot,
        (grid.has slot = true ↔ (0 ≤ slot ∧ slot < menu.size) ∧
          ∃ place key entry, menu.ClaimsAt page slot place key entry ∧ entry.IsVisible classes actor view base) ∧
        ∀ item, grid.get? slot = some item ↔ (0 ≤ slot ∧ slot < menu.size) ∧
          ∃ place entry table, menu.ClaimsAt page slot place item.key entry ∧
            answerOf (Placeholders.forItem classes base entry actor) = .ok table ∧
            answerOf (entry.isVisible classes actor view table) = .ok true ∧
            entry.render item.key table = .ok item ∧
            ∀ other key covered, menu.ClaimsAt page slot other key covered →
              covered.IsVisible classes actor view base → other = place ∨ menu.Below other place := by
  have inside (slot : Int) : menu.isTarget none slot = true ↔ 0 ≤ slot ∧ slot < menu.size := by
    simp [Menu.isTarget]
  simpa only [inside] using pure.layout_exact registered onPage sound none

end

/-- A market: a veil in the first slot that nobody sees, and below it two stands of the same priority. The second slot
belongs to the later stand and to the page, of which there are two. -/
def marketMenu : Menu where
  id := "market"
  size := 9
  items := [
    ("veil", { template := { material := "WEB" }, slots := [0], priority := 9,
               predicate := some (.const (.bool false)) }),
    ("bread", { template := { material := "BREAD" }, slots := [0], priority := 5 }),
    ("fish", { template := { material := "FISH" }, slots := [0, 1], priority := 5 })]
  pagination := some {
    slots := [1]
    items := [{ template := { material := "APPLE" } }, { template := { material := "PEAR" } }] }

/-- An actor who has the second page of the market open. -/
def marketView : View := { menu := "market", page := 1, context := .null }

/-- In the menu of the market the veil is placed last of the items, though it is the first in the menu. Only the items
of the page come after it. -/
theorem placements_marketMenu :
    marketMenu.placements 1 =
      (marketMenu.items.drop 1 ++ marketMenu.items.take 1).map (fun (key, entry) => (key, entry, entry.slots)) ++
        (marketMenu.pageItems 1).map fun (key, slot, entry) => (key, entry, [slot]) := by
  have sorted : (marketMenu.items.mergeSort fun (_, a) (_, b) => a.priority ≤ b.priority) =
      marketMenu.items.drop 1 ++ marketMenu.items.take 1 := by
    simp [marketMenu, List.mergeSort, List.MergeSort.Internal.splitInTwo]
  rw [← sorted]
  rfl

end

/-- On the second page the fish covers the bread and the pear covers the fish. The veil lies above the fish, so it is
not visible. -/
theorem layout_marketMenu :
    let ann : Actor := { id := .text "ann", name := .text "Ann" }
    ∃ base grid fish pear,
      ((marketMenu.layout {} ann (some marketView) {} none).run.run {}).1 = .ok grid ∧
        grid.get? 0 = some fish ∧ fish.key = "fish" ∧ grid.get? 1 = some pear ∧ pear.key = "page:1" ∧
        ∀ veil, marketMenu.ClaimsAt 1 0 (.item 0) "veil" veil → ¬veil.IsVisible {} ann (some marketView) base := by
  intro ann
  have pure : marketMenu.IsPure := by
    constructor
    · simp only [marketMenu, List.forall_mem_cons]
      refine ⟨⟨by simp, ?_⟩, ⟨by simp, by simp⟩, ⟨by simp, by simp⟩, by simp⟩
      rintro resolver ⟨⟩
      rfl
    · rintro pages ⟨⟩ entry member
      constructor
      all_goals
        rcases List.mem_cons.mp member with rfl | last
        · simp
        · cases List.mem_singleton.mp last
          simp
  have registered : Placeholders.IsPure {} := ⟨by simp, by simp, by simp, by simp⟩
  obtain ⟨-, shown⟩ := @Menu.IsPure.layout_shows_topmost {} ann (some marketView) {} marketMenu 1 _ pure registered rfl {}
    sound_nil
  have drawn : ((marketMenu.layout {} ann (some marketView) {} none).run.run {}).1.toOption.map
      (fun grid => ((grid.get? 0).map (·.key), (grid.get? 1).map (·.key))) = some (some "fish", some "page:1") := by
    have order : marketMenu.placements (((some marketView).map (·.page)).getD 0) = _ := placements_marketMenu
    unfold Menu.layout
    rw [order]
    decide +kernel
  obtain ⟨grid, after, laid, keys⟩ := answered_of_map drawn
  simp only [Prod.mk.injEq, Option.map_eq_some_iff] at keys
  obtain ⟨⟨fish, there, isFish⟩, pear, beside, isPear⟩ := keys
  obtain ⟨base, -, each⟩ := shown grid (congrArg Prod.fst laid)
  refine ⟨base, grid, fish, pear, congrArg Prod.fst laid, there, isFish, beside, isPear, fun veil claims visible => ?_⟩
  obtain ⟨-, place, entry, table, claimed, -, -, -, highest⟩ := ((each 0).2 fish).mp there
  generalize fish.key = key at claimed isFish
  cases claimed with
  | item stands =>
    subst isFish
    have isStand : entry.priority = 5 := by
      have member := List.mem_of_getElem? stands
      simp only [marketMenu, List.mem_cons, Prod.mk.injEq, String.reduceEq, false_and, true_and, List.not_mem_nil,
        or_false, false_or] at member
      rw [member]
    rcases highest _ _ veil claims visible with same | ⟨lower, upper, isLower, isUpper, order⟩
    · cases same
      simp [marketMenu] at stands
    · cases isLower
      cases stands.symm.trans isUpper
      dsimp only at order
      omega
  | pageItem paginated isSlot =>
    cases paginated
    cases List.mem_singleton.mp (List.mem_of_getElem? isSlot)

end ChestMenu
