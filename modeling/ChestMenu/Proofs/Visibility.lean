import ChestMenu.Proofs.Claimant
import ChestMenu.Proofs.Dispatch

/-!
# Hidden items and clicks

Whether an item is visible is asked when a menu is drawn, and never on a click: a click is for the first item that
claims the slot, and an item that is hidden can be clicked where it would be.

What holds is a comparison with the drawing of the moment. In a menu that has no slot claimed twice, the item that a
click on a slot is for is visible if the drawing has something in the slot, and is then the item drawn; it is hidden
if the drawing leaves the slot empty. So no actions run unseen on slots that show an item.
-/
namespace ChestMenu

open Engine

section

variable [Machine]

/-- An item is hidden. When it was asked, with the tokens of the drawing below its own, it was not
visible. -/
def Entry.IsHidden (classes : Classes) (actor : Actor) (view : Option View) (base : Placeholder.Table)
    (entry : Entry) : Prop :=
  ∃ table before asked after,
    (Placeholders.forItem classes base entry actor).run.run before = (.ok table, asked) ∧
      (entry.isVisible classes actor view table).run.run asked = (.ok false, after)

omit [Machine] in
/-- The item that a click on a slot is for is placed in the slot. It is one of the items of the page, or else one of
the menu that claims the slot. -/
theorem Menu.placed_of_itemAtSlot {menu : Menu} {slot page : Int} {key : String} {entry : Entry}
    (clicked : menu.itemAtSlot slot page = some (key, entry)) :
    ∃ slots, (key, entry, slots) ∈ menu.placements page ∧ slot ∈ slots := by
  unfold itemAtSlot at clicked
  split at clicked
  · rename_i found
    cases clicked
    have member := List.mem_of_find?_eq_some found
    have isSlot := List.find?_some found
    rw [beq_iff_eq] at isSlot
    exact ⟨_, mem_placements.mpr (.inr ⟨_, member, rfl⟩), List.mem_singleton.mpr isSlot.symm⟩
  · have member := List.mem_of_find?_eq_some clicked
    have claims := List.find?_some clicked
    exact ⟨entry.slots, mem_placements.mpr (.inl ⟨member, rfl⟩), List.contains_iff_mem.mp claims⟩

section

variable {classes : Classes} {actor : Actor} {view : Option View} {base : Placeholder.Table}

/-- An item of which the layout is given nothing to draw is hidden. That is the only reason for it: an item that is
visible is drawn or stops the drawing. -/
theorem Entry.isHidden_of_appearance {entry : Entry} {key : String} {before after : Ledger}
    (shown : (entry.appearance classes actor view base key).run.run before = (.ok none, after)) :
    entry.IsHidden classes actor view base := by
  unfold appearance at shown
  obtain ⟨table, asked, tokens, shown⟩ := run_bind_eq_ok_iff.mp shown
  obtain ⟨visible, answered, isVisible, shown⟩ := run_bind_eq_ok_iff.mp shown
  cases visible with
  | false => exact ⟨table, before, asked, answered, tokens, isVisible⟩
  | true =>
    obtain ⟨drawn, last, rendered, same⟩ := run_bind_eq_ok_iff.mp shown
    cases same

variable {menu : Menu} {wanted : Option (List Int)} {slot : Int}

/-- If a slot is empty after an item was placed, it was empty before, and the item is hidden if it should have been
drawn there. A visible item would have filled the slot. -/
theorem Menu.empty_of_place {grid placed : Grid} {key : String} {entry : Entry} {slots : List Int}
    {before after : Ledger}
    (done : (menu.place classes actor view base wanted grid (key, entry, slots)).run.run before =
      (.ok placed, after)) (empty : placed.get? slot = none) :
    grid.get? slot = none ∧
      (slot ∈ slots → menu.isTarget wanted slot = true → entry.IsHidden classes actor view base) := by
  rw [Menu.place_eq] at done
  dsimp only at done
  split at done
  · rename_i nowhere
    cases done
    refine ⟨empty, fun claimed target => ?_⟩
    have drawable := List.mem_filter.mpr ⟨claimed, target⟩
    rw [List.isEmpty_iff.mp nowhere] at drawable
    cases drawable
  · obtain ⟨shown, asked, appears, same⟩ := run_bind_eq_ok_iff.mp done
    cases same
    cases shown with
    | none => exact ⟨empty, fun _ _ => Entry.isHidden_of_appearance appears⟩
    | some drawn =>
      rw [Grid.get?_show] at empty
      split at empty
      · cases empty
      · rename_i elsewhere
        exact ⟨empty, fun claimed target => absurd (List.mem_filter.mpr ⟨claimed, target⟩) elsewhere⟩

/-- If a slot is empty after all items were placed, it was empty before, and all items are hidden that should have
been drawn there. The induction is on the items, and each of them finds a slot empty that is empty in the end. -/
theorem Menu.empty_of_placeAll {placements : List (String × Entry × List Int)} {grid placed : Grid}
    {before after : Ledger}
    (done : (placements.foldlM (fun grid placement =>
      menu.place classes actor view base wanted grid placement) grid).run.run before =
        (.ok placed, after)) (empty : placed.get? slot = none) :
    grid.get? slot = none ∧
      (menu.isTarget wanted slot = true → ∀ key entry slots, (key, entry, slots) ∈ placements →
        slot ∈ slots → entry.IsHidden classes actor view base) := by
  induction placements generalizing grid before with
  | nil =>
    cases done
    exact ⟨empty, fun _ _ _ _ member => absurd member List.not_mem_nil⟩
  | cons placement placements ih =>
    rw [List.foldlM_cons] at done
    obtain ⟨middle, asked, one, others⟩ := run_bind_eq_ok_iff.mp done
    obtain ⟨emptyBefore, hiddenLater⟩ := ih others
    obtain ⟨emptyFirst, hiddenFirst⟩ := empty_of_place one emptyBefore
    refine ⟨emptyFirst, fun target key entry slots member claimed => ?_⟩
    rcases List.mem_cons.mp member with rfl | later
    · exact hiddenFirst claimed target
    · exact hiddenLater target key entry slots later claimed

/-- If a layout of all slots leaves a slot of the menu empty, the item that a click there is for is hidden. It was
placed there like all others, with the tokens of this drawing. -/
theorem Menu.hidden_of_layout {p : Placeholders} {seen : View} {grid : Grid} {before asked after : Ledger}
    (built : (p.build classes actor menu (some seen)).run.run before = (.ok base, asked))
    (laid : (menu.layout classes actor (some seen) p none).run.run before = (.ok grid, after))
    (inside : 0 ≤ slot ∧ slot < menu.size) (empty : grid.get? slot = none) {key : String} {entry : Entry}
    (clicked : menu.itemAtSlot slot seen.page = some (key, entry)) :
    entry.IsHidden classes actor (some seen) base := by
  obtain ⟨table, middle, same, placed⟩ := Menu.built_of_layout laid
  rw [built] at same
  cases same
  obtain ⟨slots, member, claimed⟩ := Menu.placed_of_itemAtSlot clicked
  have target : menu.isTarget none slot = true := by
    unfold isTarget
    simp [inside]
  exact (empty_of_placeAll placed empty).2 target key entry slots member claimed

end

/-- A click on a slot of a menu in which no slot is claimed twice, compared with the drawing of the moment for the
actor who clicks. The actions and the callback of one item are run at most. If there is something drawn in the slot,
it is that item, and the item is visible to the actor; if the slot is left empty, the item is hidden.

Proof: both sides are worked out from the same session. The click finds the first claimant of the slot without asking
anybody, the drawing shows what a visible claimant shows; and there is only one claimant. If nothing is drawn, that
claimant was asked and is hidden. -/
theorem visible_of_click {s : EngineState} {ref : Nat} {session : Session} {menu : Menu} {slot : Int}
    {grid : Grid} {ledger : Ledger} (calling : Calling) (type : ClickType) (keyed : s.Keyed ref)
    (opened : s.session? ref = some session) (known : s.menu? session.menu = some menu)
    (inside : 0 ≤ slot ∧ slot < menu.size) (fixed : menu.isPlaceable slot = false)
    (apart : menu.SlotsApart)
    (laid : (menu.layout s.classes (s.actor ref) (some session.view) s.placeholders none).run.run
      (openLedger s) = (.ok grid, ledger)) :
    let clicked := s.screen.itemAt (s.actor ref).key slot
    let click : ClickContext := { actor := ref, menu := menu.id, slot, clicked, type }
    let found := menu.itemAtSlot slot session.page
    outcome (clickWith calling ref slot type) s =
        (.ok { itemKey := found.map (·.1), executed := executedActions found },
          done calling click (deedsOfClick calling click found s) s) ∧
      ∃ base asked,
        (s.placeholders.build s.classes (s.actor ref) menu (some session.view)).run.run (openLedger s) =
            (.ok base, asked) ∧
          (∀ item, grid.get? slot = some item → ∃ entry, found = some (item.key, entry) ∧
            entry.ShowsAs s.classes (s.actor ref) (some session.view) base item) ∧
          (grid.get? slot = none → ∀ key entry, found = some (key, entry) →
            entry.IsHidden s.classes (s.actor ref) (some session.view) base) := by
  intro clicked click found
  have done : outcome (clickWith calling ref slot type) s = _ := outcome_clickWith keyed
  rw [EngineState.clickTarget_slot opened known inside fixed] at done
  obtain ⟨base, asked, built, -⟩ := Menu.built_of_layout laid
  refine ⟨done, base, asked, built, ?_, ?_⟩
  · intro item there
    obtain ⟨table, middle, entry, same, isClicked, shows⟩ := apart.shown_itemAtSlot laid there
    rw [built] at same
    cases same
    exact ⟨entry, isClicked, shows⟩
  · intro empty key entry isClicked
    exact Menu.hidden_of_layout built laid inside empty isClicked

end

/-- The door of the small shop, which is drawn for the actor who has entered, is visible to that actor, and
its actions are run by a click on it. -/
theorem visible_enteredShop :
    ∃ (base : Placeholder.Table) (entry : Entry) (item : RenderedItem),
      item.material = "DOOR" ∧ smallMenu.itemAtSlot 0 0 = some (item.key, entry) ∧
        entry.ShowsAs {} (enteredShop.actor 0) (some (smallShop.newSession 0 smallMenu .null).view) base
          item ∧
        (outcome (click 0 0 .left) enteredShop).1 =
          .ok { itemKey := some "bye", executed := ["[MESSAGE] Bye", "[CLOSE]"] } := by
  let session := smallShop.newSession 0 smallMenu .null
  have keyed : enteredShop.Keyed 0 := rfl
  have opened : enteredShop.session? 0 = some session := rfl
  have known : enteredShop.menu? "shop" = some smallMenu := rfl
  have inside : 0 ≤ (0 : Int) ∧ 0 < smallMenu.size := ⟨by decide, by decide⟩
  have executed : executedActions (smallMenu.itemAtSlot 0 session.page) = ["[MESSAGE] Bye", "[CLOSE]"] := by
    decide
  have drawn : (((smallMenu.layout {} (enteredShop.actor 0) (some session.view) {} none).run.run
      (openLedger enteredShop)).1.toOption.bind fun grid => (grid.get? 0).map (·.material)) =
        some "DOOR" := by
    decide +kernel
  rcases laid : (smallMenu.layout {} (enteredShop.actor 0) (some session.view) {} none).run.run
    (openLedger enteredShop) with ⟨_ | grid, ledger⟩
  · rw [laid] at drawn
    cases drawn
  · rw [laid] at drawn
    obtain ⟨item, there, material⟩ := Option.map_eq_some_iff.mp drawn
    obtain ⟨clicked, base, asked, -, shown, -⟩ :=
      visible_of_click call .left keyed opened known inside rfl smallMenu_apart laid
    obtain ⟨entry, found, shows⟩ := shown item there
    have answer := congrArg Prod.fst clicked
    dsimp only at answer
    rw [executed] at answer
    exact ⟨base, entry, item, material, found, shows, answer⟩

section

variable [Machine]

/-- Whether an item is visible to an actor who has a menu open, asked in the state as it is. -/
def EngineState.sees (s : EngineState) (ref : Nat) (session : Session) (menu : Menu) (entry : Entry) :
    Except Failure Bool :=
  let actor := s.actor ref
  let asking : ExceptT Failure Resolving Bool := do
    let base ← s.placeholders.build s.classes actor menu (some session.view)
    let table ← Placeholders.forItem s.classes base entry actor
    entry.isVisible s.classes actor (some session.view) table
  (asking.run.run (openLedger s)).1

/-- Some gold that nobody sees. -/
def hiddenGold : Entry where
  template := { material := "GOLD" }
  slots := [0, 1]
  actions := [.simple (.message "Gold")]
  predicate := some (.const (.bool false))

/-- A stone that everybody sees. -/
def plainStone : Entry where
  template := { material := "STONE" }
  slots := [1]

/-- A menu with both, in which the gold comes first. -/
def vaultMenu : Menu where
  id := "vault"
  size := 9
  items := [("gold", hiddenGold), ("stone", plainStone)]

/-- A shop with that menu. -/
def vaultShop : EngineState :=
  { smallShop with menus := [("vault", vaultMenu)] }

/-- The shop when the first actor has opened the menu. -/
def openVault : EngineState :=
  (outcome (openMenu 0 "vault" .null false) vaultShop).2

omit [Machine] in
/-- The items of the vault are placed in the order in which they stand in its menu, gold before stone, since their
priorities are equal. -/
theorem placements_vaultMenu :
    vaultMenu.placements 0 = [("gold", hiddenGold, [0, 1]), ("stone", plainStone, [1])] := by
  unfold Menu.placements
  rw [List.mergeSort_of_pairwise (by decide)]
  rfl

/-- When the first actor has entered the vault, the stone is drawn and nothing else. The gold is hidden. -/
theorem drawing_vaultShop :
    let entered := vaultShop.entering (.text "ann") 0 vaultMenu .null
    (entered.drawing (vaultShop.newSession 0 vaultMenu .null) vaultMenu none).run.run
        (openLedger entered) =
      (.ok ("Menu", [(1, { key := "stone", material := "STONE" })]), { openMenus := 1 }) := by
  intro entered
  have order : vaultMenu.placements
      (((some (vaultShop.newSession 0 vaultMenu .null).view).map (·.page)).getD 0) = _ :=
    placements_vaultMenu
  unfold EngineState.drawing Menu.layout
  dsimp only [Option.map_none]
  rw [order]
  rfl

/-- The state when the actor has opened the vault is the one on entering it with the drawing on the surface. -/
theorem openVault_eq :
    openVault =
      { vaultShop.entering (.text "ann") 0 vaultMenu .null with ledger := { openMenus := 1 } }.drawn
        (.text "ann") "Menu" [(1, { key := "stone", material := "STONE" })] none := by
  have keyed : vaultShop.Keyed 0 := rfl
  have known : vaultShop.menu? "vault" = some vaultMenu := rfl
  have opens : outcome (openMenu 0 "vault" .null false) vaultShop =
      outcome (enter 0 vaultMenu .null >>= fun _ => pure true) vaultShop := by
    unfold openMenu
    rw [outcome_bind_ok _ (outcome_get _), known]
    dsimp only
    rw [outcome_bind_ok _ (outcome_sessionOf keyed)]
    rfl
  unfold openVault
  rw [opens, outcome_bind_answer, outcome_enter keyed]
  obtain ⟨result, ledger, drawing, ⟨cause, failed, -⟩ | ⟨title, grid, -, drawn, done⟩⟩ :=
    render_cases (vaultShop.newSession 0 vaultMenu .null) vaultMenu none
      (vaultShop.entering (vaultShop.actor 0).key 0 vaultMenu .null)
  all_goals
    have known := drawing_vaultShop.symm.trans drawing
    cases known
  · cases failed rfl
  · cases drawn
    exact congrArg Prod.snd done

end

/-- A host brings the engine to the vault. The actions of the gold are then run by a click on the slot that only it
has, and by a click on the slot in which the stone is drawn, although the gold is not visible to the actor who
clicks. -/
theorem hidden_gold_clicked :
    let session := vaultShop.newSession 0 vaultMenu .null
    let told (s : EngineState) : Bool := s.journal.any fun
      | .effect (.message _ text) => text == "Gold"
      | _ => false
    Reaches (fun _ => True) vaultShop openVault ∧
      openVault.session? 0 = some session ∧ told openVault = false ∧
      openVault.sees 0 session vaultMenu hiddenGold = .ok false ∧
      openVault.screen.itemAt (.text "ann") 0 = none ∧
      openVault.screen.itemAt (.text "ann") 1 = some { key := "stone", material := "STONE" } ∧
      ∀ slot ∈ hiddenGold.slots,
        (outcome (click 0 slot .left) openVault).1 =
            .ok { itemKey := some "gold", executed := ["[MESSAGE] Gold"] } ∧
          told (outcome (click 0 slot .left) openVault).2 = true := by
  intro session told
  have reached : Reaches (fun _ => True) vaultShop openVault :=
    .after .here (.openMenu 0 "vault" .null false) call (.scripted _ trivial fun _ _ _ _ => trivial)
  have keyed : openVault.Keyed 0 := by
    rw [openVault_eq]
    rfl
  have opened : openVault.session? 0 = some session := by
    rw [openVault_eq]
    rfl
  have known : openVault.menu? "vault" = some vaultMenu := by
    rw [openVault_eq]
    rfl
  have answered (slot : Int) (inside : 0 ≤ slot ∧ slot < vaultMenu.size)
      (found : vaultMenu.itemAtSlot slot 0 = some ("gold", hiddenGold)) :
      (outcome (click 0 slot .left) openVault).1 =
        .ok { itemKey := some "gold", executed := executedActions (some ("gold", hiddenGold)) } := by
    have done : outcome (click 0 slot .left) openVault = _ := outcome_clickWith keyed
    rw [EngineState.clickTarget_slot opened known inside rfl] at done
    have answer := congrArg Prod.fst done
    dsimp only at answer
    rw [show session.page = 0 from rfl, found] at answer
    exact answer
  have executed : executedActions (some ("gold", hiddenGold)) = ["[MESSAGE] Gold"] := by decide
  rw [executed] at answered
  refine ⟨reached, opened, ?_, ?_, ?_, ?_, fun slot claimed => ?_⟩
  · rw [openVault_eq]
    rfl
  · rw [openVault_eq]
    rfl
  · rw [openVault_eq]
    rfl
  · rw [openVault_eq]
    rfl
  · have isSlot : slot = 0 ∨ slot = 1 := by simpa [hiddenGold] using claimed
    rcases isSlot with rfl | rfl
    · refine ⟨answered 0 ⟨by decide, by decide⟩ rfl, ?_⟩
      rw [openVault_eq]
      decide +kernel
    · refine ⟨answered 1 ⟨by decide, by decide⟩ rfl, ?_⟩
      rw [openVault_eq]
      decide +kernel

end ChestMenu
