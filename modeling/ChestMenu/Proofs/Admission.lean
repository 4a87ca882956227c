import ChestMenu.Proofs.Dispatch

/-!
# Which clicks are let through

A host keeps things where they are when a click is cancelled; it lets them move in three cases only: the actor has no
menu open, things may be put into the slot, or the click is in the player's own inventory and the handler that is
registered for the menu allows it. The guards are asked in an order: a negative number is no slot, whatever else is
said of it, and past the size of the menu nothing is placeable.

A click that is not for a slot of the menu with something to click on runs nothing. All that may be called is the
handler of the inventory. This is said of the state behind the click, which is the one that this handler leaves
behind, for every way of calling callbacks.
-/
namespace ChestMenu

open Engine

section

/-- A click is in the player's inventory, below the slots of the menu that the actor has open, and there is a
handler to be asked about it. -/
structure InventoryAsked (s : EngineState) (ref : Nat) (slot : Int) (menu : Menu) (handler : Callback) :
    Prop where
  opened : ∃ session, s.session? ref = some session ∧ s.menu? session.menu = some menu
  below : 0 ≤ slot ∧ menu.size ≤ slot
  enabled : menu.playerInventory = true
  registered : s.inventoryHandlers.find? menu.id = some handler

/-- A handler gives an answer that stands for a decision. -/
def Decides [Machine] (ended : Except Failure Value) (decision : InventoryDecision) : Prop :=
  ∃ answer, ended = .ok answer ∧ InventoryDecision.StandsFor answer decision

/-- The handler of the inventory is asked about a click, and its answer stands for a decision. -/
def InventoryAnswers [Machine] (calling : Calling) (s : EngineState) (ref : Nat) (slot : Int) (type : ClickType)
    (decision : InventoryDecision) : Prop :=
  ∃ menu handler, InventoryAsked s ref slot menu handler ∧
    Decides (outcome (calling ref (.context { actor := ref, menu := menu.id, slot, type }) handler) s).1 decision

/-- The clicks that are let through. -/
inductive LetThrough [Machine] (calling : Calling) (s : EngineState) (ref : Nat) (slot : Int) (type : ClickType) :
    Prop where
  /-- The actor has no menu open. -/
  | elsewhere (closed : s.session? ref = none)
  /-- Things may be put into the slot, and it is one of the menu. -/
  | placeable {session : Session} {menu : Menu} (opened : s.session? ref = some session)
      (known : s.menu? session.menu = some menu) (inside : 0 ≤ slot ∧ slot < menu.size)
      (placeable : menu.isPlaceable slot = true)
  /-- The handler of the inventory allows it. -/
  | allowed (answers : InventoryAnswers calling s ref slot type .allow)

/-- The state behind what a click asks the handler of the inventory, if it asks one. -/
def EngineState.asked (s : EngineState) (calling : Calling) (ref : Nat) (slot : Int) (type : ClickType) :
    EngineState :=
  match s.decider? ref slot with
  | some (menu, handler) =>
    (outcome (calling ref (.context { actor := ref, menu := menu.id, slot, type }) handler) s).2
  | none => s

/-- What is known about a click that is for a target. -/
inductive ClickTarget.Aim (s : EngineState) (ref : Nat) (slot : Int) : ClickTarget → Prop where
  | nothing (closed : s.session? ref = none) : Aim s ref slot .nothing
  | goneMenu {session : Session} (opened : s.session? ref = some session)
      (gone : s.menu? session.menu = none) : Aim s ref slot (.goneMenu session.menu)
  | noSlot {session : Session} {menu : Menu} (opened : s.session? ref = some session)
      (known : s.menu? session.menu = some menu) (negative : slot < 0) : Aim s ref slot .noSlot
  | inventory {session : Session} {menu : Menu} (opened : s.session? ref = some session)
      (known : s.menu? session.menu = some menu) (below : 0 ≤ slot ∧ menu.size ≤ slot) :
      Aim s ref slot (.inventory menu)
  | placeable {session : Session} {menu : Menu} (opened : s.session? ref = some session)
      (known : s.menu? session.menu = some menu) (inside : 0 ≤ slot ∧ slot < menu.size)
      (placeable : menu.isPlaceable slot = true) : Aim s ref slot .placeable
  | slot {session : Session} {menu : Menu} (opened : s.session? ref = some session)
      (known : s.menu? session.menu = some menu) (inside : 0 ≤ slot ∧ slot < menu.size)
      (fixed : menu.isPlaceable slot = false) : Aim s ref slot (.slot session menu)

namespace EngineState

variable {s : EngineState} {ref : Nat} {slot : Int}

/-- What a click is for is told by the guards of a click, in their order. Each case carries what the guards before it
have let pass. -/
theorem aim_clickTarget (s : EngineState) (ref : Nat) (slot : Int) :
    ClickTarget.Aim s ref slot (s.clickTarget ref slot) := by
  unfold clickTarget
  cases opened : s.session? ref with
  | none => exact .nothing opened
  | some session =>
    dsimp only
    cases known : s.menu? session.menu with
    | none => exact .goneMenu opened known
    | some menu =>
      dsimp only
      by_cases negative : slot < 0
      · rw [if_pos negative]
        exact .noSlot opened known negative
      by_cases below : menu.size ≤ slot
      · rw [if_neg negative, if_pos below]
        exact .inventory opened known ⟨Int.not_lt.mp negative, below⟩
      have inside : 0 ≤ slot ∧ slot < menu.size := ⟨Int.not_lt.mp negative, Int.not_le.mp below⟩
      rw [if_neg negative, if_neg below]
      cases placeable : menu.isPlaceable slot with
      | true => exact .placeable opened known inside placeable
      | false => exact .slot opened known inside placeable

/-- The handler that is asked about a click is the one that decides it. So who decides can be told from the click
without running it. -/
theorem decider?_eq_some_iff {menu : Menu} {handler : Callback} :
    s.decider? ref slot = some (menu, handler) ↔ InventoryAsked s ref slot menu handler := by
  constructor
  · intro asked
    obtain ⟨target, enabled, registered⟩ := decider?_eq_some asked
    have aim := s.aim_clickTarget ref slot
    rw [target] at aim
    cases aim with
    | inventory opened known below => exact ⟨⟨_, opened, known⟩, below, enabled, registered⟩
  · rintro ⟨⟨session, opened, known⟩, ⟨notNegative, below⟩, enabled, registered⟩
    have target : s.clickTarget ref slot = .inventory menu := by
      unfold clickTarget
      simp only [opened, known, if_neg (Int.not_lt.mpr notNegative), if_pos below]
    unfold decider?
    simp only [target, enabled, if_true, registered, Option.map_some]

/-- A click about which nobody is asked leaves the state to itself, since the only one to change it by then is who is
asked. -/
theorem asked_of_unasked {calling : Calling} {type : ClickType} (unasked : s.decider? ref slot = none) :
    s.asked calling ref slot type = s := by
  unfold asked
  rw [unasked]

/-- Only the inventory has somebody who decides. A click for anything else asks nobody. -/
theorem decider?_eq_none {s : EngineState} {ref : Nat} {slot : Int}
    (elsewhere : ∀ menu, s.clickTarget ref slot ≠ .inventory menu) : s.decider? ref slot = none := by
  cases asked : s.decider? ref slot with
  | none => rfl
  | some decider => exact absurd (decider?_eq_some asked).1 (elsewhere _)

end EngineState

/-- The decision of a handler is the one that its answer is read as. An answer that stands for no decision decides
nothing. -/
theorem decides_iff [Machine] {ended : Except Failure Value} {decision : InventoryDecision} :
    Decides ended decision ↔ ended >>= InventoryDecision.ofAnswer = .ok (some decision) := by
  cases ended with
  | error cause => exact iff_of_false (fun ⟨_, same, _⟩ => by cases same) (by simp [bind, Except.bind])
  | ok answer =>
    refine Iff.trans ⟨?_, fun stands => ⟨answer, rfl, stands⟩⟩ InventoryDecision.ofAnswer_eq_some_iff.symm
    rintro ⟨_, same, stands⟩
    cases same
    exact stands

namespace ClickOutcome

variable {menu : String} {ended : Except Failure Value × EngineState} {answer : ClickOutcome}
  {t : EngineState}

/-- What a click in the player's inventory comes to. It is let through for one decision of the handler and
silent for another, no item has a part in it, and the state is that of the handler but for a notice. -/
theorem of_afterHandler [Machine] (answered : afterHandler menu ended = (.ok answer, t)) :
    (answer.cancelled = false ↔ Decides ended.1 .allow) ∧
      (answer.silent = true ↔ Decides ended.1 .cancelSilently) ∧
      answer.itemKey = none ∧ answer.executed = [] ∧
      (t = ended.2 ∨ ∃ notice, t = (outcome (note notice) ended.2).2) := by
  rw [decides_iff, decides_iff]
  unfold afterHandler at answered
  generalize ended.1 >>= InventoryDecision.ofAnswer = read at answered ⊢
  rcases read with cause | _ | decision
  · dsimp only at answered
    split at answered
    · cases answered
      exact ⟨by simp, by simp, rfl, rfl, Or.inr ⟨_, rfl⟩⟩
    · cases answered
  · cases answered
    exact ⟨by simp, by simp, rfl, rfl, Or.inr ⟨_, rfl⟩⟩
  · cases answered
    refine ⟨?_, ?_, ?_, ?_, Or.inl rfl⟩
    all_goals cases decision <;> simp [ofDecision]

end ClickOutcome

section

variable {calling : Calling} {s t : EngineState} {ref : Nat} {slot : Int} {type : ClickType}
  {answer : ClickOutcome}

/-- Only the click of an actor with a key is answered. Without a key the click fails before it is looked at. -/
theorem keyed_of_clickWith [Machine] (answered : outcome (clickWith calling ref slot type) s = (.ok answer, t)) :
    s.Keyed ref := by
  rcases keyOf_cases ref s with ⟨cause, failed⟩ | ⟨keyed, -⟩
  · unfold clickWith at answered
    rw [outcome_bind_error _ failed] at answered
    cases answered
  · exact keyed

/-- A click about which nobody is asked has no decision of the handler. So it is let through for another reason, if it
is. -/
theorem not_inventoryAnswers [Machine] {decision : InventoryDecision} (unasked : s.decider? ref slot = none) :
    ¬InventoryAnswers calling s ref slot type decision := by
  rintro ⟨menu, handler, asked, -⟩
  rw [EngineState.decider?_eq_some_iff.mpr asked] at unasked
  cases unasked

/-- The handler that is asked about a click is the one whose decision counts. There is at most one, as there is at
most one that is registered for the menu. -/
theorem inventoryAnswers_iff [Machine] {decision : InventoryDecision} {menu : Menu} {handler : Callback}
    (asked : s.decider? ref slot = some (menu, handler)) :
    InventoryAnswers calling s ref slot type decision ↔
      Decides (outcome (calling ref (.context { actor := ref, menu := menu.id, slot, type }) handler) s).1
        decision := by
  constructor
  · rintro ⟨other, callback, isAsked, decides⟩
    cases asked.symm.trans (EngineState.decider?_eq_some_iff.mpr isAsked)
    exact decides
  · intro decides
    exact ⟨menu, handler, EngineState.decider?_eq_some_iff.mp asked, decides⟩

/-- What is let through, by what the click is for: nothing at all, a slot that things may be put into, or the
inventory if its handler allows it. -/
theorem letThrough_iff_clickTarget [Machine] : LetThrough calling s ref slot type ↔
    s.clickTarget ref slot = .nothing ∨ s.clickTarget ref slot = .placeable ∨
      InventoryAnswers calling s ref slot type .allow := by
  constructor
  · rintro (closed | ⟨opened, known, inside, placeable⟩ | answers)
    · left
      unfold EngineState.clickTarget
      rw [closed]
    · right
      left
      unfold EngineState.clickTarget
      simp only [opened, known, if_neg (Int.not_lt.mpr inside.1), if_neg (Int.not_le.mpr inside.2),
        placeable, if_true]
    · exact Or.inr (Or.inr answers)
  · have aim := s.aim_clickTarget ref slot
    rintro (nothing | placeable | answers)
    · rw [nothing] at aim
      cases aim with
      | nothing closed => exact .elsewhere closed
    · rw [placeable] at aim
      cases aim with
      | placeable opened known inside placeable => exact .placeable opened known inside placeable
    · exact .allowed answers

/-- A click tells no item and no actions, and leaves the state behind that the handler of the inventory left,
if it was asked, but for a notice. -/
structure LeavesItems (calling : Calling) (s : EngineState) (ref : Nat) (slot : Int) (type : ClickType)
    (answer : ClickOutcome) (t : EngineState) : Prop where
  itemKey : answer.itemKey = none
  executed : answer.executed = []
  state : t = s.asked calling ref slot type ∨
    ∃ notice, t = (outcome (note notice) (s.asked calling ref slot type)).2

/-- A click about which nobody is asked and that is for no item leaves items alone. It tells none, and the state is
the one before but for a notice. -/
theorem LeavesItems.of_unasked (unasked : s.decider? ref slot = none) (itemKey : answer.itemKey = none)
    (executed : answer.executed = []) (state : t = s ∨ ∃ notice, t = (outcome (note notice) s).2) :
    LeavesItems calling s ref slot type answer t := by
  refine ⟨itemKey, executed, ?_⟩
  rw [EngineState.asked_of_unasked unasked]
  exact state

/-- A click that is for a slot of the menu with an item or none is cancelled, and is not silent. The item, if there is
one, has its deeds done in between, which do not change the verdict. -/
theorem clickWith_slot [Machine] {session : Session} {menu : Menu}
    (answered : outcome (clickWith calling ref slot type) s = (.ok answer, t))
    (target : s.clickTarget ref slot = .slot session menu) :
    answer.cancelled = true ∧ answer.silent = false := by
  rw [outcome_clickWith (keyed_of_clickWith answered), target] at answered
  cases answered
  exact ⟨rfl, rfl⟩

/-- A click in the player's inventory is decided by the handler that is asked, and is cancelled if none is. In both
cases no item has a part in it. -/
theorem clickWith_inventory [Machine] {menu : Menu}
    (answered : outcome (clickWith calling ref slot type) s = (.ok answer, t))
    (target : s.clickTarget ref slot = .inventory menu) :
    (answer.cancelled = false ↔ InventoryAnswers calling s ref slot type .allow) ∧
      (answer.silent = true ↔ InventoryAnswers calling s ref slot type .cancelSilently) ∧
      LeavesItems calling s ref slot type answer t := by
  have keyed := keyed_of_clickWith answered
  cases asked : s.decider? ref slot with
  | none =>
    have unasked := s.unregistered_of_decider?_eq_none asked target
    rw [outcome_clickWith keyed, target] at answered
    dsimp only at answered
    rw [outcome_clickInventory_unasked unasked] at answered
    cases answered
    refine ⟨?_, ?_, .of_unasked asked rfl rfl (Or.inl rfl)⟩
    · simp [not_inventoryAnswers asked]
    · simp [not_inventoryAnswers asked]
  | some decider =>
    obtain ⟨below, handler⟩ := decider
    rw [outcome_clickWith_asked keyed asked] at answered
    obtain ⟨cancelled, silent, itemKey, executed, state⟩ := ClickOutcome.of_afterHandler answered
    refine ⟨cancelled.trans (inventoryAnswers_iff asked).symm,
      silent.trans (inventoryAnswers_iff asked).symm, itemKey, executed, ?_⟩
    unfold EngineState.asked
    rw [asked]
    exact state

/-- A click that is answered is let through exactly if the actor has no menu open, the slot is one of the menu
that things may be put into, or the handler of the inventory below the menu answers that it allows it; it is
silent exactly if this handler answers so. A click on no slot, on a slot that things may be put into or past
the menu, or while the menu is gone, tells no item and no actions, and what it leaves behind is the state that
the handler left, if it was asked, and perhaps a notice: no action was run and no other callback called.

Proof: the guards of a click are gone through in their order, as `aim_clickTarget` lists them. Only past the menu is
somebody asked, and there `of_afterHandler` reads the decision off the end of the handler. -/
theorem let_through_iff [Machine]
    (answered : outcome (clickWith calling ref slot type) s = (.ok answer, t)) :
    (answer.cancelled = false ↔ LetThrough calling s ref slot type) ∧
      (answer.silent = true ↔ InventoryAnswers calling s ref slot type .cancelSilently) ∧
      ((∀ session menu, s.session? ref = some session → s.menu? session.menu = some menu →
          slot < 0 ∨ menu.isPlaceable slot = true ∨ menu.size ≤ slot) →
        LeavesItems calling s ref slot type answer t) := by
  rw [letThrough_iff_clickTarget]
  have decided := answered
  rw [outcome_clickWith (keyed_of_clickWith answered)] at decided
  have aim := s.aim_clickTarget ref slot
  have elsewhere : (∀ menu, s.clickTarget ref slot ≠ .inventory menu) → s.decider? ref slot = none :=
    EngineState.decider?_eq_none
  generalize target : s.clickTarget ref slot = aimed at aim decided elsewhere
  cases aim with
  | nothing closed =>
    have unasked := elsewhere (by simp)
    cases decided
    exact ⟨by simp, by simp [not_inventoryAnswers unasked], fun _ => .of_unasked unasked rfl rfl (Or.inl rfl)⟩
  | goneMenu opened gone =>
    have unasked := elsewhere (by simp)
    cases decided
    exact ⟨by simp [not_inventoryAnswers unasked], by simp [not_inventoryAnswers unasked],
      fun _ => .of_unasked unasked rfl rfl (Or.inr ⟨_, rfl⟩)⟩
  | noSlot opened known negative =>
    have unasked := elsewhere (by simp)
    cases decided
    exact ⟨by simp [not_inventoryAnswers unasked], by simp [not_inventoryAnswers unasked],
      fun _ => .of_unasked unasked rfl rfl (Or.inl rfl)⟩
  | inventory opened known below =>
    obtain ⟨cancelled, silent, leaves⟩ := clickWith_inventory answered target
    exact ⟨by simpa using cancelled, silent, fun _ => leaves⟩
  | placeable opened known inside placeable =>
    have unasked := elsewhere (by simp)
    cases decided
    exact ⟨by simp, by simp [not_inventoryAnswers unasked], fun _ => .of_unasked unasked rfl rfl (Or.inl rfl)⟩
  | slot opened known inside fixed =>
    have unasked := elsewhere (by simp)
    obtain ⟨cancelled, silent⟩ := clickWith_slot answered target
    refine ⟨by simp [cancelled, not_inventoryAnswers unasked],
      by simp [silent, not_inventoryAnswers unasked], fun spared => ?_⟩
    rcases spared _ _ opened known with negative | placeable | below
    · exact absurd negative (Int.not_lt.mpr inside.1)
    · rw [fixed] at placeable
      cases placeable
    · exact absurd below (Int.not_le.mpr inside.2)

end

/-- The shop in which clicks in the inventory are let through, when the handler answers with a word. -/
def answeringShop (word : String) : EngineState :=
  { bagShop .value with inventoryHandlers := [("shop", .script "bag" [.answer (.text word)])] }

end

/-- In the shop whose handler answers that it allows everything, a click just past the menu is let through, and no
item has a part in it. -/
theorem let_through_answeringShop :
    ∃ answer t, outcome (clickWith call 0 9 .left) (answeringShop "ALLOW") = (.ok answer, t) ∧
      LetThrough call (answeringShop "ALLOW") 0 9 .left ∧
      LeavesItems call (answeringShop "ALLOW") 0 9 .left answer t := by
  have answered : outcome (clickWith call 0 9 .left) (answeringShop "ALLOW") =
    (.ok { cancelled := false }, _) := rfl
  obtain ⟨through, -, leaves⟩ := let_through_iff answered
  refine ⟨_, _, answered, through.mp rfl, leaves fun session menu opened known => ?_⟩
  cases opened
  cases known
  exact Or.inr (Or.inr (by decide))

end ChestMenu
