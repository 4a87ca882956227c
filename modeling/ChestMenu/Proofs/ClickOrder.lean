import ChestMenu.Proofs.Host
import ChestMenu.Proofs.Sessions

/-!
# What is done on a click, and in which order

A click on a slot of the menu comes to a list of deeds: the actions of the item that was found when the slot was
clicked, then the callback of the item, and last the callback of the slot. A condition is decided in the state that
the deeds before it leave behind, and stands for the deeds of one of its branches.

Callbacks may do anything here: fail, close the menu, open another, register other callbacks. What the engine does is
still to take the deeds one after another, each once, and to leave a notice in the place of what failed. This is said
as an equation between states, for every way of calling callbacks; one that writes down how it is called shows the
order of the calls.
-/
namespace ChestMenu

open Engine

section

variable [Machine]

/-- One thing that is done on a click. -/
inductive Deed where
  /-- An action without a condition is run. -/
  | act (action : SimpleAction)
  /-- A condition cannot be decided, so that neither branch is run. -/
  | balk (written : String) (cause : Failure)
  /-- The callback of an item is called. -/
  | callItem (key material : String) (callback : Callback)
  /-- The callback of a slot is called. -/
  | callSlot (callback : Callback)

section

variable (calling : Calling) (click : ClickContext)

namespace Deed

/-- What is tried. -/
def attempt : Deed → Engine Unit
  | act action => runSimple calling click action
  | balk _ cause => throw cause
  | callItem _ material callback => do
    let id := ((← get).actor click.actor).id
    let _ ← calling click.actor (.item id material) callback
  | callSlot callback => do
    let id := ((← get).actor click.actor).id
    let _ ← calling click.actor (.slot id click) callback

/-- What is noted if it fails, for the name of an actor. -/
def notice : Deed → String → Failure → Notice
  | act action => .actionFailed action.serialize
  | balk written _ => .actionFailed written
  | callItem key .. => .itemCallbackFailed key
  | callSlot _ => .slotCallbackFailed click.menu click.slot

/-- The state after a deed. A failure leaves a notice behind what was done up to it. -/
def after (s : EngineState) (deed : Deed) : EngineState :=
  match outcome (deed.attempt calling click) s with
  | (.ok _, t) => t
  | (.error cause, t) =>
    (outcome (note (deed.notice click (t.actor click.actor).label cause)) t).2

end Deed

/-- The state after several deeds, one after another. -/
def done (deeds : List Deed) (s : EngineState) : EngineState :=
  deeds.foldl (Deed.after calling click) s

mutual

/-- What an action comes to in a state. -/
def deedsOf : Action → EngineState → List Deed
  | .simple action, _ => [.act action]
  | .conditional condition text thenActions elseActions, s =>
    match condition.evaluate (s.actor click.actor) ((s.session? click.actor).map (·.page)) with
    | .ok true => deedsOfAll thenActions s
    | .ok false => deedsOfAll elseActions s
    | .error cause => [.balk (Action.conditional condition text thenActions elseActions).serialize cause]

/-- What several actions come to, each in the state that those before it leave behind. -/
def deedsOfAll : List Action → EngineState → List Deed
  | [], _ => []
  | action :: actions, s =>
    deedsOf action s ++ deedsOfAll actions (done calling click (deedsOf action s) s)

end

/-- What the item that was found comes to: its actions and then its callback, if it can be clicked. -/
def deedsOfItem (found : Option (String × Entry)) (s : EngineState) : List Deed :=
  match found with
  | none => []
  | some (key, entry) =>
    if entry.clickable then
      deedsOfAll calling click entry.actions s ++
        (entry.onClick.map (Deed.callItem key entry.template.material)).toList
    else []

/-- What the slot comes to: the callback that is registered for it by then. -/
def deedsOfSlot (s : EngineState) : List Deed :=
  ((s.slotHandlers.find? click.menu click.slot).map Deed.callSlot).toList

/-- What a click on a slot comes to: the item that was found first, and the slot last. -/
def deedsOfClick (found : Option (String × Entry)) (s : EngineState) : List Deed :=
  let first := deedsOfItem calling click found s
  first ++ deedsOfSlot click (done calling click first s)

/-- The written forms of the actions that a click on an item runs. -/
def executedActions (found : Option (String × Entry)) : List String :=
  match found with
  | some (_, entry) => if entry.clickable then entry.actions.map (·.serialize) else []
  | none => []

end

variable {calling : Calling} {click : ClickContext}

/-- The deeds of two lists are done one list after the other. The second starts in the state that the first leaves
behind. -/
theorem done_append (first rest : List Deed) (s : EngineState) :
    done calling click (first ++ rest) s = done calling click rest (done calling click first s) :=
  List.foldl_append

/-- Actions without conditions come to themselves, in their order. The state does not matter to what they come to. -/
theorem deedsOfAll_simple (actions : List SimpleAction) (s : EngineState) :
    deedsOfAll calling click (actions.map .simple) s = actions.map .act := by
  induction actions generalizing s with
  | nil => simp [deedsOfAll]
  | cons action actions ih => simp [deedsOfAll, deedsOf, ih]

/-- A step whose failure is noted does not fail. It leaves behind what it has done up to the failure, and the notice. -/
theorem outcome_guarded (notice : String → Failure → Notice) (step : Engine Unit) (s : EngineState) :
    outcome (guarded click notice step) s =
      (.ok (), match outcome step s with
        | (.ok _, t) => t
        | (.error cause, t) =>
          (outcome (note (notice (t.actor click.actor).label cause)) t).2) := by
  unfold guarded
  rw [outcome_tryCatch]
  rcases outcome step s with ⟨result, t⟩
  cases result with
  | ok _ => rfl
  | error cause => rfl

/-- A guarded deed does not fail, and leaves the state behind that comes after it. This is what ties the code to the
list of deeds. -/
theorem outcome_guarded_deed (deed : Deed) (s : EngineState) :
    outcome (guarded click (deed.notice click) (deed.attempt calling click)) s =
      (.ok (), done calling click [deed] s) :=
  outcome_guarded _ _ s

/-- A guarded step that does not fail is as it is without the guard. -/
theorem outcome_guarded_ok {notice : String → Failure → Notice} {step : Engine Unit} {s t : EngineState}
    (done : outcome step s = (.ok (), t)) : outcome (guarded click notice step) s = (.ok (), t) := by
  rw [outcome_guarded, done]

mutual

/-- Running an action does what it comes to, and does not fail. A conditional action looks at the state once, when it
is run, to see which of its branches it comes to. -/
theorem outcome_runAction (action : Action) (s : EngineState) :
    outcome (runAction calling click action) s =
      (.ok (), done calling click (deedsOf calling click action s) s) := by
  cases action with
  | simple action =>
    rw [runAction, deedsOf]
    exact outcome_guarded_deed (.act action) s
  | conditional condition text thenActions elseActions =>
    rw [runAction, deedsOf]
    cases decided : condition.evaluate (s.actor click.actor)
        ((s.session? click.actor).map (·.page)) with
    | error cause =>
      rw [outcome_guarded, outcome_bind_ok _ (outcome_get s)]
      dsimp only
      rw [decided]
      rfl
    | ok chosen =>
      apply outcome_guarded_ok
      rw [outcome_bind_ok _ (outcome_get s)]
      dsimp only
      rw [decided, outcome_bind_ok _ (outcome_ofExcept _ s)]
      cases chosen with
      | true => exact outcome_runActions thenActions s
      | false => exact outcome_runActions elseActions s

/-- Running several actions does what they come to, and does not fail. What a later action comes to is asked in the
state that the earlier ones leave behind. The induction is on the list. -/
theorem outcome_runActions (actions : List Action) (s : EngineState) :
    outcome (runActions calling click actions) s =
      (.ok (), done calling click (deedsOfAll calling click actions s) s) := by
  cases actions with
  | nil =>
    rw [runActions, deedsOfAll]
    rfl
  | cons action actions =>
    rw [runActions, deedsOfAll, outcome_bind_ok _ (outcome_runAction action s), done_append]
    exact outcome_runActions actions _

end

/-- A deed that calls no callback of an item or of a slot. -/
def Deed.IsOwn : Deed → Prop
  | act _ | balk .. => True
  | _ => False

mutual

/-- What an action comes to calls no callback of an item or a slot. It is done by the engine itself. -/
theorem isOwn_of_mem_deedsOf (action : Action) (s : EngineState) :
    ∀ deed ∈ deedsOf calling click action s, deed.IsOwn := by
  cases action with
  | simple action =>
    rw [deedsOf]
    exact List.forall_mem_singleton.mpr trivial
  | conditional condition text thenActions elseActions =>
    rw [deedsOf]
    split
    · exact isOwn_of_mem_deedsOfAll thenActions s
    · exact isOwn_of_mem_deedsOfAll elseActions s
    · exact List.forall_mem_singleton.mpr trivial

/-- What several actions come to calls no such callback either. -/
theorem isOwn_of_mem_deedsOfAll (actions : List Action) (s : EngineState) :
    ∀ deed ∈ deedsOfAll calling click actions s, deed.IsOwn := by
  cases actions with
  | nil =>
    rw [deedsOfAll]
    exact List.forall_mem_nil _
  | cons action actions =>
    rw [deedsOfAll]
    intro deed member
    rcases List.mem_append.mp member with first | later
    · exact isOwn_of_mem_deedsOf action s deed first
    · exact isOwn_of_mem_deedsOfAll actions _ deed later

end

/-- What an item without a callback of its own comes to calls no such callback: there are only its actions. -/
theorem isOwn_of_mem_deedsOfItem {found : Option (String × Entry)}
    (silent : ∀ item, found = some item → item.2.onClick = none) (s : EngineState) :
    ∀ deed ∈ deedsOfItem calling click found s, deed.IsOwn := by
  cases found with
  | none => exact List.forall_mem_nil _
  | some item =>
    obtain ⟨key, entry⟩ := item
    unfold deedsOfItem
    dsimp only
    split
    · rw [silent _ rfl]
      simpa using isOwn_of_mem_deedsOfAll entry.actions s
    · exact List.forall_mem_nil _

/-- Deeds keep what notices and attempts at each of them keep. The induction is on the deeds, and a failure of one
adds a notice and nothing else. -/
theorem holds_done {P : EngineState → Prop} {deeds : List Deed} {s : EngineState}
    (noted : ∀ notice, Keeps P (note notice))
    (each : ∀ deed ∈ deeds, Keeps P (deed.attempt calling click)) (holds : P s) : P (done calling click deeds s) := by
  induction deeds generalizing s with
  | nil => exact holds
  | cons deed deeds ih =>
    obtain ⟨first, others⟩ := List.forall_mem_cons.mp each
    refine ih others ?_
    have tried := first s holds
    unfold Deed.after
    rcases attempt : outcome (deed.attempt calling click) s with ⟨cause | _, t⟩
    · rw [attempt] at tried
      exact noted _ t tried
    · rwa [attempt] at tried

/-- Running an item does what the item comes to, and gives the written forms of its actions. Written forms are told
even of actions that failed. -/
theorem outcome_runEntry (key : String) (entry : Entry) (s : EngineState) :
    outcome (runEntry calling click key entry) s =
      (.ok (executedActions (some (key, entry))),
        done calling click (deedsOfItem calling click (some (key, entry)) s) s) := by
  unfold runEntry executedActions deedsOfItem
  dsimp only
  cases entry.clickable with
  | false => rfl
  | true =>
    simp only [Bool.not_true, Bool.false_eq_true, if_false, if_true]
    rw [outcome_bind_ok _ (outcome_runActions entry.actions s), done_append]
    cases entry.onClick with
    | none => rfl
    | some callback =>
      exact outcome_bind_ok _
        (outcome_guarded_deed (.callItem key entry.template.material callback) _)

/-- Calling the callback of a slot does what the slot comes to. Without a callback for the slot that is nothing. -/
theorem outcome_fireSlot (s : EngineState) :
    outcome (fireSlot calling click) s =
      (.ok (), done calling click (deedsOfSlot click s) s) := by
  unfold fireSlot deedsOfSlot
  rw [outcome_bind_ok _ (outcome_get s)]
  cases s.slotHandlers.find? click.menu click.slot with
  | none => rfl
  | some callback => exact outcome_guarded_deed (.callSlot callback) s

/-- A click on a slot does what it comes to: first what the item there comes to, if there is one, then what the slot
comes to in the state behind that. -/
theorem outcome_clickSlot (found : Option (String × Entry)) (s : EngineState) :
    outcome (clickSlot calling click found) s =
      (.ok { itemKey := found.map (·.1), executed := executedActions found },
        done calling click (deedsOfClick calling click found s) s) := by
  unfold clickSlot deedsOfClick
  dsimp only
  rw [done_append]
  cases found with
  | none => exact outcome_bind_ok _ (outcome_fireSlot s)
  | some item =>
    obtain ⟨key, entry⟩ := item
    dsimp only
    rw [outcome_bind_ok _ (outcome_runEntry key entry s), outcome_bind_ok _ (outcome_fireSlot _)]
    rfl

/-- A click of an actor who has a menu open, on a slot of the menu that nothing may be put into, never fails, whatever
callbacks do. It is cancelled and tells the item that the slot had when it was clicked and the written forms of its
actions. The state behind it is the one after all deeds that it comes to: those of that item, in order, and last the
callback that is registered for the slot by then.

Proof: the guards of a click let this one through to the item, and from there `outcome_clickSlot` applies. It goes
through the deeds one by one: each is attempted in the state that the one before left behind, and a failure of it is
caught. -/
theorem click_order {s : EngineState} {ref : Nat} {session : Session} {menu : Menu} {slot : Int}
    (calling : Calling) (type : ClickType) (keyed : s.Keyed ref)
    (opened : s.session? ref = some session) (known : s.menu? session.menu = some menu)
    (inside : 0 ≤ slot ∧ slot < menu.size) (fixed : menu.isPlaceable slot = false) :
    let clicked := s.screen.itemAt (s.actor ref).key slot
    let click : ClickContext := { actor := ref, menu := menu.id, slot, clicked, type }
    let found := menu.itemAtSlot slot session.page
    outcome (clickWith calling ref slot type) s =
      (.ok {
        cancelled := true
        itemKey := found.map (·.1)
        executed := executedActions found
        silent := false },
      done calling click (deedsOfClick calling click found s) s) := by
  intro clicked click found
  unfold clickWith
  rw [outcome_bind_ok _ (outcome_keyOf keyed), outcome_bind_ok _ (outcome_get s)]
  rw [EngineState.session?] at opened
  rw [opened]
  simp only [known, if_neg (Int.not_lt.mpr inside.1), if_neg (Int.not_le.mpr inside.2), fixed,
    Bool.false_eq_true, if_false]
  exact outcome_clickSlot found s

/-- The small shop when the first actor has entered the menu. -/
def enteredShop : EngineState :=
  smallShop.entering (.text "ann") 0 smallMenu .null

/-- The click on the door there. -/
def doorClick : ClickContext where
  actor := 0
  menu := "shop"
  slot := 0

end

/-- In a shop where every callback fails, a click on the door sends its message and closes the menu, and the callback
of the door is called all the same. -/
theorem click_order_enteredShop :
    let calling : Calling := fun _ _ _ => throw .tooDeep
    let found := smallMenu.itemAtSlot 0 0
    deedsOfItem calling doorClick found enteredShop =
        [.act (.message "Bye"), .act .close,
          .callItem "bye" "DOOR" (.script "wave" [.message "Bye bye"])] ∧
      outcome (clickWith calling 0 0 .left) enteredShop =
        (.ok { itemKey := some "bye", executed := ["[MESSAGE] Bye", "[CLOSE]"] },
          done calling doorClick (deedsOfClick calling doorClick found enteredShop) enteredShop) := by
  intro calling found
  have key : found.map (·.1) = some "bye" := rfl
  have executed : executedActions found = ["[MESSAGE] Bye", "[CLOSE]"] := by decide
  have keyed : enteredShop.Keyed 0 := rfl
  have opened : enteredShop.session? 0 = some (smallShop.newSession 0 smallMenu .null) := rfl
  have known : enteredShop.menu? "shop" = some smallMenu := rfl
  have order : outcome (clickWith calling 0 0 .left) enteredShop =
      (.ok { itemKey := found.map (·.1), executed := executedActions found },
        done calling doorClick (deedsOfClick calling doorClick found enteredShop) enteredShop) :=
    click_order calling .left keyed opened known ⟨by decide, by decide⟩ rfl
  rw [key, executed] at order
  exact ⟨rfl, order⟩

end ChestMenu
