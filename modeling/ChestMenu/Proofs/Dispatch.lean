import ChestMenu.Proofs.ClickOrder
import ChestMenu.Proofs.Readings

/-!
# Where a click goes, and what can come of it

A click is for one of a few things, told apart by the session of the actor, the menu and the slot; only on two of
these ways are callbacks called.

The callbacks of a slot of the menu may fail as they like, and the click is still answered. The handler of clicks in
the player's inventory is not contained in this way: a bad value that it reports is taken for an answer that is no
decision, and every other failure goes on to the caller. That is the one way in which a click of an actor with a key
fails.
-/
namespace ChestMenu

open Engine

section

/-- What a click is for. -/
inductive ClickTarget where
  /-- The actor has no menu open. -/
  | nothing
  /-- The menu that the actor has open does not exist any more. -/
  | goneMenu (name : String)
  /-- A negative number is no slot. -/
  | noSlot
  /-- The player's inventory. -/
  | inventory (menu : Menu)
  /-- A slot that things may be put into. -/
  | placeable
  /-- Any other slot of the menu. -/
  | slot (session : Session) (menu : Menu)

namespace EngineState

/-- What a click of an actor on a slot is for. -/
def clickTarget (s : EngineState) (ref : Nat) (slot : Int) : ClickTarget :=
  match s.session? ref with
  | none => .nothing
  | some session =>
    match s.menu? session.menu with
    | none => .goneMenu session.menu
    | some menu =>
      if slot < 0 then .noSlot
      else if menu.size ≤ slot then .inventory menu
      else if menu.isPlaceable slot then .placeable
      else .slot session menu

/-- The handler that a click of an actor asks for a decision: that of the player's inventory below the
menu, if the click is there, the menu lets such clicks through and a handler is registered for it. -/
def decider? (s : EngineState) (ref : Nat) (slot : Int) : Option (Menu × Callback) :=
  match s.clickTarget ref slot with
  | .inventory menu =>
    if menu.playerInventory then (s.inventoryHandlers.find? menu.id).map (menu, ·) else none
  | _ => none

/-- Who decides about a click is registered for the menu under which the inventory was clicked, and the menu lets such
clicks through. These three facts are all that it takes to be asked. -/
theorem decider?_eq_some {s : EngineState} {ref : Nat} {slot : Int} {menu : Menu} {handler : Callback}
    (asked : s.decider? ref slot = some (menu, handler)) :
    s.clickTarget ref slot = .inventory menu ∧ menu.playerInventory = true ∧
      s.inventoryHandlers.find? menu.id = some handler := by
  unfold decider? at asked
  split at asked
  · rename_i below target
    split at asked
    · rename_i enabled
      obtain ⟨found, registered, same⟩ := Option.map_eq_some_iff.mp asked
      cases same
      exact ⟨target, enabled, registered⟩
    · cases asked
  · cases asked

/-- If nobody decides about a click in the player's inventory, the menu lets no such clicks through or no handler is
registered for it. In both cases the click is cancelled without a question. -/
theorem unregistered_of_decider?_eq_none {s : EngineState} {ref : Nat} {slot : Int} {menu : Menu}
    (unasked : s.decider? ref slot = none) (target : s.clickTarget ref slot = .inventory menu)
    (enabled : menu.playerInventory = true) : s.inventoryHandlers.find? menu.id = none := by
  unfold decider? at unasked
  rw [target] at unasked
  simpa only [enabled, if_true, Option.map_eq_none_iff] using unasked

/-- A click on a slot inside a menu that nothing may be put into is for that slot. The slots inside are those below
the size of the menu. -/
theorem clickTarget_slot {s : EngineState} {ref : Nat} {slot : Int} {session : Session} {menu : Menu}
    (opened : s.session? ref = some session) (known : s.menu? session.menu = some menu)
    (inside : 0 ≤ slot ∧ slot < menu.size) (fixed : menu.isPlaceable slot = false) :
    s.clickTarget ref slot = .slot session menu := by
  unfold clickTarget
  simp only [opened, known, if_neg (Int.not_lt.mpr inside.1), if_neg (Int.not_le.mpr inside.2), fixed,
    Bool.false_eq_true, if_false]

/-- A click that is for a slot of the menu is for one of the menu that the actor has open. So there is a session and a
menu to speak of. -/
theorem known_of_clickTarget_slot {s : EngineState} {ref : Nat} {slot : Int} {session : Session} {menu : Menu}
    (target : s.clickTarget ref slot = .slot session menu) :
    s.session? ref = some session ∧ s.menu? session.menu = some menu := by
  unfold clickTarget at target
  split at target
  · cases target
  · rename_i opened
    split at target
    · cases target
    · rename_i known
      split at target
      · cases target
      · split at target
        · cases target
        · split at target
          · cases target
          · cases target
            exact ⟨opened, known⟩

end EngineState

namespace InventoryDecision

/-- The decisions with whose words an answer is compared before. -/
def before : InventoryDecision → List InventoryDecision
  | allow => []
  | cancel => [allow]
  | cancelSilently => [allow, cancel]

/-- The words are tested one after another, and that for a decision is the first of which the test is not simply
false. -/
structure Settles (test : String → Except Failure Bool) (decision : InventoryDecision) (ended : Except Failure Bool) :
    Prop where
  first : ∀ other ∈ decision.before, test other.word = .ok false
  settled : test decision.word = ended

variable {test : String → Except Failure Bool} {decision : InventoryDecision} {cause : Failure}

/-- If a word is the first that passes a test, it is found. Those before it are left aside. -/
theorem findM?_of_passes (settles : Settles test decision (.ok true)) :
    all.findM? (fun decision => test decision.word) = .ok (some decision) := by
  obtain ⟨first, settled⟩ := settles
  cases decision <;> simp only [before, List.forall_mem_cons] at first <;>
    simp [all, List.findM?, first, settled, bind, Except.bind, pure, Except.pure]

/-- If the test of a word fails before one passes, so does the search. Those behind it are not tested. -/
theorem findM?_of_fails (settles : Settles test decision (.error cause)) :
    all.findM? (fun decision => test decision.word) = .error cause := by
  obtain ⟨first, settled⟩ := settles
  cases decision <;> simp only [before, List.forall_mem_cons] at first <;>
    simp [all, List.findM?, first, settled, bind, Except.bind]

/-- If no word passes a test, none is found. There are no others. -/
theorem findM?_of_none (unfound : ∀ decision : InventoryDecision, test decision.word = .ok false) :
    all.findM? (fun decision => test decision.word) = .ok none := by
  simp [all, List.findM?, unfound, bind, Except.bind, pure, Except.pure]

/-- The words are tested one after another until one passes or its test fails; or none does. The cases are gone through
in the order of the words. -/
theorem settles_cases (test : String → Except Failure Bool) :
    (∃ decision, Settles test decision (.ok true)) ∨ (∃ decision cause, Settles test decision (.error cause)) ∨
      ∀ decision : InventoryDecision, test decision.word = .ok false := by
  have ended (decision : InventoryDecision) (first : ∀ other ∈ decision.before, test other.word = .ok false) :
      (∃ decision, Settles test decision (.ok true)) ∨ (∃ decision cause, Settles test decision (.error cause)) ∨
        test decision.word = .ok false := by
    cases settled : test decision.word with
    | error cause => exact .inr (.inl ⟨decision, cause, first, settled⟩)
    | ok passes =>
      cases passes with
      | true => exact .inl ⟨decision, first, settled⟩
      | false => exact .inr (.inr rfl)
  rcases ended allow nofun with passes | fails | noAllow
  · exact .inl passes
  · exact .inr (.inl fails)
  rcases ended cancel (List.forall_mem_singleton.mpr noAllow) with passes | fails | noCancel
  · exact .inl passes
  · exact .inr (.inl fails)
  rcases ended cancelSilently (by simpa [before] using ⟨noAllow, noCancel⟩) with passes | fails | noSilence
  · exact .inl passes
  · exact .inr (.inl fails)
  exact .inr (.inr fun decision => by cases decision <;> assumption)

end InventoryDecision

variable [Machine]

namespace InventoryDecision

/-- An answer stands for a decision: it is found under its word, and under none of those before. If its type is wrong
for being looked for in this way, it equals the word, and none of those before. -/
inductive StandsFor (answer : Value) (decision : InventoryDecision) : Prop
  | found (settles : Settles answer.isFoundAs decision (.ok true))
  | equal {other : InventoryDecision} {why : Failure} (refused : Settles answer.isFoundAs other (.error why))
      (wrongType : why.isWrongType = true)
      (settles : Settles answer.equalsText decision (.ok true))

/-- An answer stands for no decision: it is found under no word, or a missing key is reported where it is looked for,
or its type is wrong for that and it equals none of the words. -/
inductive StandsForNone (answer : Value) : Prop
  | unfound (unfound : ∀ decision : InventoryDecision, answer.isFoundAs decision.word = .ok false)
  | missing {other : InventoryDecision} {why : Failure} (refused : Settles answer.isFoundAs other (.error why))
      (missingKey : why.isMissingKey = true)
  | unequal {other : InventoryDecision} {why : Failure} (refused : Settles answer.isFoundAs other (.error why))
      (wrongType : why.isWrongType = true)
      (unequal : ∀ decision : InventoryDecision, answer.equalsText decision.word = .ok false)

/-- An answer cannot be read as a decision for a cause: it fails where it is looked for or compared with a word, or,
if it is none of them, where it is shown. -/
inductive Unreadable (answer : Value) (cause : Failure) : Prop
  | lookedFor {decision : InventoryDecision} (failed : Settles answer.isFoundAs decision (.error cause))
      (otherwise : cause.isMissingKey = false ∧ cause.isWrongType = false)
  | compared {decision other : InventoryDecision} {why : Failure}
      (refused : Settles answer.isFoundAs other (.error why))
      (wrongType : why.isWrongType = true)
      (failed : Settles answer.equalsText decision (.error cause))
  | shown (none : StandsForNone answer) (failed : answer.inner = .error cause)

variable {answer : Value} {decision other : InventoryDecision} {cause : Failure}

/-- An answer that stands for a decision is read as it. The words are compared with it in turn, and the first that it
equals decides. -/
theorem ofAnswer_of_standsFor (stands : StandsFor answer decision) : ofAnswer answer = .ok (some decision) := by
  unfold ofAnswer Value.lookUp
  cases stands with
  | found settles => simp [findM?_of_passes settles, bind, Except.bind, pure, Except.pure]
  | equal refused wrongType settles =>
    simp [findM?_of_fails refused, Failure.isMissingKey_of_isWrongType wrongType, wrongType, findM?_of_passes settles, bind, Except.bind, pure,
      Except.pure]

/-- An answer that stands for no decision is looked for in vain. It is then shown. -/
theorem ofAnswer_of_standsForNone (none : StandsForNone answer) :
    ofAnswer answer = answer.inner >>= fun _ => .ok .none := by
  unfold ofAnswer Value.lookUp
  cases none with
  | unfound unfound => simp [findM?_of_none unfound, bind, Except.bind, pure, Except.pure]
  | missing refused missingKey => simp [findM?_of_fails refused, missingKey, bind, Except.bind, pure, Except.pure]
  | unequal refused wrongType unequal =>
    simp [findM?_of_fails refused, Failure.isMissingKey_of_isWrongType wrongType, wrongType, findM?_of_none unequal, bind,
      Except.bind, pure, Except.pure]

/-- An answer that cannot be read fails to be, for the cause that its comparison or its text ends in. -/
theorem ofAnswer_of_unreadable (unreadable : Unreadable answer cause) : ofAnswer answer = .error cause := by
  cases unreadable with
  | lookedFor failed otherwise => simp [ofAnswer, Value.lookUp, findM?_of_fails failed, otherwise, bind, Except.bind]
  | compared refused wrongType failed =>
    simp [ofAnswer, Value.lookUp, findM?_of_fails refused, Failure.isMissingKey_of_isWrongType wrongType, wrongType,
      findM?_of_fails failed, bind, Except.bind]
  | shown none failed =>
    rw [ofAnswer_of_standsForNone none, failed]
    rfl

/-- An answer stands for a decision or for none, or it cannot be read. It is looked for first, and compared only where
its type is wrong for that. -/
theorem standsFor_cases (answer : Value) :
    (∃ decision, StandsFor answer decision) ∨ StandsForNone answer ∨ ∃ cause, Unreadable answer cause := by
  rcases settles_cases answer.isFoundAs with ⟨decision, found⟩ | ⟨refuser, why, refused⟩ | unfound
  · exact .inl ⟨decision, .found found⟩
  · cases wrongType : why.isWrongType with
    | true =>
      rcases settles_cases answer.equalsText with ⟨decision, equal⟩ | ⟨comparer, cause, failed⟩ | unequal
      · exact .inl ⟨decision, .equal refused wrongType equal⟩
      · exact .inr (.inr ⟨cause, .compared refused wrongType failed⟩)
      · exact .inr (.inl (.unequal refused wrongType unequal))
    | false =>
      cases missingKey : why.isMissingKey with
      | true => exact .inr (.inl (.missing refused missingKey))
      | false => exact .inr (.inr ⟨why, .lookedFor refused ⟨missingKey, wrongType⟩⟩)
  · exact .inr (.inl (.unfound unfound))

/-- An answer is read as a decision, fails to be read, or is read as none. In the last case it stands for none and has
a text. -/
theorem ofAnswer_cases (answer : Value) :
    (∃ decision, StandsFor answer decision) ∨ (∃ cause, Unreadable answer cause) ∨ ofAnswer answer = .ok none := by
  rcases standsFor_cases answer with stands | none | unreadable
  · exact .inl stands
  · cases shown : answer.inner with
    | error cause => exact .inr (.inl ⟨cause, .shown none shown⟩)
    | ok text =>
      rw [ofAnswer_of_standsForNone none, shown]
      exact .inr (.inr rfl)
  · exact .inr (.inl unreadable)

/-- An answer is read as a decision exactly if it stands for it. The three cases exclude each other, since each gives
a different reading. -/
theorem ofAnswer_eq_some_iff : ofAnswer answer = .ok (some decision) ↔ StandsFor answer decision := by
  refine ⟨fun read => ?_, ofAnswer_of_standsFor⟩
  rcases ofAnswer_cases answer with ⟨other, stands⟩ | ⟨cause, unreadable⟩ | nothing
  · cases (ofAnswer_of_standsFor stands).symm.trans read
    exact stands
  · cases (ofAnswer_of_unreadable unreadable).symm.trans read
  · cases nothing.symm.trans read

/-- An answer fails to be read exactly for the causes for which it cannot be. Such a failure comes out of the click
where it is no bad value. -/
theorem ofAnswer_eq_error_iff : ofAnswer answer = .error cause ↔ Unreadable answer cause := by
  refine ⟨fun failed => ?_, ofAnswer_of_unreadable⟩
  rcases ofAnswer_cases answer with ⟨other, stands⟩ | ⟨why, unreadable⟩ | nothing
  · cases (ofAnswer_of_standsFor stands).symm.trans failed
  · cases (ofAnswer_of_unreadable unreadable).symm.trans failed
    exact unreadable
  · cases nothing.symm.trans failed

/-- The word itself stands for a decision, and so does an object that extends it, unless a class in its lineage says
how its objects are compared or kept. Then it is compared as the text that it extends. -/
theorem standsFor_word (decision : InventoryDecision) :
    StandsFor (.text decision.word) decision ∧
      ∀ (classes : Classes) (className : String) (attributes : List (String × Value)),
        (∀ c ∈ classes.ancestors className,
          c.dataFields = none ∧ c.item? "__eq__" = none ∧ c.item? "__hash__" = none) →
        StandsFor (.record className (.text decision.word) attributes
          (classes.mannerOf className { core := .text decision.word, attributes })) decision := by
  have apart : ∀ other ∈ decision.before, decision.word ≠ other.word := by cases decision <;> decide
  have stands : Settles (Value.text decision.word).isFoundAs decision (.ok true) := by
    refine ⟨fun other earlier => ?_, ?_⟩
    · simp [Value.isFoundAs_text, apart other earlier]
    · simp [Value.isFoundAs_text]
  refine ⟨.found stands, fun classes className attributes plain => .found ?_⟩
  have inherited : classes.keyNumber className = .inherited := by
    rw [Classes.keyNumber, List.findSome?_eq_none_iff.mpr, Option.getD_none]
    intro c ancestor
    obtain ⟨noFields, noEquality, noNumber⟩ := plain c ancestor
    simp [noFields, noEquality, noNumber]
  have undecided : (classes.ancestors className).find? (fun c => c.dataFields.isSome || (c.item? "__eq__").isSome) =
      none := by
    rw [List.find?_eq_none]
    intro c ancestor
    obtain ⟨noFields, noEquality, -⟩ := plain c ancestor
    simp [noFields, noEquality]
  have same : Value.isFoundAs (.record className (.text decision.word) attributes
      (classes.mannerOf className { core := .text decision.word, attributes })) =
        (Value.text decision.word).isFoundAs := by
    refine funext (Value.isFoundAs_congr ?_ ?_)
    · simp only [Value.number, Classes.mannerOf, Classes.numberOf, inherited]
    · funext word
      simp only [Value.equalsText, Classes.mannerOf, Classes.equalsTextOf, undecided, Option.bind_none]
  rw [same]
  exact stands

end InventoryDecision

/-- What a decision about a click in the player's inventory comes to. -/
def ClickOutcome.ofDecision : InventoryDecision → ClickOutcome
  | .allow => { cancelled := false }
  | .cancel => {}
  | .cancelSilently => { silent := true }

/-- What a click in the player's inventory comes to once the handler of the menu has ended. An answer that is
no decision and a bad value cancel the click with a notice; any other failure is that of the click. -/
def ClickOutcome.afterHandler (menu : String) (ended : Except Failure Value × EngineState) :
    Except Failure ClickOutcome × EngineState :=
  match ended.1 >>= InventoryDecision.ofAnswer with
  | .ok (some decision) => (.ok (ofDecision decision), ended.2)
  | .ok none => (.ok {}, (outcome (note (.noInventoryDecision menu)) ended.2).2)
  | .error cause =>
    if cause.isBadValue then (.ok {}, (outcome (note (.noInventoryDecision menu)) ended.2).2)
    else (.error cause, ended.2)

/-- A handler ends without a decision for a cause: it fails, or it gives an answer that cannot be read. -/
inductive EndsFor (ended : Except Failure Value × EngineState) (cause : Failure) : Prop
  | failed (failed : ended.1 = .error cause)
  | unreadable {answer : Value} (answered : ended.1 = .ok answer)
      (unreadable : InventoryDecision.Unreadable answer cause)

/-- A handler ends without a decision for a cause exactly if its answer is not there to be read, or is not read, for
that cause. -/
theorem endsFor_iff {ended : Except Failure Value × EngineState} {cause : Failure} :
    EndsFor ended cause ↔ ended.1 >>= InventoryDecision.ofAnswer = .error cause := by
  obtain ⟨result, t⟩ := ended
  constructor
  · rintro (failed | ⟨answered, unreadable⟩)
    · cases failed
      rfl
    · cases answered
      exact InventoryDecision.ofAnswer_of_unreadable unreadable
  · intro stopped
    cases result with
    | error why =>
      cases stopped
      exact .failed rfl
    | ok answer => exact .unreadable rfl (InventoryDecision.ofAnswer_eq_error_iff.mp stopped)

/-- A click about which a handler was asked fails exactly if the handler ends without a decision, for anything but a
bad value. The failure is then that cause. -/
theorem ClickOutcome.afterHandler_error {menu : String} {ended : Except Failure Value × EngineState}
    {cause : Failure} {t : EngineState} :
    afterHandler menu ended = (.error cause, t) ↔
      (EndsFor ended cause ∧ ended.2 = t) ∧ cause.isBadValue = false := by
  rw [endsFor_iff]
  unfold afterHandler
  rcases ended.1 >>= InventoryDecision.ofAnswer with why | _ | decision
  · dsimp only
    cases bad : why.isBadValue with
    | true =>
      simp only [if_true, Prod.mk.injEq, reduceCtorEq, false_and, Except.error.injEq, false_iff, not_and]
      rintro ⟨rfl, -⟩
      simp [bad]
    | false =>
      simp only [Bool.false_eq_true, if_false, Prod.mk.injEq, Except.error.injEq]
      constructor
      · rintro ⟨rfl, same⟩
        exact ⟨⟨rfl, same⟩, bad⟩
      · exact And.left
  · simp
  · simp

/-- If the handler gives a decision, the click comes to it. No notice is left then. -/
theorem ClickOutcome.afterHandler_of_standsFor {menu : String} {ended : Except Failure Value × EngineState}
    {answer : Value} {decision : InventoryDecision} (answered : ended.1 = .ok answer)
    (stands : InventoryDecision.StandsFor answer decision) :
    afterHandler menu ended = (.ok (ofDecision decision), ended.2) := by
  have read : ended.1 >>= InventoryDecision.ofAnswer = .ok (some decision) := by
    rw [answered]
    exact InventoryDecision.ofAnswer_of_standsFor stands
  rw [afterHandler, read]

/-- If it ends without a decision for a bad value, the click is cancelled. That is noted for the menu. -/
theorem ClickOutcome.afterHandler_of_isBadValue {menu : String} {ended : Except Failure Value × EngineState}
    {cause : Failure} (ends : EndsFor ended cause) (badValue : cause.isBadValue = true) :
    afterHandler menu ended = (.ok {}, (outcome (note (.noInventoryDecision menu)) ended.2).2) := by
  rw [afterHandler, endsFor_iff.mp ends]
  exact if_pos badValue

section

variable {calling : Calling} {s : EngineState} {ref : Nat} {slot : Int} {type : ClickType}

/-- A menu that keeps the player's inventory closed, or that has no handler for it, asks nobody. The click is
cancelled and the state stays the same. -/
theorem outcome_clickInventory_unasked {click : ClickContext} {menu : Menu}
    (nobody : menu.playerInventory = true → s.inventoryHandlers.find? menu.id = none) :
    outcome (clickInventory calling click menu) s = (.ok {}, s) := by
  unfold clickInventory
  cases enabled : menu.playerInventory with
  | false => rfl
  | true =>
    simp only [Bool.not_true, Bool.false_eq_true, if_false]
    rw [outcome_bind_ok _ (outcome_get s), nobody enabled]
    rfl

/-- A handler that is asked about a click in the player's inventory decides it. The callback runs first, with all it
does to the state, and what it ends in is then read. -/
theorem outcome_clickInventory_asked {click : ClickContext} {menu : Menu} {handler : Callback}
    (enabled : menu.playerInventory = true)
    (registered : s.inventoryHandlers.find? menu.id = some handler) :
    outcome (clickInventory calling click menu) s =
      ClickOutcome.afterHandler menu.id (outcome (calling click.actor (.context click) handler) s) := by
  unfold clickInventory
  simp only [enabled, Bool.not_true, Bool.false_eq_true, if_false]
  rw [outcome_bind_ok _ (outcome_get s), registered]
  dsimp only
  rw [outcome_bind, outcome_tryCatch, outcome_bind_ofExcept]
  unfold ClickOutcome.afterHandler
  generalize outcome (calling click.actor (.context click) handler) s = ended
  rcases ended.1 >>= InventoryDecision.ofAnswer with cause | _ | _ | _ | _
  · dsimp only
    cases cause.isBadValue <;> rfl
  all_goals rfl

/-- A click of an actor with a key comes to what it is for. There are four things that it can be for, and the target
tells which. -/
theorem outcome_clickWith (keyed : s.Keyed ref) :
    outcome (clickWith calling ref slot type) s =
      match s.clickTarget ref slot with
      | .nothing | .placeable => (.ok { cancelled := false }, s)
      | .goneMenu name =>
        (.ok {}, (outcome (note (.unknownMenuOpen (s.actor ref).label name)) s).2)
      | .noSlot => (.ok {}, s)
      | .inventory menu =>
        outcome (clickInventory calling { actor := ref, menu := menu.id, slot, type } menu) s
      | .slot session menu =>
        let clicked := s.screen.itemAt (s.actor ref).key slot
        let click : ClickContext := { actor := ref, menu := menu.id, slot, clicked, type }
        let found := menu.itemAtSlot slot session.page
        (.ok { itemKey := found.map (·.1), executed := executedActions found },
          done calling click (deedsOfClick calling click found s) s) := by
  unfold clickWith EngineState.clickTarget EngineState.session?
  rw [outcome_bind_ok _ (outcome_keyOf keyed), outcome_bind_ok _ (outcome_get s)]
  cases s.sessions.get? (s.actor ref).key with
  | none => rfl
  | some session =>
    dsimp only
    cases s.menu? session.menu with
    | none => rfl
    | some menu =>
      dsimp only
      by_cases negative : slot < 0
      · rw [if_pos negative, if_pos negative]
        rfl
      by_cases below : menu.size ≤ slot
      · rw [if_neg negative, if_neg negative, if_pos below, if_pos below]
      cases fixed : menu.isPlaceable slot with
      | true =>
        rw [if_neg negative, if_neg negative, if_neg below, if_neg below]
        rfl
      | false =>
        rw [if_neg negative, if_neg negative, if_neg below, if_neg below]
        exact outcome_clickSlot _ s

/-- A click that nobody is asked to decide is answered, whatever callbacks do. Each callback on its way is guarded. -/
theorem clickWith_answers (keyed : s.Keyed ref) (unasked : s.decider? ref slot = none) :
    ∃ answer t, outcome (clickWith calling ref slot type) s = (.ok answer, t) := by
  rw [outcome_clickWith keyed]
  cases target : s.clickTarget ref slot with
  | inventory menu =>
    exact ⟨_, _, outcome_clickInventory_unasked (s.unregistered_of_decider?_eq_none unasked target)⟩
  | nothing => exact ⟨_, _, rfl⟩
  | goneMenu name => exact ⟨_, _, rfl⟩
  | noSlot => exact ⟨_, _, rfl⟩
  | placeable => exact ⟨_, _, rfl⟩
  | slot session menu => exact ⟨_, _, rfl⟩

/-- A click that a handler is asked to decide comes to what the handler says. What the handler does to the state is
done by then. -/
theorem outcome_clickWith_asked {menu : Menu} {handler : Callback} (keyed : s.Keyed ref)
    (asked : s.decider? ref slot = some (menu, handler)) :
    outcome (clickWith calling ref slot type) s = ClickOutcome.afterHandler menu.id
      (outcome (calling ref (.context { actor := ref, menu := menu.id, slot, type }) handler) s) := by
  obtain ⟨target, enabled, registered⟩ := EngineState.decider?_eq_some asked
  rw [outcome_clickWith keyed, target]
  exact outcome_clickInventory_asked enabled registered

/-- A click of an actor with a key fails exactly if a handler is asked to decide about it that ends without a
decision for anything but a bad value, and then for the same cause; no other callback and no other failure keeps
a click from being answered. The handler ends so if it fails, and also if its answer fails where it is compared with
the words for decisions or, being none of them, where it is shown. If the cause is a bad value, the click is cancelled.

Proof: a click about which nobody is asked is answered by `clickWith_answers`, each callback on its way being guarded.
Any other click comes to what `afterHandler` makes of the end of the handler, which is read off case by case. -/
theorem click_fails_iff (calling : Calling) (slot : Int) (type : ClickType) (keyed : s.Keyed ref) :
    (∀ cause t, outcome (clickWith calling ref slot type) s = (.error cause, t) ↔
      ∃ menu handler, s.decider? ref slot = some (menu, handler) ∧
        (EndsFor (outcome (calling ref (.context { actor := ref, menu := menu.id, slot, type }) handler) s) cause ∧
          (outcome (calling ref (.context { actor := ref, menu := menu.id, slot, type }) handler) s).2 = t) ∧
        cause.isBadValue = false) ∧
      ∀ menu handler cause, s.decider? ref slot = some (menu, handler) →
        EndsFor (outcome (calling ref (.context { actor := ref, menu := menu.id, slot, type }) handler) s) cause →
        cause.isBadValue = true →
        outcome (clickWith calling ref slot type) s =
          (.ok { cancelled := true, itemKey := none, executed := [], silent := false },
            (outcome (note (.noInventoryDecision menu.id))
              (outcome (calling ref (.context { actor := ref, menu := menu.id, slot, type }) handler) s).2).2) := by
  constructor
  · intro cause t
    constructor
    · intro failed
      cases asked : s.decider? ref slot with
      | none =>
        obtain ⟨answer, u, answered⟩ := clickWith_answers keyed asked
        rw [answered] at failed
        cases failed
      | some decider =>
        obtain ⟨menu, handler⟩ := decider
        rw [outcome_clickWith_asked keyed asked] at failed
        exact ⟨menu, handler, rfl, ClickOutcome.afterHandler_error.mp failed⟩
    · rintro ⟨menu, handler, asked, ends⟩
      rw [outcome_clickWith_asked keyed asked]
      exact ClickOutcome.afterHandler_error.mpr ends
  · intro menu handler cause asked ends badValue
    rw [outcome_clickWith_asked keyed asked]
    exact ClickOutcome.afterHandler_of_isBadValue ends badValue

end

/-- The menu of the small shop, when it lets clicks in the player's inventory through. -/
def bagMenu : Menu :=
  { smallMenu with playerInventory := true }

/-- A shop with that menu, which the first actor has open; the handler of the inventory fails in a way of
its own. -/
def bagShop (kind : ReportedKind) : EngineState :=
  { smallShop with
    menus := [("shop", bagMenu)]
    inventoryHandlers := [("shop", .script "bag" [.raise kind "boom"])] }.entering
      (.text "ann") 0 bagMenu .null

end

/-- In a shop whose handler reports a bad value, a click in the bag is cancelled. -/
theorem click_bagShop_cancelled :
    (bagShop .value).Keyed 0 ∧
      (outcome (click 0 9 .left) (bagShop .value)).1 =
        .ok { cancelled := true, itemKey := none, executed := [], silent := false } := by
  have keyed : (bagShop .value).Keyed 0 := rfl
  have asked : (bagShop .value).decider? 0 9 =
      some (bagMenu, .script "bag" [.raise .value "boom"]) := rfl
  have cancelled := (click_fails_iff call 9 .left keyed).2 _ _ (.reported .value "boom") asked (.failed rfl) rfl
  exact ⟨keyed, congrArg Prod.fst cancelled⟩

/-- In the shop whose handler fails for anything else, the failure is that of the click. -/
theorem click_bagShop_fails :
    (outcome (click 0 9 .left) (bagShop .runtime)).1 = .error (.reported .runtime "boom") := rfl

end ChestMenu
