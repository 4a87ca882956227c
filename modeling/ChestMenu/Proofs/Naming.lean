import ChestMenu.Proofs.Dispatch
import ChestMenu.Proofs.Registries

/-!
# One name, one menu

A menu is asked for by its id or by the name of a file, in any case; what is registered for a menu is filed under what
such a name stands for, and looked for under the id of the menu that was found. These are two ways, and they meet: a
name finds a menu exactly if the id of the menu has the same key as the name.

So whatever was registered under a name is what a menu is asked for that the name finds, no matter how either was
written, as long as nothing else was registered in its place and it was not removed.
-/
namespace ChestMenu

open Engine

section

namespace EngineState

/-- Every menu is registered under its own id. -/
def OwnIds (s : EngineState) : Prop :=
  ∀ id menu, s.menus.get? id = some menu → menu.id = id

/-- A menu is the first of those whose ids are what a name stands for, whatever their case. -/
def IsFirst (s : EngineState) (name : String) (menu : Menu) : Prop :=
  ∃ before after, s.menus = before ++ (menu.id, menu) :: after ∧
    MenuName.key menu.id = MenuName.key (MenuName.toId name) ∧
    ∀ pair ∈ before, MenuName.key pair.1 ≠ MenuName.key (MenuName.toId name)

variable {s : EngineState} {name : String} {menu : Menu}

/-- A name finds the menu with the very id that it stands for, or else the first whose id differs from it in case
only. Menus are kept under their own ids, so a menu is found by looking at ids alone. -/
theorem menu?_eq_some_iff (own : s.OwnIds) :
    s.menu? name = some menu ↔ s.menus.get? (MenuName.toId name) = some menu ∨
      (s.menus.get? (MenuName.toId name) = none ∧ s.IsFirst name menu) := by
  unfold menu?
  dsimp only
  rw [Option.or_eq_some_iff]
  refine or_congr Iff.rfl (and_congr_right fun _ => ?_)
  rw [Option.map_eq_some_iff]
  constructor
  · rintro ⟨pair, found, rfl⟩
    obtain ⟨same, before, after, split, others⟩ := List.find?_eq_some_iff_append.mp found
    have isKey : MenuName.key pair.1 = MenuName.key (MenuName.toId name) := by simpa using same
    have apart : ∀ other ∈ before, MenuName.key other.1 ≠ MenuName.key (MenuName.toId name) := by
      simpa using others
    -- No pair before has an id that differs in case only, and so none has the id itself.
    have different : ∀ other ∈ before, other.1 ≠ pair.1 := by
      intro other member same
      apply apart other member
      rw [same]
      exact isKey
    have registered : s.menus.get? pair.1 = some pair.2 := by
      rw [split, OrderedMap.get?_append different]
      exact if_pos rfl
    have isId := own pair.1 pair.2 registered
    exact ⟨before, after, by rw [split, isId], by rw [isId]; exact isKey, apart⟩
  · rintro ⟨before, after, split, isKey, apart⟩
    refine ⟨(menu.id, menu), ?_, rfl⟩
    exact List.find?_eq_some_iff_append.mpr
      ⟨by simpa using isKey, before, after, split, by simpa using apart⟩

/-- A name finds a menu exactly if some menu has an id that differs from what the name stands for in case at most.
Which of several is found is another matter. -/
theorem isSome_menu?_iff : (s.menu? name).isSome = true ↔
    ∃ pair ∈ s.menus, MenuName.key pair.1 = MenuName.key (MenuName.toId name) := by
  unfold menu?
  dsimp only
  rw [Option.isSome_or, Option.isSome_map, Bool.or_eq_true, List.find?_isSome]
  constructor
  · rintro (exact | ⟨pair, member, same⟩)
    · obtain ⟨menu, found⟩ := Option.isSome_iff_exists.mp exact
      exact ⟨(MenuName.toId name, menu), OrderedMap.mem_of_get? found, by dsimp only⟩
    · exact ⟨pair, member, by simpa using same⟩
  · rintro ⟨pair, member, same⟩
    exact Or.inr ⟨pair, member, by simpa using same⟩

/-- The menu that a name finds is filed under what the name is filed under. This is the key under which handlers and
placeholders of the menu are kept. -/
theorem key_of_menu? (own : s.OwnIds) (known : s.menu? name = some menu) :
    MenuName.key menu.id = MenuName.key (MenuName.toId name) := by
  rcases (menu?_eq_some_iff own).mp known with exact | ⟨-, before, after, -, same, -⟩
  · rw [own _ _ exact]
  · exact same

end EngineState

/-- The style of the triggers that one kind of handlers is for. -/
def TriggerStyle.ofLegacy (legacy : Bool) : TriggerStyle :=
  if legacy then .legacy else .context

/-- The scopes of a registry that are asked before the scope of menus. -/
def HandlerRegistry.beforeMenus (r : HandlerRegistry) : HandlerRegistry :=
  { r with scopes := r.scopes.takeWhile (· != .menu) }

namespace EngineState

/-- What a handler of one kind is told about a click. -/
def triggerInfo (s : EngineState) (legacy : Bool) (click : ClickContext) : CallInfo :=
  if legacy then .trigger (s.actor click.actor).id click else .context click

/-- The keys that handlers of one kind are looked for under. Only legacy handlers are kept for actors. -/
def handlerKeys (s : EngineState) (legacy : Bool) (click : ClickContext) : HandlerScope → Option String
  | .actor => if legacy then (s.actor click.actor).textId? else none
  | .menu => some click.menu
  | _ => none

end EngineState

/-- A handler that is found on a click is called. Firing comes to the call, and what the callback answers is dropped. -/
theorem outcome_fireTrigger {calling : Calling} {s : EngineState} {legacy : Bool} {click : ClickContext}
    {name : String} {callback : Callback} {scope : HandlerScope}
    (found : (s.handlers legacy).lookup name (s.handlerKeys legacy click) = some (callback, scope)) :
    outcome (fireTrigger calling name (.ofLegacy legacy) click) s =
      outcome (calling click.actor (s.triggerInfo legacy click) callback >>= fun _ => pure ()) s := by
  -- The keys are written out for each kind, and are the same for each scope.
  have asked {r : HandlerRegistry} {keys : HandlerScope → Option String} (isRegistry : s.handlers legacy = r)
      (same : ∀ scope, keys scope = s.handlerKeys legacy click scope) :
      r.lookup name keys = some (callback, scope) := by
    rw [← isRegistry, funext same]
    exact found
  cases legacy with
  | true =>
    change outcome (fireTrigger calling name .legacy click) s = _
    unfold fireTrigger
    rw [outcome_bind_ok _ (outcome_get s)]
    dsimp only
    rw [asked (r := s.legacyHandlers) rfl]
    · rfl
    · rintro ⟨⟩ <;> rfl
  | false =>
    change outcome (fireTrigger calling name .context click) s = _
    unfold fireTrigger
    rw [outcome_bind_ok _ (outcome_get s)]
    dsimp only
    rw [asked (r := s.contextHandlers) rfl]
    · rfl
    · rintro ⟨⟩ <;> rfl

/-- The handler that lies in the bucket of a menu is found if no scope that is asked before has one. Those are the
scopes that stand before the menus in the order of the registry. -/
theorem HandlerRegistry.lookup_menu {r : HandlerRegistry} {name id : String} {callback : Callback}
    {keys : HandlerScope → Option String} (asked : r.scopes.contains .menu = true)
    (isMenu : keys .menu = some id) (notEmpty : id ≠ "")
    (lies : r.held? (.menu, some (MenuName.key id)) name = some callback)
    (unclaimed : r.beforeMenus.lookup name keys = none) :
    r.lookup name keys = some (callback, .menu) := by
  have bucket : bucketFor? .menu keys = some (.menu, some (MenuName.key id)) := by
    unfold bucketFor?
    rw [isMenu, HandlerScope.fileKey_menu.mpr ⟨id, rfl, notEmpty, rfl⟩]
  obtain ⟨handlers, there, isHandler⟩ := Option.bind_eq_some_iff.mp lies
  unfold beforeMenus at unclaimed
  unfold lookup at unclaimed ⊢
  dsimp only at unclaimed
  -- The scopes are asked one after another; the first that is for menus has the handler.
  generalize r.scopes = scopes at asked unclaimed ⊢
  induction scopes with
  | nil => simp at asked
  | cons scope scopes ih =>
    by_cases first : scope = .menu
    · subst first
      simp [bucket, there, isHandler]
    · have later : (scope != .menu) = true := by simpa using first
      rw [List.takeWhile_cons, if_pos later, List.findSome?_cons] at unclaimed
      rw [List.findSome?_cons]
      split at unclaimed
      · cases unclaimed
      · exact ih (by simpa [Ne.symm first] using asked) unclaimed

/-- The rest of the building of a table, above the texts of the registered placeholders. -/
def Placeholders.above [Machine] (classes : Classes) (p : Placeholders) (actor : Actor) (menu : Menu)
    (view : Option View) (registered : Placeholder.Table) :
    ExceptT Failure Resolving Placeholder.Table := do
  let contextual ← p.ofContext classes actor ((view.map (·.context)).getD .null)
  let paged ← ExceptT.mk (pure (ofPage menu ((view.map (·.page)).getD 0)))
  return (((Placeholder.tokenTable menu.placeholders).putAll registered).putAll contextual).putAll paged

/-- What was registered for a menu is what is asked for it: the handler by every trigger of its name on the menu
that no handler of a scope before takes, the callback of the slot by every click there, the handler of the
inventory by every click there that the menu lets through, and the policy by the scheduler. A placeholder is
asked whenever a table is built, and what is asked after it for the same token is registered for the actor. -/
def Registration.IsAsked [Machine] (r : Registration) (s : EngineState) (menu : Menu) : Prop :=
  match r with
  | handler legacy name callback =>
    ∀ (calling : Calling) (click : ClickContext) (word : String), click.menu = menu.id →
      HandlerRegistry.SameName word name →
      (s.handlers legacy).beforeMenus.lookup word (s.handlerKeys legacy click) = none →
      outcome (fireTrigger calling word (.ofLegacy legacy) click) s =
        outcome (calling click.actor (s.triggerInfo legacy click) callback >>= fun _ => pure ()) s
  | slot number callback =>
    ∀ (calling : Calling) (click : ClickContext), click.menu = menu.id → click.slot = number →
      outcome (fireSlot calling click) s = (.ok (), done calling click [.callSlot callback] s)
  | inventory callback =>
    ∀ (calling : Calling) (click : ClickContext), menu.playerInventory = true →
      outcome (clickInventory calling click menu) s =
        ClickOutcome.afterHandler menu.id (outcome (calling click.actor (.context click) callback) s)
  | placeholder name resolver =>
    ∀ (classes : Classes) (actor : Actor) (view : Option View), ∃ before after,
      (∀ pair ∈ after, pair.1 = Placeholder.token name →
        pair ∈ PlaceholderRegistry.layer s.placeholders.registry.byActor actor.key) ∧
      s.placeholders.build classes actor menu view = (do
        let below ← Resolver.putTexts classes actor .nothing [] before
        let own ← Resolver.putTexts classes actor .nothing below [(Placeholder.token name, resolver)]
        let registered ← Resolver.putTexts classes actor .nothing own after
        s.placeholders.above classes actor menu view registered)
  | policy chosen => s.policyFor menu = chosen

/-- The texts of the resolvers of two lists are put into a table one list after the other. A text of the second list
lies above one of the first for the same token. -/
theorem Resolver.putTexts_append [Machine] (classes : Classes) (actor : Actor) (topic : Topic)
    (table : Placeholder.Table) (first rest : List (String × Resolver)) :
    putTexts classes actor topic table (first ++ rest) =
      putTexts classes actor topic table first >>= fun table => putTexts classes actor topic table rest := by
  unfold putTexts
  exact List.foldlM_append

/-- A map that holds each key once is a pair of it with what is before and after. Neither of these holds the key. -/
theorem OrderedMap.split_of_get? {α β : Type} [DecidableEq α] {key : α} {value : β} {m : OrderedMap α β}
    (once : m.keys.Nodup) (found : m.get? key = some value) :
    ∃ before after, m = before ++ (key, value) :: after ∧ ∀ pair ∈ after, pair.1 ≠ key := by
  obtain ⟨before, after, rfl⟩ := List.append_of_mem (OrderedMap.mem_of_get? found)
  refine ⟨before, after, rfl, fun pair member same => ?_⟩
  have keys : ((before.map (·.1)) ++ key :: after.map (·.1)).Nodup := by simpa [OrderedMap.keys] using once
  obtain ⟨-, later, -⟩ := List.nodup_append.mp keys
  exact (List.nodup_cons.mp later).1 (List.mem_map.mpr ⟨pair, member, same⟩)

namespace Registration

variable {r : Registration} {s : EngineState} {menu : Menu}

/-- What lies in its registry under the key of a menu is asked for the menu. Each of the six registries has its own
way of asking, and the cases are those of the registration. -/
theorem LiesUnder.isAsked [Machine] (lies : r.LiesUnder (MenuName.key menu.id) s) : r.IsAsked s menu := by
  cases r with
  | handler legacy name callback =>
    intro calling click word isMenu isName unclaimed
    obtain ⟨notEmpty, asked, held⟩ := lies
    have isId : menu.id ≠ "" := by
      intro empty
      rw [empty] at notEmpty
      exact notEmpty rfl
    refine outcome_fireTrigger (HandlerRegistry.lookup_menu asked ?_ isId ?_ unclaimed)
    · exact congrArg some isMenu
    · unfold HandlerRegistry.held? at held ⊢
      rwa [HandlerRegistry.fileName_eq_iff.mpr isName]
  | slot number callback =>
    intro calling click isMenu isNumber
    have found : s.slotHandlers.find? click.menu click.slot = some callback := by
      rw [isMenu, isNumber]
      exact lies
    rw [outcome_fireSlot]
    unfold deedsOfSlot
    rw [found]
    rfl
  | inventory callback =>
    intro calling click enabled
    exact outcome_clickInventory_asked enabled lies
  | placeholder name resolver =>
    intro classes actor view
    obtain ⟨once, found⟩ := lies
    obtain ⟨before, after, split, others⟩ := OrderedMap.split_of_get? once found
    let registry := s.placeholders.registry
    refine ⟨registry.everywhere ++ before,
      after ++ PlaceholderRegistry.layer registry.byActor actor.key, ?_, ?_⟩
    · intro pair member same
      rcases List.mem_append.mp member with later | isActor
      · exact absurd same (others pair later)
      · exact isActor
    · have layers : (registry.layers actor menu.id).flatten =
          (registry.everywhere ++ before) ++ ((Placeholder.token name, resolver) ::
            (after ++ PlaceholderRegistry.layer registry.byActor actor.key)) := by
        simp only [PlaceholderRegistry.layers, List.flatten_cons, List.flatten_nil, List.append_nil]
        rw [split]
        simp only [List.append_assoc, List.cons_append]
      have built : s.placeholders.build classes actor menu view =
          registry.resolveAll classes actor menu.id >>= s.placeholders.above classes actor menu view := rfl
      rw [built]
      unfold PlaceholderRegistry.resolveAll
      rw [layers, ← List.singleton_append]
      simp only [Resolver.putTexts_append, bind_assoc]
  | policy chosen =>
    have found : s.policies.get? (MenuName.key menu.id) = some chosen := lies
    unfold IsAsked EngineState.policyFor
    rw [found]
    rfl

end Registration

/-- What a host has registered under a name is what the menu is asked for that the name finds, until something is
registered in its place or it is removed, provided that every menu is registered under its own id. A name finds a menu
exactly if there is one whose id is what the name stands for, whatever the case: the one with the very id, and
otherwise the first.

Proof: what is registered lies under the key of the id from then on (`Registration.liesUnder_of_register`), and
nothing that is asked for in between takes it away (`LiesUnder.of_since`). A menu that is found under a word has that
key as its own. -/
theorem asked_since_registered [Machine] {s u t : EngineState} {r : Registration} {name : String}
    (once : (PlaceholderRegistry.layer s.placeholders.registry.byMenu
      (MenuName.key (MenuName.toId name))).keys.Nodup)
    (registered : outcome (r.register name) s = (.ok (), u))
    (since : r.Since (MenuName.key (MenuName.toId name)) u t) (own : t.OwnIds) :
    (∀ menu, t.menu? name = some menu → r.IsAsked t menu) ∧
      ∀ word,
        ((t.menu? word).isSome = true ↔
          ∃ pair ∈ t.menus, MenuName.key pair.1 = MenuName.key (MenuName.toId word)) ∧
        ∀ menu, t.menu? word = some menu ↔ t.menus.get? (MenuName.toId word) = some menu ∨
          (t.menus.get? (MenuName.toId word) = none ∧ t.IsFirst word menu) := by
  constructor
  · intro menu known
    have lies := (Registration.liesUnder_of_register once registered).of_since since
    rw [← EngineState.key_of_menu? own known] at lies
    exact lies.isAsked
  · exact fun word => ⟨EngineState.isSome_menu?_iff, fun menu => EngineState.menu?_eq_some_iff own⟩

/-- A callback for the door of the small shop. -/
def doorbell : Registration :=
  .slot 0 (.script "bell" [.message "Hello"])

/-- The small shop once the callback was registered, and others for another menu, which are gone again. -/
def belledShop : EngineState :=
  Removal.apply (outcome (registerSlotHandler "attic.json" 0 (.script "creak" []))
    (outcome (doorbell.register "menus/SHOP.yml") smallShop).2).2 (.slots "Attic")

end

/-- In a shop that has a callback registered for its door, the menu is found under another spelling of its name, and
the callback is asked about clicks on the door. -/
theorem asked_belledShop :
    ∃ menu, belledShop.menu? "menus/SHOP.yml" = some menu ∧ doorbell.IsAsked belledShop menu := by
  have registered : outcome (doorbell.register "menus/SHOP.yml") smallShop = (.ok (), _) := rfl
  have key : MenuName.key (MenuName.toId "menus/SHOP.yml") = "shop" := by decide +kernel
  have left : doorbell.IsLeftBy "shop" (.registerSlotHandler "attic.json" 0 (.script "creak" [])) := by
    rintro ⟨-, same⟩
    exact absurd same (by decide +kernel)
  have gone : ¬(Removal.slots "Attic").IsFor "shop" doorbell := by
    have other : MenuName.key "Attic" ≠ "shop" := by decide +kernel
    exact other
  have since : doorbell.Since "shop" _ belledShop :=
    (Registration.Since.here.called _ call (.ask _ call left fun _ none => by cases none)).removed
      (.slots "Attic") gone
  have own : belledShop.OwnIds := by
    intro id menu found
    have only : (id, menu) ∈ [("shop", smallMenu)] := OrderedMap.mem_of_get? found
    cases List.mem_singleton.mp only
    rfl
  have known : (belledShop.menu? "menus/SHOP.yml").isSome = true := by decide +kernel
  obtain ⟨menu, found⟩ := Option.isSome_iff_exists.mp known
  rw [← key] at since
  exact ⟨menu, found, (asked_since_registered (by decide) registered since own).1 menu found⟩

end ChestMenu
