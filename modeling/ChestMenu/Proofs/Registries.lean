import ChestMenu.Engine.Registry
import ChestMenu.Proofs.Drawing
import ChestMenu.Proofs.Upkeep

/-!
# What is registered for a menu, and how long it stays

Five registries and the policies keep what is registered for menus, each for itself and under the key of the menu.
Whatever else a host asks for, and whatever callbacks do, leaves what is filed there alone: opening and closing menus,
drawing, ticks, and menus that come and go. Only what is registered for the same purpose under the same key takes its
place, and only a removal from the registry itself takes it away.

Menus that are closed do remove handlers, but those of actors; the handlers of menus lie in other buckets.
-/
namespace ChestMenu

open Engine

/-- The handlers of one kind. -/
def EngineState.handlers (s : EngineState) (legacy : Bool) : HandlerRegistry :=
  if legacy then s.legacyHandlers else s.contextHandlers

/-- The handler of a name that is filed in a bucket. -/
def HandlerRegistry.held? (r : HandlerRegistry) (bucket : Bucket) (name : String) : Option Callback :=
  (r.buckets.get? bucket).bind (·.get? (fileName name))

/-- Nothing that is registered for menus has changed. Handlers of actors may have. -/
structure AsRegistered (s t : EngineState) : Prop where
  scopes : t.legacyHandlers.scopes = s.legacyHandlers.scopes := by rfl
  legacy : ∀ bucket, bucket.1 ≠ HandlerScope.actor →
    t.legacyHandlers.buckets.get? bucket = s.legacyHandlers.buckets.get? bucket := by intros; rfl
  context : t.contextHandlers = s.contextHandlers := by rfl
  slots : t.slotHandlers = s.slotHandlers := by rfl
  inventory : t.inventoryHandlers = s.inventoryHandlers := by rfl
  placeholders : t.placeholders = s.placeholders := by rfl
  policies : t.policies = s.policies := by rfl

namespace AsRegistered

variable {s t : EngineState}

/-- A change beside the registries leaves everything as it is registered. Menus, sessions, surfaces and time are of
this kind. -/
theorem of_alongside (same : Alongside s t) : AsRegistered s t where
  scopes := by rw [same.legacyHandlers]
  legacy _ _ := by rw [same.legacyHandlers]
  context := same.contextHandlers
  slots := same.slotHandlers
  inventory := same.inventoryHandlers
  placeholders := same.placeholders
  policies := same.policies

/-- Taking away the handlers of an actor leaves what is registered for menus, as the two are in different buckets. -/
theorem left (s : EngineState) (ref : Nat) : AsRegistered s (s.left ref) where
  scopes := HandlerRegistry.scopes_withoutActor _ _
  legacy bucket other := by
    exact (HandlerRegistry.get?_withoutActor _ _ _).trans
      (if_neg fun ⟨_, same⟩ => other (congrArg Prod.fst same).symm)

end AsRegistered

/-- The key of a menu is filed under the id that it names, without its case. It has to be there and not to be empty. -/
theorem HandlerScope.fileKey_menu {key filed : Option String} :
    HandlerScope.menu.fileKey key = .ok filed ↔
      ∃ id, key = some id ∧ id ≠ "" ∧ filed = some (MenuName.key id) := by
  unfold fileKey
  split <;> simp_all
  exact eq_comm

namespace HandlerRegistry

variable {r changed : HandlerRegistry} {name : String} {handler : Callback} {scope : HandlerScope} {key : Option String}

/-- Two names are those of the same handlers: in capitals and without the blanks around them they are one text. -/
def SameName (word name : String) : Prop :=
  Text.upper (Text.trim word) = Text.upper (Text.trim name)
deriving Decidable

/-- The names of the same handlers are filed alike, and no others are. This is where the way of filing comes in:
afterwards names are only compared as the host spells them. -/
theorem fileName_eq_iff {word name : String} : fileName word = fileName name ↔ SameName word name :=
  Iff.rfl

/-- The registry with a handler filed in a bucket. -/
def filing (r : HandlerRegistry) (bucket : Bucket) (name : String) (handler : Callback) : HandlerRegistry :=
  { r with buckets := r.buckets.put bucket (((r.buckets.get? bucket).getD []).put (fileName name) handler) }

/-- A handler is registered if it can be called, in a scope that is asked, with a key if the scope needs one. The
three conditions are asked for in an order, but each refusal leaves the registry as it was. -/
theorem register_eq_ok : r.register name handler scope key = .ok changed ↔
    handler.isCallable = true ∧ r.scopes.contains scope = true ∧
      ∃ filed, scope.fileKey key = .ok filed ∧ changed = r.filing (scope, filed) name handler := by
  unfold register
  cases callable : handler.isCallable with
  | false => simp
  | true =>
    cases asked : r.scopes.contains scope with
    | false => simp
    | true =>
      cases found : scope.fileKey key with
      | error cause => exact iff_of_false nofun fun ⟨_, _, _, same, _⟩ => by cases same
      | ok filed =>
        constructor
        · intro done
          cases done
          exact ⟨rfl, rfl, filed, rfl, rfl⟩
        · rintro ⟨-, -, _, same, rfl⟩
          cases same
          rfl

/-- A handler that is filed is the one of its name in its bucket. Every other name in the bucket keeps its handler,
and so do the other buckets. -/
theorem held?_filing (bucket filed : Bucket) (word name : String) :
    (r.filing bucket word handler).held? filed name =
      if bucket = filed ∧ SameName word name then some handler else r.held? filed name := by
  unfold held? filing
  rw [OrderedMap.get?_put]
  by_cases own : bucket = filed
  · rw [if_pos own, Option.bind_some, OrderedMap.get?_put, own]
    by_cases same : SameName word name
    · rw [if_pos (fileName_eq_iff.mpr same), if_pos ⟨rfl, same⟩]
    · rw [if_neg (mt fileName_eq_iff.mp same), if_neg fun both => same both.2]
      cases r.buckets.get? filed <;> rfl
  · rw [if_neg own, if_neg fun both => own both.1]

/-- Taking a name out of a bucket leaves the other names and buckets alone. A bucket that loses its last name stays,
with nothing in it. -/
theorem held?_adjust (bucket filed : Bucket) (word name : String) :
    held? { r with buckets := r.buckets.adjust bucket fun handlers => handlers.erase (fileName word) } filed name =
      if bucket = filed ∧ SameName word name then none else r.held? filed name := by
  unfold held?
  rw [OrderedMap.get?_adjust]
  by_cases own : bucket = filed
  · rw [if_pos own]
    cases r.buckets.get? filed with
    | none => simp
    | some handlers => simp [OrderedMap.get?_erase, own, fileName_eq_iff]
  · rw [if_neg own, if_neg fun both => own both.1]

/-- Dropping a bucket leaves the others alone. All names of the bucket go at once then. -/
theorem held?_erase (bucket filed : Bucket) (name : String) :
    held? { r with buckets := r.buckets.erase bucket } filed name =
      if bucket = filed then none else r.held? filed name := by
  unfold held?
  rw [OrderedMap.get?_erase]
  split <;> rfl

end HandlerRegistry

/-- A change of a registry of handlers, under one name or under all of a key. -/
inductive HandlerChange where
  | register (name : String) (handler : Callback) (scope : HandlerScope) (key : Option String)
  | unregister (name : String) (scope : HandlerScope) (key : Option String)
  | clearScope (scope : HandlerScope) (key : Option String)

namespace HandlerChange

/-- The registry after the change. -/
def apply : HandlerChange → HandlerRegistry → Except Failure HandlerRegistry
  | register name handler scope key, r => r.register name handler scope key
  | unregister name scope key, r => r.unregister name scope key
  | clearScope scope key, r => r.clearScope scope key

/-- A change is for the handlers that menus with a key have under a name. -/
def IsFor (name key : String) : HandlerChange → Prop
  | register other _ scope id | unregister other scope id =>
    HandlerRegistry.SameName other name ∧ scope = .menu ∧
      id.map MenuName.key = some key
  | clearScope scope id => scope = .menu ∧ id.map MenuName.key = some key

variable {r changed : HandlerRegistry} {name key : String}

/-- A bucket that is not for a menu with the key is another one than the menu's. Either the scopes are different, or
the keys are. -/
theorem bucket_ne {scope : HandlerScope} {id filed : Option String}
    (found : scope.fileKey id = .ok filed) (other : ¬(scope = .menu ∧ id.map MenuName.key = some key)) :
    (scope, filed) ≠ (.menu, some key) := by
  intro same
  obtain ⟨isMenu, isKey⟩ := Prod.mk.inj same
  subst isMenu
  obtain ⟨text, isText, -, isFiled⟩ := HandlerScope.fileKey_menu.mp found
  apply other
  rw [isText, Option.map_some, ← isKey, isFiled]
  exact ⟨rfl, rfl⟩

/-- A change for other handlers leaves a handler of a menu where it is. There are four kinds of changes, and each
concerns one name in one bucket, one bucket, or one scope. -/
theorem held?_apply (change : HandlerChange) (done : change.apply r = .ok changed)
    (other : ¬change.IsFor name key) :
    changed.scopes = r.scopes ∧ changed.held? (.menu, some key) name = r.held? (.menu, some key) name := by
  cases change with
  | register word handler scope id =>
    obtain ⟨-, -, filed, found, rfl⟩ := HandlerRegistry.register_eq_ok.mp done
    refine ⟨rfl, (HandlerRegistry.held?_filing _ _ _ _).trans (if_neg fun ⟨own, same⟩ => ?_)⟩
    exact bucket_ne found (fun isKey => other ⟨same, isKey⟩) own
  | unregister word scope id =>
    obtain ⟨filed, found, same⟩ := ok_of_bind done
    cases same
    refine ⟨rfl, (HandlerRegistry.held?_adjust _ _ _ _).trans (if_neg fun ⟨own, same⟩ => ?_)⟩
    exact bucket_ne found (fun isKey => other ⟨same, isKey⟩) own
  | clearScope scope id =>
    obtain ⟨filed, found, same⟩ := ok_of_bind done
    cases same
    exact ⟨rfl, (HandlerRegistry.held?_erase _ _ _).trans (if_neg (bucket_ne found other))⟩

end HandlerChange

/-- Something that a host registers for a menu. -/
inductive Registration where
  /-- A named handler, in one of the two registries. -/
  | handler (legacy : Bool) (name : String) (callback : Callback)
  /-- The callback of a slot. -/
  | slot (number : Int) (callback : Callback)
  /-- The handler of clicks in the player's inventory. -/
  | inventory (callback : Callback)
  /-- A placeholder. -/
  | placeholder (name : String) (resolver : Resolver)
  /-- A policy for refreshing the menu. -/
  | policy (chosen : RefreshPolicy)

namespace Registration

/-- Registers it for the menu that a name stands for. -/
def register (menu : String) : Registration → Engine Unit
  | handler legacy name callback => registerMenuHandler menu name callback legacy
  | slot number callback => registerSlotHandler menu number callback
  | inventory callback => registerInventoryHandler menu callback
  | placeholder name resolver => registerPlaceholder name resolver (.menu (some menu))
  | policy chosen => registerPolicy menu chosen

/-- It is what lies in its registry under the key of a menu. Handlers are not looked for under an empty key. -/
def LiesUnder (r : Registration) (key : String) (s : EngineState) : Prop :=
  match r with
  | handler legacy name callback =>
    key ≠ "" ∧ (s.handlers legacy).scopes.contains .menu = true ∧
      (s.handlers legacy).held? (.menu, some key) name = some callback
  | slot number callback => s.slotHandlers.get? (key, number) = some callback
  | inventory callback => s.inventoryHandlers.get? key = some callback
  | placeholder name resolver =>
    let layer := PlaceholderRegistry.layer s.placeholders.registry.byMenu key
    layer.keys.Nodup ∧ layer.get? (Placeholder.token name) = some resolver
  | policy chosen => s.policies.get? key = some chosen

/-- An operation registers nothing in its place. Handlers may be changed one by one. -/
def IsLeftBy (key : String) (r : Registration) (c : HostCall) : Prop :=
  match r, c with
  | handler legacy name _, .changeHandlers other change =>
    legacy = other → ∃ single : HandlerChange, change = single.apply ∧ ¬single.IsFor name key
  | slot number _, .registerSlotHandler menu other _ =>
    ¬(other = number ∧ MenuName.key (MenuName.toId menu) = key)
  | inventory _, .registerInventoryHandler menu _ => MenuName.key (MenuName.toId menu) ≠ key
  | placeholder name _, .registerPlaceholder other _ (.menu (some menu)) =>
    ¬(Placeholder.token other = Placeholder.token name ∧ MenuName.key (MenuName.toId menu) = key)
  | policy _, .registerPolicy menu _ => MenuName.key (MenuName.toId menu) ≠ key
  | _, _ => True

end Registration

/-- A removal from one of the other registries, which name menus by their ids. -/
inductive Removal where
  | slot (menu : String) (number : Int)
  | slots (menu : String)
  | inventory (menu : String)
  | placeholders (menu : String)
  | actorPlaceholders (actor : String)

namespace Removal

/-- The state after the removal. -/
def apply (s : EngineState) : Removal → EngineState
  | slot menu number => { s with slotHandlers := s.slotHandlers.unregister menu number }
  | slots menu => { s with slotHandlers := s.slotHandlers.clearMenu menu }
  | inventory menu => { s with inventoryHandlers := s.inventoryHandlers.unregister menu }
  | placeholders menu =>
    { s with placeholders :=
        { s.placeholders with registry := s.placeholders.registry.clearMenu menu } }
  | actorPlaceholders actor =>
    { s with placeholders :=
        { s.placeholders with registry := s.placeholders.registry.clearActor actor } }

/-- A removal takes away what menus with a key have. -/
def IsFor (key : String) (r : Registration) (removal : Removal) : Prop :=
  match r, removal with
  | .slot number _, slot menu other => other = number ∧ MenuName.key menu = key
  | .slot .., slots menu => MenuName.key menu = key
  | .inventory _, inventory menu => MenuName.key menu = key
  | .placeholder .., placeholders menu => MenuName.key menu = key
  | _, _ => False

end Removal

/-- The states that an engine comes to from one while nothing is registered in the place of something and
nothing takes it away. -/
inductive Registration.Since [Machine] (key : String) (r : Registration) (first : EngineState) :
    EngineState → Prop where
  | here : Since key r first first
  | called {s : EngineState} (before : Since key r first s) (c : HostCall) (calling : Calling)
      (code : HostCode (r.IsLeftBy key) (c.run calling)) :
      Since key r first (outcome (c.run calling) s).2
  | removed {s : EngineState} (before : Since key r first s) (removal : Removal)
      (other : ¬removal.IsFor key r) : Since key r first (removal.apply s)

/-- What was registered was found to be fit for it. What was there before the registering is in the new state but for
the one registry. -/
theorem Engine.ok_registering {α : Type} {result : EngineState → Except Failure α}
    (change : EngineState → α → EngineState) {s t : EngineState}
    (registered : outcome (do let s ← get; let a ← Engine.ofExcept (result s); set (change s a)) s =
      (.ok (), t)) : ∃ a, result s = .ok a ∧ t = change s a := by
  rw [outcome_bind_ok _ (outcome_get s)] at registered
  cases found : result s with
  | error cause =>
    rw [found] at registered
    cases registered
  | ok a =>
    rw [found] at registered
    cases registered
    exact ⟨a, rfl, rfl⟩

/-- Registering a placeholder for a menu puts it into the layer of the menu, and no other registering changes a layer
of a menu. The scope decides which of the three kinds of layers is changed. -/
theorem PlaceholderRegistry.byMenu_of_register {r registry : PlaceholderRegistry} {name : String}
    {resolver : Resolver} {scope : PlaceholderScope} (done : r.register name resolver scope = .ok registry) :
    ((∀ id, scope ≠ .menu id) ∧ registry.byMenu = r.byMenu) ∨
      ∃ id, scope = .menu (some id) ∧ registry.byMenu = r.byMenu.put (MenuName.key id)
        ((layer r.byMenu (MenuName.key id)).put (Placeholder.token name) resolver) := by
  unfold register at done
  split at done
  · cases done
  · dsimp only at done
    split at done
    · cases done
      exact Or.inl ⟨by simp, rfl⟩
    · cases done
    · cases done
    · rename_i id _
      cases done
      exact Or.inr ⟨id, rfl, rfl⟩
    · cases done
    · cases done
      exact Or.inl ⟨by simp, rfl⟩
    · cases done

/-- The layer under one key is left alone when that under another is changed. A layer that is not there counts as an
empty one. -/
theorem PlaceholderRegistry.layer_put {α : Type} [DecidableEq α] {layers : OrderedMap α ResolverLayer} {key other : α}
    {resolvers : ResolverLayer} :
    layer (layers.put key resolvers) other = if key = other then resolvers else layer layers other := by
  unfold layer
  rw [OrderedMap.get?_put]
  split <;> rfl

namespace Registration

variable {r : Registration} {key : String} {s t : EngineState}

/-- It lies where it lay if nothing that is registered for menus has changed. Of each registry only the part for menus
is looked at. -/
theorem LiesUnder.congr (lies : r.LiesUnder key s) (same : AsRegistered s t) : r.LiesUnder key t := by
  obtain ⟨scopes, legacy, context, slots, inventory, placeholders, policies⟩ := same
  cases r with
  | handler isLegacy name callback =>
    cases isLegacy with
    | false =>
      simp only [LiesUnder, EngineState.handlers, Bool.false_eq_true, if_false] at lies ⊢
      rwa [context]
    | true =>
      simp only [LiesUnder, EngineState.handlers, if_true, HandlerRegistry.held?] at lies ⊢
      rwa [scopes, legacy (.menu, some key) (by simp)]
  | slot number callback =>
    unfold LiesUnder at lies ⊢
    rwa [slots]
  | inventory callback =>
    unfold LiesUnder at lies ⊢
    rwa [inventory]
  | placeholder name resolver =>
    unfold LiesUnder at lies ⊢
    rwa [placeholders]
  | policy chosen =>
    unfold LiesUnder at lies ⊢
    rwa [policies]

/-- Opening, drawing and closing menus leave it where it lies. With this all operations are dealt with that register
nothing. -/
theorem LiesUnder.tended [Machine] : Tended (r.LiesUnder key) where
  alongside _ _ same lies := lies.congr (.of_alongside same)
  drawn _ _ _ := keeps_render (fun _ _ lies => lies.congr {}) fun _ _ _ _ lies => lies.congr {}
  left session s lies := by
    rcases tearDown_cases session s with ⟨cause, done⟩ | ⟨cause, done⟩ | done | done
    all_goals rw [done]
    · exact lies
    · exact lies.congr {}
    · exact lies.congr {}
    · exact lies.congr (AsRegistered.left s session.actor)

/-- A change of handlers that is not for it leaves it where it lies, in whichever of the two registries it is made. -/
theorem keeps_changeHandlers {legacy : Bool} {change : HandlerRegistry → Except Failure HandlerRegistry}
    (left : r.IsLeftBy key (.changeHandlers legacy change)) :
    Keeps (r.LiesUnder key) (withHandlers legacy change) := by
  -- Of the two registries only the one with the handler matters, and there the change is for another.
  have moved {before after : HandlerRegistry} {name : String} {callback : Callback}
      (single : HandlerChange) (other : ¬single.IsFor name key) (done : single.apply before = .ok after)
      (lies : key ≠ "" ∧ before.scopes.contains .menu = true ∧
        before.held? (.menu, some key) name = some callback) :
      key ≠ "" ∧ after.scopes.contains .menu = true ∧
        after.held? (.menu, some key) name = some callback := by
    obtain ⟨scopes, held⟩ := single.held?_apply done other
    rwa [scopes, held]
  cases legacy with
  | true =>
    refine keeps_registering_found _ (fun s legacyHandlers => { s with legacyHandlers }) fun s a done lies => ?_
    cases r with
    | handler isLegacy name callback =>
      cases isLegacy with
      | true =>
        obtain ⟨single, rfl, other⟩ := left rfl
        exact moved single other done lies
      | false => exact lies
    | slot | inventory | placeholder | policy => exact lies
  | false =>
    refine keeps_registering_found _ (fun s contextHandlers => { s with contextHandlers }) fun s a done lies => ?_
    cases r with
    | handler isLegacy name callback =>
      cases isLegacy with
      | false =>
        obtain ⟨single, rfl, other⟩ := left rfl
        exact moved single other done lies
      | true => exact lies
    | slot | inventory | placeholder | policy => exact lies

/-- Registering the callback of another slot leaves it where it lies. Slots are told apart by their menus and their
numbers. -/
theorem keeps_registerSlotHandler {menu : String} {number : Int} {callback : Callback}
    (left : r.IsLeftBy key (.registerSlotHandler menu number callback)) :
    Keeps (r.LiesUnder key) (registerSlotHandler menu number callback) := by
  refine keeps_registering_found _ (fun s slotHandlers => { s with slotHandlers }) fun s a done lies => ?_
  unfold SlotHandlers.register at done
  split at done
  · cases done
    cases r with
    | slot own mine =>
      simp only [LiesUnder, IsLeftBy] at lies left ⊢
      have apart : (MenuName.key (MenuName.toId menu), number) ≠ (key, own) := fun same =>
        left (Prod.mk.inj same).symm
      rw [OrderedMap.get?_put, if_neg apart]
      exact lies
    | handler | inventory | placeholder | policy => exact lies
  · cases done

/-- Registering the handler of another menu for clicks in the player's inventory leaves it where it lies. -/
theorem keeps_registerInventoryHandler {menu : String} {callback : Callback}
    (left : r.IsLeftBy key (.registerInventoryHandler menu callback)) :
    Keeps (r.LiesUnder key) (registerInventoryHandler menu callback) := by
  refine keeps_registering_found _ (fun s inventoryHandlers => { s with inventoryHandlers })
    fun s a done lies => ?_
  unfold InventoryHandlers.register at done
  split at done
  · cases done
    cases r with
    | inventory mine =>
      simp only [LiesUnder, IsLeftBy] at lies left ⊢
      rw [OrderedMap.get?_put, if_neg left]
      exact lies
    | handler | slot | placeholder | policy => exact lies
  · cases done

/-- Registering another placeholder, or one for others, leaves it where it lies. For other menus another layer is
changed, and for another name another place in the layer. -/
theorem keeps_registerPlaceholder {name : String} {resolver : Resolver} {scope : PlaceholderScope}
    (left : r.IsLeftBy key (.registerPlaceholder name resolver scope)) :
    Keeps (r.LiesUnder key) (registerPlaceholder name resolver scope) := by
  refine keeps_registering_found _
    (fun s registry => { s with placeholders := { s.placeholders with registry } })
    fun s registry done lies => ?_
  cases r with
  | placeholder own mine =>
    rcases PlaceholderRegistry.byMenu_of_register done with ⟨-, same⟩ | ⟨id, isMenu, changed⟩
    · unfold LiesUnder at lies ⊢
      rwa [same]
    · have other : ¬(Placeholder.token name = Placeholder.token own ∧ MenuName.key id = key) := by
        split at isMenu
        · obtain rfl : MenuName.toId _ = id := by simpa using isMenu
          simpa only [IsLeftBy] using left
        · rename_i elsewhere
          exact absurd isMenu (elsewhere id)
      simp only [LiesUnder] at lies ⊢
      rw [changed, PlaceholderRegistry.layer_put]
      split
      · rename_i isKey
        have apart : Placeholder.token name ≠ Placeholder.token own := fun same => other ⟨same, isKey⟩
        rw [isKey, OrderedMap.get?_put, if_neg apart]
        exact ⟨OrderedMap.nodup_put lies.1, lies.2⟩
      · exact lies
  | handler | slot | inventory | policy => exact lies

/-- Registering the policy of another menu leaves it where it lies. -/
theorem keeps_registerPolicy {menu : String} {chosen : RefreshPolicy}
    (left : r.IsLeftBy key (.registerPolicy menu chosen)) :
    Keeps (r.LiesUnder key) (registerPolicy menu chosen) := by
  refine keeps_modify fun s lies => ?_
  cases r with
  | policy mine =>
    simp only [LiesUnder, IsLeftBy] at lies left ⊢
    rw [OrderedMap.get?_put, if_neg left]
    exact lies
  | handler | slot | inventory | placeholder => exact lies

/-- Every operation that registers nothing in its place leaves it where it lies, if callbacks do. The operations that
register something are looked at one by one, and all others leave the registries alone. -/
theorem keeps_run [Machine] {c : HostCall} {calling : Calling} (left : r.IsLeftBy key c)
    (answers : ∀ ref, c.actor? = some ref → ∀ info callback,
      Keeps (r.LiesUnder key) (calling ref info callback)) :
    Keeps (r.LiesUnder key) (c.run calling) := by
  refine LiesUnder.tended.run (fun registers => ?_) answers
  cases c
  case changeHandlers legacy change => exact keeps_changeHandlers left
  case registerSlotHandler menu number callback => exact keeps_registerSlotHandler left
  case registerInventoryHandler menu callback => exact keeps_registerInventoryHandler left
  case registerPlaceholder name resolver scope => exact keeps_registerPlaceholder left
  case registerPolicy name chosen => exact keeps_registerPolicy left
  case registerTypeResolver type name resolver =>
    exact keeps_registering _
      (fun s contextRegistry => { s with placeholders := { s.placeholders with contextRegistry } })
      fun s a lies => by cases r <;> exact lies
  all_goals exact registers.elim

/-- A removal that is not for it leaves it where it lies. Removals are made on a registry directly and not through the
engine, so they are steps of their own. -/
theorem LiesUnder.removed (lies : r.LiesUnder key s) {removal : Removal} (other : ¬removal.IsFor key r) :
    r.LiesUnder key (removal.apply s) := by
  cases r with
  | handler | policy => cases removal <;> exact lies
  | slot number callback =>
    cases removal with
    | slot menu gone =>
      simp only [LiesUnder, Removal.IsFor, Removal.apply, SlotHandlers.unregister] at lies other ⊢
      have apart : (MenuName.key menu, gone) ≠ (key, number) := fun same =>
        other (Prod.mk.inj same).symm
      rw [OrderedMap.get?_erase, if_neg apart]
      exact lies
    | slots menu =>
      simp only [LiesUnder, Removal.IsFor, Removal.apply, SlotHandlers.clearMenu] at lies other ⊢
      rw [OrderedMap.get?_filter fun _ => by simpa using Ne.symm other]
      exact lies
    | inventory | placeholders | actorPlaceholders => exact lies
  | inventory callback =>
    cases removal with
    | inventory menu =>
      simp only [LiesUnder, Removal.IsFor, Removal.apply, InventoryHandlers.unregister] at lies other ⊢
      rw [OrderedMap.get?_erase, if_neg other]
      exact lies
    | slot | slots | placeholders | actorPlaceholders => exact lies
  | placeholder name resolver =>
    cases removal with
    | placeholders menu =>
      simp only [LiesUnder, Removal.IsFor, Removal.apply, PlaceholderRegistry.clearMenu,
        PlaceholderRegistry.layer] at lies other ⊢
      rw [OrderedMap.get?_erase, if_neg other]
      exact lies
    | slot | slots | inventory | actorPlaceholders => exact lies

/-- What lies in its registry lies there until something is registered in its place or it is removed. The induction is
on what has happened since, which is a row of calls and removals. -/
theorem LiesUnder.of_since [Machine] (lies : r.LiesUnder key s) (since : r.Since key s t) : r.LiesUnder key t := by
  induction since with
  | here => exact lies
  | called _ c calling code before =>
    exact code.keeps LiesUnder.tended.told (fun c calling left answers => keeps_run left answers) _ before
  | removed _ removal other before => exact before.removed other

/-- A handler that was registered for a menu lies in the bucket of the menu, and the scope of menus is one of those
that are asked. From these two it follows that a search for its name with the id of the menu comes upon it, if no
scope in front has one. -/
theorem held?_register {registry changed : HandlerRegistry} {name id : String} {callback : Callback}
    (done : registry.register name callback .menu (some id) = .ok changed) :
    MenuName.key id ≠ "" ∧ changed.scopes.contains .menu = true ∧
      changed.held? (.menu, some (MenuName.key id)) name = some callback := by
  obtain ⟨-, asked, filed, found, rfl⟩ := HandlerRegistry.register_eq_ok.mp done
  obtain ⟨_, isId, notEmpty, rfl⟩ := HandlerScope.fileKey_menu.mp found
  cases isId
  refine ⟨fun empty => notEmpty (Text.lower_eq_empty.mp empty), asked, ?_⟩
  exact (HandlerRegistry.held?_filing _ _ _ _).trans (if_pos ⟨rfl, rfl⟩)

/-- What is registered lies in its registry under the key of the menu. For placeholders the layer of the menu has to
hold each token once. There is one case for each kind of registration; what the registering puts in place is what lies
there. -/
theorem liesUnder_of_register {menu : String}
    (once : (PlaceholderRegistry.layer s.placeholders.registry.byMenu
      (MenuName.key (MenuName.toId menu))).keys.Nodup)
    (registered : outcome (r.register menu) s = (.ok (), t)) :
    r.LiesUnder (MenuName.key (MenuName.toId menu)) t := by
  cases r with
  | handler legacy name callback =>
    cases legacy with
    | true =>
      obtain ⟨changed, done, rfl⟩ := ok_registering (fun s legacyHandlers => { s with legacyHandlers })
        registered
      exact held?_register done
    | false =>
      obtain ⟨changed, done, rfl⟩ := ok_registering (fun s contextHandlers => { s with contextHandlers })
        registered
      exact held?_register done
  | slot number callback =>
    obtain ⟨changed, done, rfl⟩ := ok_registering (fun s slotHandlers => { s with slotHandlers }) registered
    unfold SlotHandlers.register at done
    split at done
    · cases done
      exact (OrderedMap.get?_put _ _ _ _).trans (if_pos rfl)
    · cases done
  | inventory callback =>
    obtain ⟨changed, done, rfl⟩ := ok_registering
      (fun s inventoryHandlers => { s with inventoryHandlers }) registered
    unfold InventoryHandlers.register at done
    split at done
    · cases done
      exact (OrderedMap.get?_put _ _ _ _).trans (if_pos rfl)
    · cases done
  | placeholder name resolver =>
    obtain ⟨registry, done, rfl⟩ := ok_registering
      (fun s registry => { s with placeholders := { s.placeholders with registry } }) registered
    rcases PlaceholderRegistry.byMenu_of_register done with ⟨elsewhere, -⟩ | ⟨id, isMenu, changed⟩
    · exact absurd rfl (elsewhere _)
    · obtain rfl : MenuName.toId menu = id := by simpa using isMenu
      simp only [LiesUnder]
      rw [changed, PlaceholderRegistry.layer_put, if_pos rfl]
      exact ⟨OrderedMap.nodup_put once, (OrderedMap.get?_put _ _ _ _).trans (if_pos rfl)⟩
  | policy chosen =>
    obtain rfl : { s with policies := s.policies.put (MenuName.key (MenuName.toId menu)) chosen } = t :=
      congrArg Prod.snd registered
    exact (OrderedMap.get?_put _ _ _ _).trans (if_pos rfl)

end Registration

end ChestMenu
