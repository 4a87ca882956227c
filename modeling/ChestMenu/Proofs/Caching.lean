import ChestMenu.Proofs.Drawing
import ChestMenu.Proofs.Upkeep

/-!
# The cache of accessors

The accessors of types that were looked at are kept, for all menus and for as long as an engine is there. What is kept
for a type is what would be found anew: that is so at the beginning, and every step that resolves placeholders leaves
it so, whether the resolvers that it asks have a memory or not, and even if it fails.

So it is so in every state of an engine, whatever a host has asked for.
-/
namespace ChestMenu

open Engine

/-- A step that keeps the cache of accessors sound. -/
abbrev KeepsSound (classes : Classes) {α : Type} (x : ExceptT Failure Resolving α) : Prop :=
  Leads (fun ledger : Ledger => ledger.accessors.Sound classes) (fun ledger => ledger.accessors.Sound classes)
    (fun _ => True) x

variable [Machine]

section

variable {α : Type} {classes : Classes}

omit [Machine] in
/-- A result that is there already keeps the cache sound, as it does not touch it. -/
theorem keepsSound_result (result : Except Failure α) :
    KeepsSound classes (ExceptT.mk (pure result)) :=
  leads_result (fun _ _ => trivial) fun _ _ _ sound => sound

omit [Machine] in
/-- A step that does not look at the cache keeps it sound. Such are all notes in the ledger. -/
theorem keepsSound_elsewhere {step : Resolving α}
    (same : ∀ ledger, (step.run ledger).2.accessors = ledger.accessors) :
    KeepsSound classes (liftM step) :=
  leads_lift fun ledger sound => ⟨trivial, by rwa [same]⟩

/-- Looking at the fields of a context keeps the cache sound. This is the only step that enters anything, and it
enters what was found. -/
theorem keepsSound_tokens {context : Value} :
    KeepsSound classes (ExceptT.mk (Resolving.withAccessors fun cache =>
      Discovery.tokens classes cache context)) :=
  leads_of_keeps fun _ sound => (Discovery.tokens_of_sound sound context).2

end

section

variable {classes : Classes} {actor : Actor} {topic : Topic}

mutual

/-- A resolver does not look at the cache, so it keeps it sound. The induction is on the resolver, together with the
lists of resolvers in it. -/
theorem Resolver.keepsSound_run :
    (resolver : Resolver) → KeepsSound classes (resolver.run classes actor topic)
  | .const _ => leads_pure trivial
  | .raise _ => leads_throw fun _ sound => sound
  | .actorAttribute _ => keepsSound_result _
  | .levelAtLeast _ _ _ => leads_bind (keepsSound_result _) fun _ _ => leads_pure trivial
  | .counter _ => leads_bind (keepsSound_elsewhere fun _ => rfl) fun _ _ => leads_pure trivial
  | .contextField _ => keepsSound_result _
  | .joined parts => leads_bind (Resolver.keepsSound_runAll parts) fun _ _ => leads_pure trivial
  | .pageIs _ => leads_bind (keepsSound_result _) fun _ _ => leads_pure trivial
  | .openMenus => leads_bind (leads_of_keeps fun _ sound => sound) fun _ _ => leads_pure trivial
  | .function _ => keepsSound_result _
  | .uncallable _ => leads_throw fun _ sound => sound

/-- Several resolvers do not look at the cache either, one after the other. -/
theorem Resolver.keepsSound_runAll :
    (parts : List Resolver) → KeepsSound classes (Resolver.runAll classes actor topic parts)
  | [] => leads_pure trivial
  | part :: parts =>
    leads_bind (Resolver.keepsSound_run part) fun _ _ =>
      leads_bind (keepsSound_result _) fun _ _ =>
        leads_bind (Resolver.keepsSound_runAll parts) fun _ _ => leads_pure trivial

end

/-- Asking a resolver for its text keeps the cache sound, also if the resolver fails. -/
theorem Resolver.keepsSound_text? (resolver : Resolver) :
    KeepsSound classes (Resolver.text? classes actor topic resolver) := by
  unfold Resolver.text?
  refine leads_bind (leads_looked resolver.keepsSound_run) fun answer _ => ?_
  split
  · exact leads_pure trivial
  · exact leads_pure trivial
  · exact leads_bind (keepsSound_result _) fun _ _ => leads_pure trivial
  · exact leads_bind (keepsSound_elsewhere fun _ => rfl) fun _ _ => leads_pure trivial

/-- Putting the texts of resolvers into a table keeps the cache sound. It is a loop over them. -/
theorem Resolver.keepsSound_putTexts {table : Placeholder.Table} {resolvers : List (String × Resolver)} :
    KeepsSound classes (Resolver.putTexts classes actor topic table resolvers) := by
  unfold Resolver.putTexts
  refine leads_foldlM trivial fun pair _ table _ => ?_
  refine leads_bind pair.2.keepsSound_text? fun text _ => ?_
  cases text with
  | some text => exact leads_pure trivial
  | none => exact leads_pure trivial

/-- Asking the resolvers of the types of a context keeps the cache sound. -/
theorem ContextRegistry.keepsSound_resolveAll {registry : ContextRegistry} {context : Value} :
    KeepsSound classes (registry.resolveAll classes actor context) := by
  unfold ContextRegistry.resolveAll
  split
  · exact leads_pure trivial
  · exact Resolver.keepsSound_putTexts

/-- Building the table of a context keeps the cache sound: its fields are looked at, and then the resolvers are
asked. -/
theorem Placeholders.keepsSound_ofContext {p : Placeholders} {context : Value} :
    KeepsSound classes (p.ofContext classes actor context) := by
  unfold Placeholders.ofContext
  dsimp only
  split
  · exact leads_pure trivial
  · exact leads_bind keepsSound_tokens fun fields _ =>
      leads_bind ContextRegistry.keepsSound_resolveAll fun typed _ => leads_pure trivial

/-- Building the table of a drawing keeps the cache sound, each of its layers in turn. -/
theorem Placeholders.keepsSound_build {p : Placeholders} {menu : Menu} {view : Option View} :
    KeepsSound classes (p.build classes actor menu view) := by
  unfold Placeholders.build
  refine leads_bind Resolver.keepsSound_putTexts fun registered _ => ?_
  refine leads_bind Placeholders.keepsSound_ofContext fun contextual _ => ?_
  exact leads_bind (keepsSound_result _) fun paged _ => leads_pure trivial

/-- Asking whether an item is visible keeps the cache sound, whether by a predicate or by an expression. -/
theorem Entry.keepsSound_isVisible {entry : Entry} {view : Option View} {table : Placeholder.Table} :
    KeepsSound classes (entry.isVisible classes actor view table) := by
  unfold Entry.isVisible
  split
  · exact keepsSound_result _
  · rename_i predicate _
    refine leads_bind (leads_looked predicate.keepsSound_run) fun answer _ => ?_
    split
    · exact leads_pure trivial
    · exact leads_bind (keepsSound_elsewhere fun _ => rfl) fun _ _ => leads_pure trivial

/-- Placing an item keeps the cache sound, whether it is hidden, drawn or passed over. -/
theorem Menu.keepsSound_place {menu : Menu} {view : Option View} {base : Placeholder.Table}
    {wanted : Option (List Int)} {grid : Grid} {placement : String × Entry × List Int} :
    KeepsSound classes (menu.place classes actor view base wanted grid placement) := by
  obtain ⟨key, entry, slots⟩ := placement
  unfold Menu.place
  dsimp only
  split
  · exact leads_pure trivial
  · refine leads_bind Resolver.keepsSound_putTexts fun table _ => ?_
    refine leads_bind Entry.keepsSound_isVisible fun visible _ => ?_
    split
    · exact leads_bind (keepsSound_result _) fun _ _ => leads_pure trivial
    · exact leads_pure trivial

/-- Laying out a menu keeps the cache sound: first the table is built, and then one item after another is placed. -/
theorem Menu.keepsSound_layout {menu : Menu} {view : Option View} {p : Placeholders}
    {slots : Option (List Int)} : KeepsSound classes (menu.layout classes actor view p slots) := by
  unfold Menu.layout
  refine leads_bind Placeholders.keepsSound_build fun base _ => ?_
  exact leads_foldlM trivial fun _ _ _ _ => Menu.keepsSound_place

end

/-- Drawing a menu keeps the cache sound, be it in all slots or in some. -/
theorem EngineState.keepsSound_drawing (s : EngineState) (session : Session) (menu : Menu)
    (slots : Option (List SlotName)) : KeepsSound s.classes (s.drawing session menu slots) := by
  unfold EngineState.drawing
  refine leads_bind Placeholders.keepsSound_build fun table _ => ?_
  refine leads_bind (keepsSound_result _) fun title _ => ?_
  exact leads_bind Menu.keepsSound_layout fun grid _ => leads_pure trivial

/-- What is kept about types is what would be found anew; the types are those of the beginning. -/
structure Remembered (first s : EngineState) : Prop where
  classes : s.classes = first.classes
  sound : s.ledger.accessors.Sound first.classes

namespace Remembered

variable {first s : EngineState}

/-- Drawing, opening and closing menus leave the cache sound for the classes of the engine, which stay the same. -/
theorem tended : Tended (Remembered first) where
  alongside _ _ same remembered :=
    ⟨same.classes.trans remembered.classes, by rw [same.accessors]; exact remembered.sound⟩
  drawn session menu slots s remembered := by
    obtain ⟨result, ledger, step, done⟩ := render_cases session menu slots s
    have sound := (s.keepsSound_drawing session menu slots).left (openLedger s) (by
      rw [remembered.classes]
      exact remembered.sound)
    rw [step, remembered.classes] at sound
    rcases done with ⟨cause, -, failed⟩ | ⟨title, grid, -, -, drawn⟩
    · rw [failed]
      exact ⟨remembered.classes, sound⟩
    · rw [drawn]
      exact ⟨remembered.classes, sound⟩
  left session s remembered := by
    rcases tearDown_cases session s with ⟨cause, done⟩ | ⟨cause, done⟩ | done | done
    all_goals
      rw [done]
      exact ⟨remembered.classes, remembered.sound⟩

omit [Machine] in
/-- Registering anything leaves the cache sound, too. Neither the classes nor the ledger are changed by it. -/
theorem keeps_registering {α : Type} (result : EngineState → Except Failure α)
    (change : EngineState → α → EngineState) (classes : ∀ s a, (change s a).classes = s.classes)
    (ledger : ∀ s a, (change s a).ledger = s.ledger) :
    Keeps (Remembered first)
      (do let s ← get; let a ← Engine.ofExcept (result s); set (change s a) : Engine Unit) :=
  Engine.keeps_registering result change fun s a remembered =>
    ⟨(classes s a).trans remembered.classes, by rw [ledger]; exact remembered.sound⟩

/-- Every operation that a host may ask for leaves the cache sound, if callbacks do. The cases are those of the
operations. -/
theorem keeps_run {c : HostCall} {calling : Calling}
    (answers : ∀ ref, c.actor? = some ref → ∀ info callback,
      Keeps (Remembered first) (calling ref info callback)) :
    Keeps (Remembered first) (c.run calling) := by
  refine tended.run (fun registers => ?_) answers
  cases c
  case changeHandlers legacy change =>
    cases legacy with
    | true =>
      exact keeps_registering _ (fun s legacyHandlers => { s with legacyHandlers }) (fun _ _ => rfl)
        fun _ _ => rfl
    | false =>
      exact keeps_registering _ (fun s contextHandlers => { s with contextHandlers }) (fun _ _ => rfl)
        fun _ _ => rfl
  case registerSlotHandler menu number callback =>
    exact keeps_registering _ (fun s slotHandlers => { s with slotHandlers }) (fun _ _ => rfl) fun _ _ => rfl
  case registerInventoryHandler menu callback =>
    exact keeps_registering _ (fun s inventoryHandlers => { s with inventoryHandlers }) (fun _ _ => rfl)
      fun _ _ => rfl
  case registerPlaceholder name resolver scope =>
    exact keeps_registering _
      (fun s registry => { s with placeholders := { s.placeholders with registry } }) (fun _ _ => rfl)
      fun _ _ => rfl
  case registerTypeResolver type name resolver =>
    exact keeps_registering _
      (fun s contextRegistry => { s with placeholders := { s.placeholders with contextRegistry } })
      (fun _ _ => rfl) fun _ _ => rfl
  case registerPolicy name chosen => exact keeps_modify fun _ remembered => ⟨remembered.classes, remembered.sound⟩
  all_goals exact registers.elim

/-- The cache is sound in every state that is reached from one where it is so. The induction is on the run, with
callbacks as deep as they go. -/
theorem of_reaches {permitted : HostCall → Prop} (start : first.ledger.accessors.Sound first.classes)
    (run : Reaches permitted first s) : Remembered first s :=
  run.holds (fun code => code.keeps tended.told fun _ _ _ answers => keeps_run answers) ⟨rfl, start⟩

end Remembered

end ChestMenu
