import ChestMenu.Layout
import ChestMenu.Proofs.Endings

/-!
# Traces of resolving

Resolving placeholders leaves traces: notices, and the accessors of the types that were looked at. As long as no
resolver counts its calls or asks for the number of open menus, none of these traces shows in what is resolved. The
same table, the same layout, and the same failure come out whatever was resolved before.

Only the cache of accessors could tell; it does not if it holds for every type what would be found anew.
-/
namespace ChestMenu

namespace Resolver

mutual

/-- Whether a resolver depends on nothing but what it is asked about. -/
def isPure : Resolver → Bool
  | counter _ | openMenus => false
  | joined parts => arePure parts
  | _ => true

/-- Whether several resolvers do. -/
def arePure : List Resolver → Bool
  | [] => true
  | part :: parts => isPure part && arePure parts

end

end Resolver

/-- A cache holds the accessors that would be found anew. -/
def Discovery.Cache.Sound (classes : Classes) (cache : Discovery.Cache) : Prop :=
  ∀ type found, cache.lookup type = some found → found = Discovery.accessorsOf classes type

section

variable {α β : Type} (classes : Classes)

/-- What a step gives when nothing was resolved before. -/
def answerOf (x : ExceptT Failure Resolving α) : Except Failure α :=
  (x.run.run {}).1

/-- A step that gives the same whatever was resolved before, and keeps the cache sound. -/
def Steady (x : ExceptT Failure Resolving α) : Prop :=
  ∀ ledger : Ledger, ledger.accessors.Sound classes →
    (x.run.run ledger).1 = answerOf x ∧ (x.run.run ledger).2.accessors.Sound classes

end

section

variable {α β : Type} {classes : Classes}

/-- Nothing is held wrongly by an empty cache, since it holds nothing. -/
theorem sound_nil : Discovery.Cache.Sound classes [] := by
  intro type found held
  cases held

/-- An answer that is there already is steady, as it does not look at the ledger. -/
theorem steady_pure (a : α) : Steady classes (pure a) :=
  fun _ sound => ⟨rfl, sound⟩

/-- A failure that is there already is steady, too. -/
theorem steady_throw (cause : Failure) :
    Steady classes (throw cause : ExceptT Failure Resolving α) :=
  fun _ sound => ⟨rfl, sound⟩

/-- A result that is there already is steady, be it an answer or a failure. -/
theorem steady_result (result : Except Failure α) :
    Steady classes (ExceptT.mk (pure result) : ExceptT Failure Resolving α) :=
  fun _ sound => ⟨rfl, sound⟩

/-- What two steps give when nothing was resolved before is what the second gives on its own for the answer of the
first. The second may be asked without what the first left behind, since it is steady. -/
theorem answerOf_bind {x : ExceptT Failure Resolving α} {f : α → ExceptT Failure Resolving β}
    (first : Steady classes x) (rest : ∀ a, Steady classes (f a)) :
    answerOf (x >>= f) = answerOf x >>= fun a => answerOf (f a) := by
  have sound := (first {} sound_nil).2
  unfold answerOf
  rw [run_bind]
  rcases step : x.run.run {} with ⟨result, after⟩
  rw [step] at sound
  cases result with
  | error cause => rfl
  | ok a => exact (rest a after sound).1

/-- Steady steps that give the same make the same of what they give. This is how a step in a chain is replaced by
another. -/
theorem answerOf_bind_congr {x y : ExceptT Failure Resolving α} {f g : α → ExceptT Failure Resolving β}
    (first : Steady classes x) (second : Steady classes y) (same : answerOf x = answerOf y)
    (rest : ∀ a, Steady classes (f a)) (others : ∀ a, Steady classes (g a))
    (alike : ∀ a, answerOf (f a) = answerOf (g a)) : answerOf (x >>= f) = answerOf (y >>= g) := by
  rw [answerOf_bind first rest, answerOf_bind second others, same]
  exact congrArg (_ >>= ·) (funext alike)

/-- Two steady steps are steady. What the first leaves behind is a sound cache again, in which the second gives what
it always gives. -/
theorem steady_bind {x : ExceptT Failure Resolving α} {f : α → ExceptT Failure Resolving β}
    (first : Steady classes x) (rest : ∀ a, Steady classes (f a)) : Steady classes (x >>= f) := by
  intro ledger sound
  rw [answerOf_bind first rest, run_bind]
  obtain ⟨same, kept⟩ := first ledger sound
  rcases step : x.run.run ledger with ⟨result, after⟩
  rw [step] at same kept
  rw [← same]
  cases result with
  | error cause => exact ⟨rfl, kept⟩
  | ok a => exact rest a after kept

/-- A step whose failure is looked at is steady if the step is. The failure has become an answer there. -/
theorem steady_lift {x : ExceptT Failure Resolving α} (steady : Steady classes x) :
    Steady classes (ExceptT.lift x.run : ExceptT Failure Resolving (Except Failure α)) := by
  intro ledger sound
  obtain ⟨same, kept⟩ := steady ledger sound
  exact ⟨congrArg Except.ok same, kept⟩

/-- A notice is steady, as it is written into the ledger and never read there. -/
theorem steady_note (notice : Notice) :
    Steady classes (liftM (Resolving.note notice) : ExceptT Failure Resolving Unit) :=
  fun _ sound => ⟨rfl, sound⟩

/-- A loop of steady steps is steady. The induction is on the list. -/
theorem steady_foldlM {items : List β} {f : α → β → ExceptT Failure Resolving α}
    (each : ∀ a, ∀ item ∈ items, Steady classes (f a item)) (a : α) :
    Steady classes (items.foldlM f a) := by
  induction items generalizing a with
  | nil => exact steady_pure a
  | cons item items ih =>
    rw [List.foldlM_cons]
    apply steady_bind (each a item List.mem_cons_self)
    exact fun b => ih (fun a item member => each a item (List.mem_cons_of_mem _ member)) b

/-- What a loop of steady steps gives when nothing was resolved before is the loop over what each of the steps gives. -/
theorem answerOf_foldlM {items : List β} {f : α → β → ExceptT Failure Resolving α}
    {g : α → β → Except Failure α} (each : ∀ a, ∀ item ∈ items, Steady classes (f a item))
    (known : ∀ a, ∀ item ∈ items, answerOf (f a item) = g a item) (a : α) :
    answerOf (items.foldlM f a) = items.foldlM g a := by
  induction items generalizing a with
  | nil => rfl
  | cons item items ih =>
    have later : ∀ a, ∀ item ∈ items, Steady classes (f a item) := fun a item member =>
      each a item (List.mem_cons_of_mem _ member)
    rw [List.foldlM_cons, List.foldlM_cons,
      answerOf_bind (each a item List.mem_cons_self) fun b => steady_foldlM later b,
      known a item List.mem_cons_self]
    congr 1
    funext b
    exact ih later (fun a item member => known a item (List.mem_cons_of_mem _ member)) b

end

section

variable {classes : Classes} {actor : Actor} {topic : Topic}

mutual

/-- A pure resolver is steady. The induction is on the resolver, together with the lists of resolvers that it is made
of. -/
theorem Resolver.steady_run [Machine] :
    (resolver : Resolver) → resolver.isPure = true → Steady classes (resolver.run classes actor topic)
  | .const _, _ => steady_pure _
  | .raise _, _ => steady_throw _
  | .actorAttribute _, _ => steady_result _
  | .levelAtLeast _ _ _, _ => steady_bind (steady_result _) fun _ => steady_pure _
  | .contextField _, _ => steady_result _
  | .joined parts, pure => steady_bind (Resolver.steady_runAll parts pure) fun _ => steady_pure _
  | .pageIs _, _ => steady_bind (steady_result _) fun _ => steady_pure _
  | .function _, _ => steady_result _
  | .uncallable _, _ => steady_throw _

/-- Several pure resolvers that are run one after the other are steady. -/
theorem Resolver.steady_runAll [Machine] :
    (parts : List Resolver) → Resolver.arePure parts = true →
      Steady classes (Resolver.runAll classes actor topic parts)
  | [], _ => steady_pure _
  | part :: parts, pure =>
    have both := Bool.and_eq_true_iff.mp pure
    steady_bind (Resolver.steady_run part both.1) fun _ =>
      steady_bind (steady_result _) fun _ =>
        steady_bind (Resolver.steady_runAll parts both.2) fun _ => steady_pure _

end

/-- The text that a pure resolver provides is steady, too. A failure is noted and comes to no text. -/
theorem Resolver.steady_text? [Machine] {resolver : Resolver} (pure : resolver.isPure = true) :
    Steady classes (resolver.text? classes actor topic) := by
  unfold Resolver.text?
  refine steady_bind (steady_lift (resolver.steady_run pure)) fun answer => ?_
  split
  · exact steady_pure _
  · exact steady_pure _
  · exact steady_bind (steady_result _) fun _ => steady_pure _
  · exact steady_bind (steady_note _) fun _ => steady_pure _

/-- Putting the texts of pure resolvers into a table is steady. It is a loop over them. -/
theorem Resolver.steady_putTexts [Machine] {table : Placeholder.Table} {resolvers : List (String × Resolver)}
    (pure : ∀ pair ∈ resolvers, pair.2.isPure = true) :
    Steady classes (Resolver.putTexts classes actor topic table resolvers) := by
  unfold Resolver.putTexts
  apply steady_foldlM
  intro table pair member
  refine steady_bind (Resolver.steady_text? (pure pair member)) fun text => ?_
  cases text with
  | some text => exact steady_pure _
  | none => exact steady_pure _

end

namespace Discovery

variable {classes : Classes} {cache : Cache}

/-- A sound cache gives the accessors that would be found anew, and stays sound. What the cache has for the type is
right, and what it does not have is found and put into it. -/
theorem accessors_of_sound (sound : cache.Sound classes) (v : Value) :
    (accessors classes cache v).1 = accessorsOf classes (Classes.typeOf v) ∧
      (accessors classes cache v).2.Sound classes := by
  unfold accessors
  dsimp only
  split
  · rename_i found held
    exact ⟨sound _ _ held, sound⟩
  · refine ⟨rfl, fun type found held => ?_⟩
    rw [List.lookup_append] at held
    cases before : cache.lookup type with
    | some known =>
      rw [before] at held
      cases held
      exact sound type found before
    | none =>
      rw [before] at held
      by_cases same : type = Classes.typeOf v
      · subst same
        simpa using held.symm
      · have other : (type == Classes.typeOf v) = false := by simpa using same
        simp [List.lookup_cons, other] at held

/-- The fields of a context do not depend on a sound cache. They are read from the object each time, and only the list
of accessors is kept. -/
theorem fields_of_sound [Machine] (sound : cache.Sound classes) (context : Value) :
    (fields classes cache context).1 = (fields classes [] context).1 ∧
      (fields classes cache context).2.Sound classes := by
  obtain ⟨same, kept⟩ := accessors_of_sound sound context
  have empty : Cache.Sound classes [] := sound_nil
  obtain ⟨anew, -⟩ := accessors_of_sound empty context
  unfold fields
  split
  · exact ⟨rfl, sound⟩
  · split
    · exact ⟨rfl, sound⟩
    · split
      · exact ⟨rfl, sound⟩
      · dsimp only
        rw [same, anew]
        exact ⟨rfl, kept⟩

/-- The tokens of a context do not depend on a sound cache. They are made from its fields. -/
theorem tokens_of_sound [Machine] (sound : cache.Sound classes) (context : Value) :
    (tokens classes cache context).1 = (tokens classes [] context).1 ∧
      (tokens classes cache context).2.Sound classes := by
  obtain ⟨same, kept⟩ := fields_of_sound sound context
  exact ⟨congrArg (· >>= tokensOfFields) same, kept⟩

end Discovery

/-- Looking at the fields of a context is steady. This is the only place where the cache is used. -/
theorem steady_tokens [Machine] {classes : Classes} {context : Value} :
    Steady classes (ExceptT.mk (Resolving.withAccessors fun cache =>
      Discovery.tokens classes cache context)) :=
  fun _ sound => Discovery.tokens_of_sound sound context

/-- No registered resolver has a memory. -/
structure Placeholders.IsPure (p : Placeholders) : Prop where
  everywhere : ∀ pair ∈ p.registry.everywhere, pair.2.isPure = true
  byMenu : ∀ layer ∈ p.registry.byMenu, ∀ pair ∈ layer.2, pair.2.isPure = true
  byActor : ∀ layer ∈ p.registry.byActor, ∀ pair ∈ layer.2, pair.2.isPure = true
  byType : ∀ layer ∈ p.contextRegistry, ∀ pair ∈ layer.2, pair.2.isPure = true

namespace Placeholders.IsPure

variable {p : Placeholders} {classes : Classes} {actor : Actor}

/-- A layer that is found is one of those that were registered. If all of these are pure, so is it. -/
theorem layer {α : Type} [DecidableEq α] {layers : OrderedMap α ResolverLayer}
    (pure : ∀ layer ∈ layers, ∀ pair ∈ layer.2, pair.2.isPure = true) (key : α) :
    ∀ pair ∈ PlaceholderRegistry.layer layers key, pair.2.isPure = true := by
  unfold PlaceholderRegistry.layer
  cases found : layers.get? key with
  | none => simp
  | some resolvers => exact pure _ (OrderedMap.mem_of_get? found)

/-- None of the resolvers for an actor in a menu has a memory if none of those that are registered has. -/
theorem of_mem_layers (pure : p.IsPure) {menu : String} {pair : String × Resolver}
    (member : pair ∈ (p.registry.layers actor menu).flatten) : pair.2.isPure = true := by
  simp only [PlaceholderRegistry.layers, List.flatten_cons, List.flatten_nil, List.append_nil,
    List.mem_append] at member
  rcases member with isEverywhere | isMenu | isActor
  · exact pure.everywhere pair isEverywhere
  · exact layer pure.byMenu _ pair isMenu
  · exact layer pure.byActor _ pair isActor

/-- None of the resolvers for the type of a context has a memory if none of those that are registered has. -/
theorem of_mem_matching (pure : p.IsPure) {context : Value} {pair : String × Resolver}
    (member : pair ∈ p.contextRegistry.matching classes context) : pair.2.isPure = true := by
  unfold ContextRegistry.matching at member
  obtain ⟨layer, isLayer, isPair⟩ := List.mem_flatMap.mp member
  dsimp only at isPair
  split at isPair
  · exact pure.byType layer isLayer pair isPair
  · simp at isPair

/-- The texts of the registered placeholders are steady. They are a loop over the layers. -/
theorem steady_registered [Machine] (pure : p.IsPure) (menu : String) :
    Steady classes (p.registry.resolveAll classes actor menu) :=
  Resolver.steady_putTexts fun _ member => pure.of_mem_layers member

/-- The texts of the resolvers for the type of a context are steady, and a loop as well. -/
theorem steady_typed [Machine] (pure : p.IsPure) (context : Value) :
    Steady classes (p.contextRegistry.resolveAll classes actor context) := by
  unfold ContextRegistry.resolveAll
  split
  · exact steady_pure _
  · exact Resolver.steady_putTexts fun _ member => pure.of_mem_matching member

/-- The tokens of an actor and a context are steady. They consist of fields and of the texts of resolvers, which are
both steady. -/
theorem steady_ofContext [Machine] (pure : p.IsPure) (context : Value) :
    Steady classes (p.ofContext classes actor context) := by
  unfold Placeholders.ofContext
  dsimp only
  split
  · exact steady_pure _
  · refine steady_bind steady_tokens fun fields => ?_
    exact steady_bind (pure.steady_typed _) fun typed => steady_pure _

/-- The table of a drawing is steady. It can therefore be spoken of without saying what was drawn before. -/
theorem steady_build [Machine] (pure : p.IsPure) (menu : Menu) (view : Option View) :
    Steady classes (p.build classes actor menu view) := by
  unfold Placeholders.build
  refine steady_bind (pure.steady_registered menu.id) fun registered => ?_
  refine steady_bind (pure.steady_ofContext _) fun contextual => ?_
  exact steady_bind (steady_result _) fun paged => steady_pure _

end Placeholders.IsPure

/-- Neither a placeholder of an item nor its predicate has a memory. -/
structure Entry.IsPure (entry : Entry) : Prop where
  placeholders : ∀ pair ∈ entry.dynamicPlaceholders, pair.2.isPure = true
  predicate : ∀ resolver, entry.predicate = some resolver → resolver.isPure = true

/-- No item of a menu has a memory. -/
structure Menu.IsPure (menu : Menu) : Prop where
  items : ∀ pair ∈ menu.items, pair.2.IsPure
  pageItems : ∀ pages, menu.pagination = some pages → ∀ entry ∈ pages.items, entry.IsPure

section

variable {classes : Classes} {actor : Actor} {entry : Entry}

/-- None of the resolvers of an item has a memory when they are kept under their tokens. Only their names are
changed. -/
theorem Entry.IsPure.of_mem_tokens (pure : entry.IsPure) {pair : String × Resolver}
    (member : pair ∈ entry.dynamicPlaceholders.map fun pair => (Placeholder.token pair.1, pair.2)) :
    pair.2.isPure = true := by
  obtain ⟨before, isBefore, rfl⟩ := List.mem_map.mp member
  exact pure.placeholders before isBefore

/-- The table for an item is steady. Beyond the table of the drawing only the resolvers of the item are asked. -/
theorem Entry.IsPure.steady_forItem [Machine] (pure : entry.IsPure) (base : Placeholder.Table) :
    Steady classes (Placeholders.forItem classes base entry actor) := by
  unfold Placeholders.forItem
  exact Resolver.steady_putTexts fun _ member => pure.of_mem_tokens member

/-- Whether an item is visible is steady. Its predicate is a pure resolver, and a failure of it leaves a notice and
counts as yes. -/
theorem Entry.IsPure.steady_isVisible [Machine] (pure : entry.IsPure) (view : Option View)
    (table : Placeholder.Table) : Steady classes (entry.isVisible classes actor view table) := by
  unfold Entry.isVisible
  split
  · exact steady_result _
  · rename_i predicate isPredicate
    have steady : Steady classes (predicate.run classes actor ((view.map Topic.view).getD .nothing)) :=
      predicate.steady_run (pure.predicate predicate isPredicate)
    refine steady_bind (steady_lift steady) fun answer => ?_
    split
    · exact steady_pure _
    · exact steady_bind (steady_note _) fun _ => steady_pure _

end

end ChestMenu
