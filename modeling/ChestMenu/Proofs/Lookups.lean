import ChestMenu.Proofs.Layers

/-!
# Asking for one token and asking for all

Both ways go by the layers for the actor, for the menu and for everywhere. In the table of all tokens a token has the
text of the strongest of its resolvers that provides one. Who asks for one token gets what the strongest of its
resolvers provides, and nothing if that one fails or has no value, whatever the weaker ones have to say. So the two
agree except where a silent resolver lies above one that provides a text.
-/
namespace ChestMenu

namespace PlaceholderRegistry

/-- The registries that come about by registering and removing. -/
inductive Made : PlaceholderRegistry → Prop where
  | empty : Made {}
  | registered {r registry : PlaceholderRegistry} {name : String} {resolver : Resolver} {scope : PlaceholderScope}
      (made : Made r) (done : r.register name resolver scope = .ok registry) : Made registry
  | actorCleared {r : PlaceholderRegistry} (made : Made r) (id : String) : Made (r.clearActor id)
  | menuCleared {r : PlaceholderRegistry} (made : Made r) (id : String) : Made (r.clearMenu id)
  | cleared {r : PlaceholderRegistry} (made : Made r) : Made {}

/-- No layer has two resolvers for a token. -/
structure Single (r : PlaceholderRegistry) : Prop where
  everywhere : (OrderedMap.keys r.everywhere).Nodup
  byMenu : ∀ key, (OrderedMap.keys (layer r.byMenu key)).Nodup
  byActor : ∀ key, (OrderedMap.keys (layer r.byActor key)).Nodup

section

variable {α : Type} [DecidableEq α] {layers : OrderedMap α ResolverLayer}

/-- If no layer has a token twice, none has after a resolver was put into one of them. The layer in question takes it
in the place of the one before. -/
theorem nodup_layer_put (once : ∀ key, (OrderedMap.keys (layer layers key)).Nodup) (key : α) (token : String)
    (resolver : Resolver) (other : α) :
    (OrderedMap.keys (layer (layers.put key ((layer layers key).put token resolver)) other)).Nodup := by
  rw [layer_put]
  split
  · exact OrderedMap.nodup_put (once key)
  · exact once other

/-- If no layer has a token twice, none has after one of the layers was removed. -/
theorem nodup_layer_erase (once : ∀ key, (OrderedMap.keys (layer layers key)).Nodup) (key other : α) :
    (OrderedMap.keys (layer (layers.erase key) other)).Nodup := by
  unfold layer
  rw [OrderedMap.get?_erase]
  split
  · exact List.nodup_nil
  · exact once other

end

/-- Registering puts a resolver into one layer, in the place of another for the token. So a registry without doubles
stays one. -/
theorem Single.register {r registry : PlaceholderRegistry} (single : r.Single) {name : String} {resolver : Resolver}
    {scope : PlaceholderScope} (done : r.register name resolver scope = .ok registry) : registry.Single := by
  unfold PlaceholderRegistry.register at done
  split at done
  · cases done
  · dsimp only at done
    split at done
    · cases done
      exact { single with everywhere := OrderedMap.nodup_put single.everywhere }
    · cases done
    · cases done
    · cases done
      exact { single with byMenu := nodup_layer_put single.byMenu _ _ _ }
    · cases done
    · cases done
      exact { single with byActor := nodup_layer_put single.byActor _ _ _ }
    · cases done

/-- Whatever was registered and removed, no layer has two resolvers for a token. The induction is on how the registry
was made. -/
theorem Made.single {r : PlaceholderRegistry} (made : r.Made) : r.Single := by
  have nothing : Single {} := ⟨List.nodup_nil, fun _ => List.nodup_nil, fun _ => List.nodup_nil⟩
  induction made with
  | empty => exact nothing
  | registered made done ih => exact ih.register done
  | actorCleared made id ih => exact { ih with byActor := nodup_layer_erase ih.byActor _ }
  | menuCleared made id ih => exact { ih with byMenu := nodup_layer_erase ih.byMenu _ }
  | cleared made => exact nothing

/-- None of the layers that an actor in a menu sees has two resolvers for a token either. There are three of them,
each a layer of the registry. -/
theorem Single.of_mem_layers {r : PlaceholderRegistry} (single : r.Single) {actor : Actor} {menu : String}
    {resolvers : ResolverLayer} (member : resolvers ∈ r.layers actor menu) : (OrderedMap.keys resolvers).Nodup := by
  simp only [layers, List.mem_cons, List.not_mem_nil, or_false] at member
  rcases member with rfl | rfl | rfl
  · exact single.everywhere
  · exact single.byMenu _
  · exact single.byActor _

end PlaceholderRegistry

namespace Resolver

variable {classes : Classes} {actor : Actor} {topic : Topic}

/-- Of a layer that has one resolver for a token the text of this one counts. If it provides none, the layer provides
none. -/
theorem provided_of_nodup [Machine] {layer : ResolverLayer} (once : (OrderedMap.keys layer).Nodup) (token : String) :
    provided classes actor topic layer token =
      ((layer.get? token).bind (·.words? classes actor topic)).map .text := by
  induction layer with
  | nil => rfl
  | cons first others ih =>
    obtain ⟨name, resolver⟩ := first
    obtain ⟨absent, once⟩ := List.nodup_cons.mp once
    rw [← List.singleton_append, provided_append, ih once]
    by_cases same : name = token
    · have gone : OrderedMap.get? token others = none := OrderedMap.get?_eq_none (same ▸ absent)
      simp [provided, OrderedMap.get?, gone, same]
    · simp [provided, OrderedMap.get?, same]

/-- Of several layers the text of the uppermost resolver for the token counts that provides one. The induction is on
the layers, from the lowest up. -/
theorem provided_flatten [Machine] {layers : List ResolverLayer}
    (once : ∀ layer ∈ layers, (OrderedMap.keys layer).Nodup)
    (token : String) :
    provided classes actor topic layers.flatten token =
      ((layers.reverse.filterMap (·.get? token)).findSome? (·.words? classes actor topic)).map .text := by
  induction layers with
  | nil => rfl
  | cons layer layers ih =>
    obtain ⟨first, others⟩ := List.forall_mem_cons.mp once
    rw [List.flatten_cons, provided_append, ih others, provided_of_nodup first, List.reverse_cons,
      List.filterMap_append, List.findSome?_append, Option.map_or]
    congr 2
    cases held : OrderedMap.get? token layer with
    | none => simp [held]
    | some resolver => simp [held]

end Resolver

namespace PlaceholderRegistry

section

variable {classes : Classes} {r : PlaceholderRegistry} {actor : Actor} {menu name token : String}

/-- The resolvers for a token that an actor in a menu sees, the strongest first. -/
def resolvers (r : PlaceholderRegistry) (actor : Actor) (menu token : String) : List Resolver :=
  (r.layers actor menu).reverse.filterMap (·.get? token)

/-- A resolver for a token is one of those in the layers. So what holds of everything in the layers holds of it. -/
theorem mem_flatten_of_mem_resolvers {resolver : Resolver} (member : resolver ∈ r.resolvers actor menu token) :
    (token, resolver) ∈ (r.layers actor menu).flatten := by
  obtain ⟨layer, isLayer, held⟩ := List.mem_filterMap.mp member
  exact List.mem_flatten.mpr ⟨layer, List.mem_reverse.mp isLayer, OrderedMap.mem_of_get? held⟩

/-- Who asks for one token asks the strongest resolver for it, and no other. If there is none, nothing is answered. -/
theorem resolve_eq_head [Machine] :
    r.resolve classes actor menu name =
      match (r.resolvers actor menu (Placeholder.token name)).head? with
      | some resolver => resolver.text? classes actor .nothing
      | none => return none := by
  have strongest : (r.resolvers actor menu (Placeholder.token name)).head? =
      (r.layers actor menu).reverse.findSome? (·.get? (Placeholder.token name)) := List.head?_filterMap
  exact strongest ▸ rfl

/-- The strongest resolver for a token provides nothing, and a weaker one a text. -/
def Veiled [Machine] (classes : Classes) (r : PlaceholderRegistry) (actor : Actor) (menu token : String) : Prop :=
  ∃ strongest weaker, r.resolvers actor menu token = strongest :: weaker ∧
    strongest.words? classes actor .nothing = none ∧
    ∃ other ∈ weaker, (other.words? classes actor .nothing).isSome = true

/-- What the strongest resolver provides, the first that provides a text does. The search for a text ends there at
once. -/
theorem findSome?_of_head [Machine] {text : String}
    (provides : (r.resolvers actor menu token).head?.bind (·.words? classes actor .nothing) = some text) :
    (r.resolvers actor menu token).findSome? (·.words? classes actor .nothing) = some text := by
  cases listed : r.resolvers actor menu token with
  | nil => simp [listed] at provides
  | cons strongest weaker =>
    have first : strongest.words? classes actor .nothing = some text := by
      rw [listed] at provides
      exact provides
    rw [List.findSome?_cons_of_isSome (by rw [first]; rfl), first]

/-- The strongest resolver and the first that provides a text give the same, except where a silent one lies above.
That is the only way in which the two can differ, as they look at the same resolvers in the same order. -/
theorem head_eq_findSome?_iff [Machine] :
    (r.resolvers actor menu token).head?.bind (·.words? classes actor .nothing) =
        (r.resolvers actor menu token).findSome? (·.words? classes actor .nothing) ↔
      ¬Veiled classes r actor menu token := by
  unfold Veiled
  cases r.resolvers actor menu token with
  | nil => simp
  | cons strongest weaker =>
    cases provides : strongest.words? classes actor .nothing with
    | none =>
      rw [List.head?_cons, Option.bind_some, provides, List.findSome?_cons_of_isNone (by rw [provides]; rfl), eq_comm,
        List.findSome?_eq_none_iff]
      simp [provides, Option.isSome_iff_ne_none]
    | some text => simp [provides]

/-- The text of one token is steady if no resolver has a memory. The answer then does not depend on what was asked
before. -/
theorem steady_resolve [Machine] (pure : ∀ pair ∈ (r.layers actor menu).flatten, pair.2.isPure = true) :
    Steady classes (r.resolve classes actor menu name) := by
  rw [resolve_eq_head]
  split
  · rename_i resolver strongest
    exact Resolver.steady_text? (pure _ (mem_flatten_of_mem_resolvers (List.mem_of_head? strongest)))
  · exact steady_pure _

/-- The text of one token is what the strongest resolver provides, if its value can be written. Without such a
resolver there is none. -/
theorem answerOf_resolve [Machine]
    (speak : ∀ pair ∈ (r.layers actor menu).flatten, pair.2.Speaks classes actor .nothing) :
    answerOf (r.resolve classes actor menu name) =
      .ok ((r.resolvers actor menu (Placeholder.token name)).head?.bind (·.words? classes actor .nothing)) := by
  rw [resolve_eq_head]
  cases strongest : (r.resolvers actor menu (Placeholder.token name)).head? with
  | none => rfl
  | some resolver =>
    have speaks := speak _ (mem_flatten_of_mem_resolvers (List.mem_of_head? strongest))
    obtain ⟨words, told⟩ := Resolver.succeeds_text?.mpr speaks
    dsimp only
    rw [told, Option.bind_some, Resolver.words?_of_text? told]

/-- In the table of all tokens a token has the text of the strongest of its resolvers that provides one. Resolvers
below that one have been written over, and those above it provide nothing. -/
theorem Single.get?_resolveAll [Machine] (single : r.Single)
    (pure : ∀ pair ∈ (r.layers actor menu).flatten, pair.2.isPure = true) {table : Placeholder.Table}
    (answered : answerOf (r.resolveAll classes actor menu) = .ok table) (token : String) :
    table.get? token =
      ((r.resolvers actor menu token).findSome? (·.words? classes actor .nothing)).map .text := by
  have holds := Resolver.holds_putTexts pure Placeholder.holds_nil answered
  rw [holds.found, Option.or_none, Resolver.provided_flatten (fun _ => single.of_mem_layers)]
  rfl

/-- Of a registry that came about by registering and removing resolvers without a memory all tokens can be asked for
exactly if whatever the resolvers have can be written. Then one token can be asked for, too: the answer is what the
strongest of its resolvers provides, while the table has the text of the strongest that provides one. An answer is in
the table, and the two agree on a token exactly if no silent resolver for it lies above one that provides a text.

Proof: the table of all tokens is made by putting in the texts of the resolvers from the lowest layer to the highest,
so a token has the text of the last resolver that has one. The search for one token stops at the first layer that
knows it, which is the same resolver read from the other end. -/
theorem Made.resolve_exact [Machine] (made : r.Made)
    (pure : ∀ pair ∈ (r.layers actor menu).flatten, pair.2.isPure = true) {before : Ledger}
    (sound : before.accessors.Sound classes) :
    (Succeeds ((r.resolveAll classes actor menu).run.run before).1 ↔
      ∀ pair ∈ (r.layers actor menu).flatten, pair.2.Speaks classes actor .nothing) ∧
    ∀ table after, (r.resolveAll classes actor menu).run.run before = (.ok table, after) →
      ∀ later : Ledger, later.accessors.Sound classes → ∀ name, ∃ words final,
        (r.resolve classes actor menu name).run.run later = (.ok words, final) ∧
        words = (r.resolvers actor menu (Placeholder.token name)).head?.bind (·.words? classes actor .nothing) ∧
        table.get? (Placeholder.token name) =
          ((r.resolvers actor menu (Placeholder.token name)).findSome? (·.words? classes actor .nothing)).map .text ∧
        (∀ text, words = some text → table.get? (Placeholder.token name) = some (.text text)) ∧
        (words.map .text = table.get? (Placeholder.token name) ↔
          ¬Veiled classes r actor menu (Placeholder.token name)) ∧
        ((words = none ↔ table.has (Placeholder.token name) = false) ↔
          ¬Veiled classes r actor menu (Placeholder.token name)) := by
  have steady : Steady classes (r.resolveAll classes actor menu) := Resolver.steady_putTexts pure
  have speak : Succeeds (answerOf (r.resolveAll classes actor menu)) ↔
      ∀ pair ∈ (r.layers actor menu).flatten, pair.2.Speaks classes actor .nothing := Resolver.succeeds_putTexts pure
  rw [(steady before sound).1]
  refine ⟨speak, fun table after asked later soundLater name => ?_⟩
  have answered : answerOf (r.resolveAll classes actor menu) = .ok table := by
    rw [← (steady before sound).1, asked]
  have found := made.single.get?_resolveAll pure answered (Placeholder.token name)
  have one : answerOf (r.resolve classes actor menu name) =
      .ok ((r.resolvers actor menu (Placeholder.token name)).head?.bind (·.words? classes actor .nothing)) :=
    answerOf_resolve (speak.mp ⟨table, answered⟩)
  have told := (steady_resolve pure later soundLater).1.trans one
  refine ⟨_, _, Prod.ext told rfl, rfl, found, fun text provides => ?_, ?_, ?_⟩
  · rw [found, findSome?_of_head provides]
    rfl
  · rw [found, (Option.map_injective fun _ _ => Value.text.inj).eq_iff]
    exact head_eq_findSome?_iff
  · rw [← head_eq_findSome?_iff, OrderedMap.has, found, Option.isSome_eq_false_iff, Option.isNone_map,
      Option.isNone_iff_eq_none]
    constructor
    · intro alike
      cases provides : (r.resolvers actor menu (Placeholder.token name)).head?.bind
        (·.words? classes actor .nothing) with
      | none => exact (alike.mp provides).symm
      | some text => exact (findSome?_of_head provides).symm
    · intro same
      rw [same]

end

/-- A registry with a resolver for three tokens for everyone, and for each of them one for an actor: one that fails, one
that has no value and one that has one. -/
def hushed : PlaceholderRegistry where
  everywhere := [("\x7bx\x7d", .const (.text "low")), ("\x7by\x7d", .const (.text "low")),
    ("\x7bz\x7d", .const (.text "low"))]
  byActor := [(.text "ann", [("\x7bx\x7d", .raise "down"), ("\x7by\x7d", .const .null),
    ("\x7bz\x7d", .const (.text "high"))])]

/-- The registry with the silent resolver comes about by registering, one resolver after another. -/
theorem made_hushed : hushed.Made := by
  have everyone {r : PlaceholderRegistry} (made : r.Made) (name : String) :
      Made { r with everywhere := r.everywhere.put (Placeholder.token name) (.const (.text "low")) } :=
    made.registered (rfl : r.register name (.const (.text "low")) .everywhere = .ok _)
  have first : Made _ := everyone (everyone (everyone .empty "x") "y") "z"
  have failing := first.registered
    (rfl : PlaceholderRegistry.register _ "x" (.raise "down") (.actor (some "ann")) = .ok _)
  have silent := failing.registered
    (rfl : PlaceholderRegistry.register _ "y" (.const .null) (.actor (some "ann")) = .ok _)
  exact silent.registered
    (rfl : PlaceholderRegistry.register _ "z" (.const (.text "high")) (.actor (some "ann")) = .ok _)

/-- No resolver that the actor sees in this registry has a memory. There are six of them at most to look at. -/
theorem pure_hushed : ∀ pair ∈ (hushed.layers Placeholders.ann "shop").flatten, pair.2.isPure = true := by
  decide

/-- Asked for the last of its tokens, the registry with the silent resolver answers what the table has. -/
theorem resolve_hushed :
    ∃ table after words final,
      (hushed.resolveAll {} Placeholders.ann "shop").run.run {} = (.ok table, after) ∧
      (hushed.resolve {} Placeholders.ann "shop" "z").run.run {} = (.ok words, final) ∧
      words = some "high" ∧ table.get? "\x7bz\x7d" = some (.text "high") ∧
      ¬Veiled {} hushed Placeholders.ann "shop" "\x7bz\x7d" := by
  have sound : ({} : Ledger).accessors.Sound {} := sound_nil
  obtain ⟨-, given⟩ := made_hushed.resolve_exact pure_hushed sound
  have answers : ((hushed.resolveAll {} Placeholders.ann "shop").run.run {}).1.toOption.map
      (·.has (Placeholder.token "z")) = some true := by decide +kernel
  have strongest : (hushed.resolvers Placeholders.ann "shop" (Placeholder.token "z")).head?.bind
      (·.words? {} Placeholders.ann .nothing) = some "high" := by decide +kernel
  obtain ⟨table, after, asked, -⟩ := answered_of_map answers
  obtain ⟨words, final, told, provides, -, held, alike, -⟩ := given table after asked {} sound "z"
  rw [strongest] at provides
  have high := held "high" provides
  refine ⟨table, after, words, final, asked, told, provides, high, alike.mp ?_⟩
  rw [high, provides]
  rfl

/-- Asked for the others, the registry with the silent resolver answers nothing, although the table has a text for
them. -/
theorem resolve_misses :
    hushed.Made ∧ (∀ pair ∈ (hushed.layers Placeholders.ann "shop").flatten, pair.2.isPure = true) ∧
    ["x", "y"].map (fun name => ((hushed.resolve {} Placeholders.ann "shop" name).run.run {}).1.toOption) =
      [some none, some none] ∧
    ((hushed.resolveAll {} Placeholders.ann "shop").run.run {}).1.toOption.map (fun table =>
      ["x", "y"].map fun name => (table.get? (Placeholder.token name)).map Value.label) =
        some [some "low", some "low"] :=
  ⟨made_hushed, pure_hushed, by decide +kernel, by decide +kernel⟩

end PlaceholderRegistry

end ChestMenu
