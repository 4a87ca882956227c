import ChestMenu.Proofs.Building
import ChestMenu.Proofs.Registries

/-!
# Which value a token gets

The table of a drawing has layers: from above, the page, the resolvers for the types of the context, the fields of the
context, the actor, the resolvers for the actor, for the menu and for everywhere, and the menu's own placeholders. A
token has the value that the highest layer gives it, and is absent if none gives it one. A resolver that fails or has
no value gives none, so that what lies below it shows. For an item its resolvers and, below these, its own
placeholders lie above all layers.

Each layer is described by what it gives to a token, and a table by the source that it holds; the source of a table
that is put together is that of the upper part, above that of the lower one.
-/
namespace ChestMenu

open ChestMenu.Number

namespace Placeholder

/-- What gives values to tokens. -/
abbrev Source := String → Option Value

/-- A table holds what a source gives, and each token once. -/
structure Table.Holds (table : Table) (source : Source) : Prop where
  once : (OrderedMap.keys table).Nodup
  found : ∀ token, table.get? token = source token

namespace Table.Holds

variable {lower upper : Table} {source above : Source}

/-- The source of a table can be described in other words, as long as these give the same for each token. -/
theorem congr (holds : lower.Holds source) (same : ∀ token, source token = above token) : lower.Holds above where
  once := holds.once
  found token := (holds.found token).trans (same token)

/-- Pairs that are entered into a table lie above what it holds, the last of them on top. What the table held before
shows where no pair has the token. -/
theorem entering (holds : lower.Holds source) (pairs : List (String × Value)) :
    Holds (lower.putAll pairs) fun token => (OrderedMap.last? token pairs).or (source token) where
  once := OrderedMap.nodup_putAll holds.once
  found token := by rw [OrderedMap.get?_putAll, holds.found]

/-- A table that is entered into another lies above it. What each of the two holds is known by its source, so the two
sources are asked one after the other. -/
theorem covering (holds : upper.Holds above) (covers : lower.Holds source) :
    Holds (lower.putAll upper) fun token => (above token).or (source token) :=
  (covers.entering upper).congr fun token => by rw [OrderedMap.last?_eq_get? holds.once, holds.found]

end Table.Holds

/-- The empty table holds what gives nothing. -/
theorem holds_nil : Table.Holds [] fun _ => none where
  once := List.nodup_nil
  found _ := rfl

/-- The source of values under names. Of several names for one token the last counts. -/
def named (entries : OrderedMap String Value) : Source := fun name =>
  entries.reverse.findSome? fun entry => if token entry.1 = name then some entry.2 else none

/-- A table under the tokens of its names holds the values by their names. Two names with one token are resolved in
favour of the later one. -/
theorem holds_tokenTable (entries : OrderedMap String Value) : Table.Holds (tokenTable entries) (named entries) :=
  (holds_nil.entering _).congr fun token => by
    rw [Option.or_none, OrderedMap.last?, ← List.map_reverse, List.findSome?_map]
    rfl

end Placeholder

variable [Machine]

namespace Resolver

variable {classes : Classes} {actor : Actor} {topic : Topic}

/-- The text that a resolver without a memory provides: none if it fails or has no value. -/
def words? (classes : Classes) (actor : Actor) (topic : Topic) (resolver : Resolver) : Option String :=
  match answerOf (resolver.run classes actor topic) with
  | .ok answer => (said answer).toOption.join
  | .error _ => none

/-- Whatever value a resolver without a memory has can be written. -/
def Speaks (classes : Classes) (actor : Actor) (topic : Topic) (resolver : Resolver) : Prop :=
  ∀ answer, answerOf (resolver.run classes actor topic) = .ok answer → Succeeds (said answer)

/-- Only null comes to nothing. Any other value either has a text or fails to be written. -/
theorem said_eq_none_iff {answer : Value} : said answer = .ok none ↔ answer = .null := by
  unfold said
  split
  · simp
  · simp
  · rename_i notNull _
    refine iff_of_false ?_ notNull
    cases answer.shown <;> simp [Except.map]

/-- A resolver whose value can be written provides nothing exactly if it has none or fails. So a layer shows through
it in these two cases only. -/
theorem words?_eq_none_iff {resolver : Resolver} (speaks : resolver.Speaks classes actor topic) :
    resolver.words? classes actor topic = none ↔
      answerOf (resolver.run classes actor topic) = .ok .null ∨
        ∃ cause, answerOf (resolver.run classes actor topic) = .error cause := by
  unfold words?
  cases asked : answerOf (resolver.run classes actor topic) with
  | error cause => simp
  | ok answer =>
    obtain ⟨words, isSaid⟩ := speaks answer asked
    have silent : words = none ↔ answer = .null := by
      rw [← said_eq_none_iff, isSaid, Except.ok.injEq]
    simp [isSaid, Except.toOption, silent]

/-- The source of several resolvers for tokens. Of those for one token the last counts that provides a text. -/
def provided (classes : Classes) (actor : Actor) (topic : Topic) (resolvers : List (String × Resolver)) :
    Placeholder.Source := fun token =>
  resolvers.reverse.findSome? fun pair =>
    if pair.1 = token then (pair.2.words? classes actor topic).map .text else none

/-- What a resolver is asked for comes to what it says, and to nothing if it fails. The failure itself is noted, and
does not go further. -/
theorem answerOf_text? (resolver : Resolver) :
    answerOf (resolver.text? classes actor topic) =
      match answerOf (resolver.run classes actor topic) with
      | .ok answer => said answer
      | .error _ => .ok none := by
  unfold answerOf
  rw [run_text?]
  rcases (resolver.run classes actor topic).run.run {} with ⟨cause | answer, after⟩ <;> rfl

/-- The text of a resolver, once it is there, is the one that the resolver provides. -/
theorem words?_of_text? {resolver : Resolver} {words : Option String}
    (told : answerOf (resolver.text? classes actor topic) = .ok words) :
    resolver.words? classes actor topic = words := by
  rw [answerOf_text?] at told
  unfold words?
  cases asked : answerOf (resolver.run classes actor topic) with
  | error cause =>
    rw [asked] at told
    cases told
    rfl
  | ok answer =>
    rw [asked] at told
    dsimp only at told ⊢
    rw [told]
    rfl

/-- The text of a resolver is there exactly if its value can be written. A resolver that fails gives none, which
counts as being there. -/
theorem succeeds_text? {resolver : Resolver} :
    Succeeds (answerOf (resolver.text? classes actor topic)) ↔ resolver.Speaks classes actor topic := by
  rw [answerOf_text?]
  unfold Speaks
  cases answerOf (resolver.run classes actor topic) with
  | error cause => exact iff_of_true (succeeds_ok none) fun answer same => nomatch same
  | ok answer =>
    constructor
    · rintro told _ ⟨⟩
      exact told
    · exact fun told => told answer rfl

/-- Of two lists of resolvers the second lies above the first. The first is asked only for what the second does not
provide. -/
theorem provided_append (before after : List (String × Resolver)) (token : String) :
    provided classes actor topic (before ++ after) token =
      (provided classes actor topic after token).or (provided classes actor topic before token) := by
  rw [provided, List.reverse_append, List.findSome?_append]
  rfl

/-- The texts of resolvers without a memory lie above the table that they are put into. The induction is on the
resolvers, each of which covers the table that the ones before it have filled. -/
theorem holds_putTexts {resolvers : List (String × Resolver)} (pure : ∀ pair ∈ resolvers, pair.2.isPure = true)
    {table filled : Placeholder.Table} {source : Placeholder.Source} (holds : table.Holds source)
    (put : answerOf (putTexts classes actor topic table resolvers) = .ok filled) :
    filled.Holds fun token => (provided classes actor topic resolvers token).or (source token) := by
  induction resolvers generalizing table source with
  | nil =>
    cases put
    exact holds
  | cons pair others ih =>
    obtain ⟨name, resolver⟩ := pair
    obtain ⟨isPure, arePure⟩ := List.forall_mem_cons.mp pure
    rw [Placeholders.answerOf_putTexts_cons isPure arePure] at put
    obtain ⟨words, told, put⟩ := ok_of_bind put
    have provides := words?_of_text? told
    have first (token : String) : provided classes actor topic ((name, resolver) :: others) token =
        (provided classes actor topic others token).or (if name = token then words.map .text else none) := by
      rw [← List.singleton_append, provided_append]
      simp [provided, provides]
    cases words with
    | none =>
      refine (ih arePure holds put).congr fun token => ?_
      simp [first]
    | some text =>
      refine (ih arePure (holds.entering [(name, .text text)]) put).congr fun token => ?_
      simp [first, OrderedMap.last?, Option.or_assoc]

/-- The texts of resolvers without a memory are there exactly if the values of all of them can be written. The first
value that cannot be written stops all the others. -/
theorem succeeds_putTexts {resolvers : List (String × Resolver)} (pure : ∀ pair ∈ resolvers, pair.2.isPure = true)
    {table : Placeholder.Table} :
    Succeeds (answerOf (putTexts classes actor topic table resolvers)) ↔
      ∀ pair ∈ resolvers, pair.2.Speaks classes actor topic := by
  induction resolvers generalizing table with
  | nil => exact iff_of_true (succeeds_ok table) fun pair member => nomatch member
  | cons pair others ih =>
    obtain ⟨name, resolver⟩ := pair
    obtain ⟨isPure, arePure⟩ := List.forall_mem_cons.mp pure
    rw [Placeholders.answerOf_putTexts_cons isPure arePure,
      succeeds_bind_and succeeds_text? fun _ _ => ih arePure, List.forall_mem_cons]

end Resolver

namespace Placeholders

variable {classes : Classes} {p : Placeholders} {actor : Actor} {menu : Menu} {view : Option View} {context : Value}

/-- What the page gives, counted from one, on a menu that has pages. -/
def pageSource (menu : Menu) (page : Int) : Placeholder.Source := fun token =>
  if !menu.isPaginated then none
  else if token = "\x7bpage\x7d" then some (.text (integerText (page + 1)))
  else if token = "\x7btotal_pages\x7d" then some (.text (integerText menu.totalPages))
  else none

/-- What the actor gives. -/
def actorSource (actor : Actor) : Placeholder.Source := fun token =>
  if token = "\x7bplayer\x7d" then some actor.name
  else if token = "\x7bplayer_uuid\x7d" then some actor.id
  else none

/-- What a field gives: to the token of its name its text, if it has one. -/
def fieldText? (token : String) (field : Value × Value) : Option Value :=
  match field.1.plain, field.2.placeholderText? with
  | .text name, .ok (some shown) => if "\x7bcontext." ++ name ++ "\x7d" = token then some (.text shown) else none
  | _, _ => none

/-- What the fields of a context give. -/
def fieldSource (classes : Classes) (context : Value) : Placeholder.Source := fun token =>
  match (Discovery.fields classes [] context).1 with
  | .ok pairs => pairs.reverse.findSome? (fieldText? token)
  | .error _ => none

/-- What the resolvers for the types of a context give: of the types that it is an instance of, the last that was given
a resolver first counts. No context has no type. -/
def typeSource (classes : Classes) (p : Placeholders) (actor : Actor) (context : Value) : Placeholder.Source :=
  fun token =>
    match context with
    | .null => none
    | context => p.contextRegistry.reverse.findSome? fun layer =>
      if classes.isInstance context layer.1 then
        Resolver.provided classes actor (.context context) layer.2 token
      else none

/-- The layers of a drawing, from above. -/
def sources (classes : Classes) (p : Placeholders) (actor : Actor) (menu : Menu) (view : Option View) :
    List Placeholder.Source :=
  let context := (view.map (·.context)).getD .null
  [pageSource menu ((view.map (·.page)).getD 0),
    typeSource classes p actor context,
    fieldSource classes context,
    actorSource actor,
    Resolver.provided classes actor .nothing (PlaceholderRegistry.layer p.registry.byActor actor.key),
    Resolver.provided classes actor .nothing (PlaceholderRegistry.layer p.registry.byMenu (MenuName.key menu.id)),
    Resolver.provided classes actor .nothing p.registry.everywhere,
    Placeholder.named menu.placeholders]

/-- The layers of an item above those of a drawing, from above. -/
def itemSources (classes : Classes) (actor : Actor) (entry : Entry) : List Placeholder.Source :=
  [Resolver.provided classes actor .nothing
      (entry.dynamicPlaceholders.map fun pair => (Placeholder.token pair.1, pair.2)),
    Placeholder.named entry.placeholders]

omit [Machine] in
/-- The tokens of the page hold its number, counted from one, and the number of pages. On a menu without pages there
are none. -/
theorem holds_ofPage {page : Int} {table : Placeholder.Table} (paged : ofPage menu page = .ok table) :
    table.Holds (pageSource menu page) := by
  unfold ofPage at paged
  unfold pageSource
  have written {n : Int} {text : String} (told : integerShown n = .ok text) : integerText n = text := by
    unfold integerShown integerText? at told
    split at told
    · rename_i shown isShown
      split at isShown
      · cases told
        exact Option.some.inj isShown
      · cases isShown
    · cases told
  cases isPaginated : menu.isPaginated with
  | false =>
    rw [isPaginated] at paged
    cases paged
    exact Placeholder.holds_nil
  | true =>
    rw [isPaginated] at paged
    obtain ⟨present, told, paged⟩ := ok_of_bind paged
    obtain ⟨total, counted, paged⟩ := ok_of_bind paged
    cases paged
    refine ⟨by simp [OrderedMap.keys], fun token => ?_⟩
    rw [written told, written counted]
    simp [OrderedMap.get?, eq_comm]

omit [Machine] in
/-- The tokens of an actor hold the name and the id of the actor. -/
theorem holds_ofActor (actor : Actor) : Placeholder.Table.Holds (ofActor actor) (actorSource actor) where
  once := by simp [ofActor, OrderedMap.keys]
  found token := by simp [ofActor, actorSource, OrderedMap.get?, eq_comm]

/-- The tokens of the fields of a context are those of the pairs that tell one. Of two with the same token the later
counts. -/
theorem last?_tokensOfFields {pairs : List (Value × Value)} {told : List (String × String)}
    (isTold : Discovery.tokensOfFields pairs = .ok told) (token : String) :
    OrderedMap.last? token (Placeholder.textTable told) = pairs.reverse.findSome? (fieldText? token) := by
  induction pairs generalizing told with
  | nil =>
    cases isTold
    rfl
  | cons field pairs ih =>
    obtain ⟨key, value⟩ := field
    unfold Discovery.tokensOfFields at isTold ih
    rw [List.filterMapM_cons] at isTold
    obtain ⟨words, one, others⟩ := ok_of_bind isTold
    obtain ⟨shown, isShown, one⟩ := ok_of_bind one
    have first : fieldText? token (key, value) = OrderedMap.last? token (Placeholder.textTable words.toList) := by
      unfold fieldText?
      rw [isShown]
      cases shown with
      | none =>
        cases one
        cases key.plain <;> rfl
      | some text =>
        cases isName : key.plain with
        | text name =>
          rw [isName] at one
          cases one
          simp [OrderedMap.last?, Placeholder.textTable]
        | _ =>
          rw [isName] at one
          cases one
    rw [List.reverse_cons, List.findSome?_append, List.findSome?_singleton, first]
    cases words with
    | none =>
      rw [← ih others]
      exact Option.or_none.symm
    | some pair =>
      obtain ⟨behind, rest, same⟩ := ok_of_bind others
      cases same
      rw [← ih rest, ← OrderedMap.last?_append]
      rfl

/-- Of the resolvers for the types of a context those count that lie highest among the types that it is an instance
of. Types that it is no instance of have no part in it. -/
theorem provided_matching (registry : ContextRegistry) (token : String) :
    Resolver.provided classes actor (.context context) (registry.matching classes context) token =
      registry.reverse.findSome? fun layer =>
        if classes.isInstance context layer.1 then Resolver.provided classes actor (.context context) layer.2 token
        else none := by
  induction registry with
  | nil => rfl
  | cons layer registry ih =>
    obtain ⟨type, resolvers⟩ := layer
    unfold ContextRegistry.matching at ih ⊢
    rw [List.flatMap_cons, Resolver.provided_append, ih, List.reverse_cons, List.findSome?_append,
      List.findSome?_singleton]
    congr 1
    dsimp only
    split <;> rfl

/-- What a context that is there gives and what the actor gives, put together. A context that is null is not asked for
anything, which is another case. -/
theorem IsPure.answerOf_ofContext (pure : p.IsPure) (isThere : context ≠ .null) :
    answerOf (p.ofContext classes actor context) =
      (Discovery.tokens classes [] context).1 >>= fun fields =>
        answerOf (Resolver.putTexts classes actor (.context context) []
          (p.contextRegistry.matching classes context)) >>= fun typed =>
            Pure.pure (((ofActor actor).putAll (Placeholder.textTable fields)).putAll typed) := by
  have steady (fields : List (String × String)) : Steady classes (do
      let typed ← p.contextRegistry.resolveAll classes actor context
      return ((ofActor actor).putAll (Placeholder.textTable fields)).putAll typed) :=
    steady_bind (pure.steady_typed context) fun typed => steady_pure _
  unfold ofContext
  dsimp only
  split
  · exact absurd rfl isThere
  · rw [← ContextRegistry.resolveAll_of_ne_null isThere]
    refine (answerOf_bind steady_tokens steady).trans (congrArg (_ >>= ·) (funext fun fields => ?_))
    exact answerOf_bind (pure.steady_typed context) fun typed => steady_pure _

/-- The tokens of an actor and a context: those of the types of the context above those of its fields, and these above
those of the actor. Each covers the one before it. -/
theorem IsPure.holds_ofContext (pure : p.IsPure) {contextual : Placeholder.Table}
    (resolved : answerOf (p.ofContext classes actor context) = .ok contextual) :
    contextual.Holds fun token => (typeSource classes p actor context token).or
      ((fieldSource classes context token).or (actorSource actor token)) := by
  by_cases isThere : context = .null
  · subst isThere
    cases resolved
    exact holds_ofActor actor
  · rw [pure.answerOf_ofContext isThere] at resolved
    obtain ⟨listed, isListed, resolved⟩ := ok_of_bind resolved
    obtain ⟨typed, put, resolved⟩ := ok_of_bind resolved
    cases resolved
    have isRead : (Discovery.fields classes [] context).1 >>= Discovery.tokensOfFields = .ok listed := isListed
    obtain ⟨pairs, read, told⟩ := ok_of_bind isRead
    have fields (token : String) :
        OrderedMap.last? token (Placeholder.textTable listed) = fieldSource classes context token := by
      unfold fieldSource
      rw [read]
      exact last?_tokensOfFields told token
    have types (token : String) : typeSource classes p actor context token =
        Resolver.provided classes actor (.context context) (p.contextRegistry.matching classes context) token := by
      unfold typeSource
      split
      · exact absurd rfl isThere
      · exact (provided_matching p.contextRegistry token).symm
    have upper := Resolver.holds_putTexts (fun _ member => pure.of_mem_matching member) Placeholder.holds_nil put
    refine (upper.covering ((holds_ofActor actor).entering _)).congr fun token => ?_
    rw [fields, types, Option.or_none]

/-- The texts of the registered resolvers: those for the actor above those for the menu, and these above those for
everywhere. The registry keeps them in this order from the top down. -/
theorem IsPure.holds_registered (pure : p.IsPure) {id : String} {registered : Placeholder.Table}
    (resolved : answerOf (p.registry.resolveAll classes actor id) = .ok registered) :
    registered.Holds fun token =>
      (Resolver.provided classes actor .nothing (PlaceholderRegistry.layer p.registry.byActor actor.key) token).or
        ((Resolver.provided classes actor .nothing (PlaceholderRegistry.layer p.registry.byMenu (MenuName.key id))
          token).or (Resolver.provided classes actor .nothing p.registry.everywhere token)) := by
  refine (Resolver.holds_putTexts (fun _ member => pure.of_mem_layers member) Placeholder.holds_nil resolved).congr
    fun token => ?_
  simp only [PlaceholderRegistry.layers, List.flatten_cons, List.flatten_nil, List.append_nil,
    Resolver.provided_append, Option.or_none, Option.or_assoc]

/-- A table for a drawing is put together from three others above the menu's own placeholders. The four are entered
into each other in this order, each above what is there. -/
theorem IsPure.answerOf_build (pure : p.IsPure) :
    answerOf (p.build classes actor menu view) =
      answerOf (p.registry.resolveAll classes actor menu.id) >>= fun registered =>
        answerOf (p.ofContext classes actor ((view.map (·.context)).getD .null)) >>= fun contextual =>
          ofPage menu ((view.map (·.page)).getD 0) >>= fun paged =>
            Pure.pure
              ((((Placeholder.tokenTable menu.placeholders).putAll registered).putAll contextual).putAll paged) := by
  have lowest (lower : Placeholder.Table) : Steady classes (do
      let paged ← ExceptT.mk (Pure.pure (ofPage menu ((view.map (·.page)).getD 0)))
      return lower.putAll paged) :=
    steady_bind (steady_result _) fun paged => steady_pure _
  have lower (own : Placeholder.Table) : Steady classes (do
      let contextual ← p.ofContext classes actor ((view.map (·.context)).getD .null)
      let paged ← ExceptT.mk (Pure.pure (ofPage menu ((view.map (·.page)).getD 0)))
      return (own.putAll contextual).putAll paged) :=
    steady_bind (pure.steady_ofContext _) fun contextual => lowest _
  refine (answerOf_bind (pure.steady_registered menu.id) fun registered => lower _).trans
    (congrArg (_ >>= ·) (funext fun registered => ?_))
  refine (answerOf_bind (pure.steady_ofContext _) fun contextual => lowest _).trans
    (congrArg (_ >>= ·) (funext fun contextual => ?_))
  cases ofPage menu ((view.map (·.page)).getD 0) <;> rfl

omit [Machine] in
/-- What is found first in a list of sources is what the first of them gives, or else what is found in the others. So
the first of a list of sources is the uppermost. -/
theorem findSome?_sources (first : Placeholder.Source) (others : List Placeholder.Source) (token : String) :
    (first :: others).findSome? (· token) = (first token).or (others.findSome? (· token)) := by
  rw [List.findSome?_cons]
  cases first token <;> rfl

/-- The table of a drawing holds what its layers give, from above. This is the order in which the code enters them,
read from the last to the first. -/
theorem IsPure.holds_build (pure : p.IsPure) {table : Placeholder.Table}
    (built : answerOf (p.build classes actor menu view) = .ok table) :
    table.Holds fun token => (p.sources classes actor menu view).findSome? (· token) := by
  rw [pure.answerOf_build] at built
  obtain ⟨registered, resolved, built⟩ := ok_of_bind built
  obtain ⟨contextual, told, built⟩ := ok_of_bind built
  obtain ⟨paged, isPaged, built⟩ := ok_of_bind built
  cases built
  have lower := (pure.holds_registered resolved).covering (Placeholder.holds_tokenTable menu.placeholders)
  refine ((holds_ofPage isPaged).covering ((pure.holds_ofContext told).covering lower)).congr fun token => ?_
  simp only [sources, findSome?_sources, List.findSome?_nil, Option.or_none, Option.or_assoc]

/-- The table for an item holds what its layers give, above what those of the drawing give. The resolvers of the item
are on top, and its own placeholders below them. -/
theorem holds_forItem {entry : Entry} (pure : entry.IsPure) {base filled : Placeholder.Table}
    {lower : List Placeholder.Source} (holds : base.Holds fun token => lower.findSome? (· token))
    (resolved : answerOf (forItem classes base entry actor) = .ok filled) :
    filled.Holds fun token => (itemSources classes actor entry ++ lower).findSome? (· token) := by
  have own := (Placeholder.holds_tokenTable entry.placeholders).covering holds
  refine (Resolver.holds_putTexts (fun _ member => pure.of_mem_tokens member) own resolved).congr fun token => ?_
  simp only [itemSources, List.cons_append, List.nil_append, findSome?_sources]

/-- The table for an item is there exactly if the values of its resolvers can be written. Its own placeholders are
values already. -/
theorem succeeds_forItem {entry : Entry} (pure : entry.IsPure) {base : Placeholder.Table} :
    Succeeds (answerOf (forItem classes base entry actor)) ↔
      ∀ pair ∈ entry.dynamicPlaceholders, pair.2.Speaks classes actor .nothing :=
  (Resolver.succeeds_putTexts fun _ member => pure.of_mem_tokens member).trans List.forall_mem_map

/-- Everything that is asked for the table of a drawing can be written: the values of the resolvers, the fields of the
context and the page. -/
structure Legible (classes : Classes) (p : Placeholders) (actor : Actor) (menu : Menu) (view : Option View) :
    Prop where
  registered : ∀ pair ∈ (p.registry.layers actor menu.id).flatten, pair.2.Speaks classes actor .nothing
  context : (view.map (·.context)).getD .null ≠ .null →
    Succeeds (Discovery.tokens classes [] ((view.map (·.context)).getD .null)).1 ∧
      ∀ pair ∈ p.contextRegistry.matching classes ((view.map (·.context)).getD .null),
        pair.2.Speaks classes actor (.context ((view.map (·.context)).getD .null))
  page : PageShort menu ((view.map (·.page)).getD 0)

/-- The table of a drawing is there exactly if everything that is asked for it can be written. That is asked of the
registered resolvers, the context and the page, in this order. -/
theorem IsPure.succeeds_build (pure : p.IsPure) :
    Succeeds (answerOf (p.build classes actor menu view)) ↔ p.Legible classes actor menu view := by
  have registered : Succeeds (answerOf (p.registry.resolveAll classes actor menu.id)) ↔
      ∀ pair ∈ (p.registry.layers actor menu.id).flatten, pair.2.Speaks classes actor .nothing :=
    Resolver.succeeds_putTexts fun _ member => pure.of_mem_layers member
  have contextual (context : Value) : Succeeds (answerOf (p.ofContext classes actor context)) ↔
      (context ≠ .null → Succeeds (Discovery.tokens classes [] context).1 ∧
        ∀ pair ∈ p.contextRegistry.matching classes context, pair.2.Speaks classes actor (.context context)) := by
    by_cases isThere : context = .null
    · subst isThere
      exact iff_of_true ⟨ofActor actor, rfl⟩ fun apart => absurd rfl apart
    · rw [imp_iff_right isThere, pure.answerOf_ofContext isThere]
      refine succeeds_bind_and .rfl fun fields _ => ?_
      rw [succeeds_bind_pure]
      exact Resolver.succeeds_putTexts fun _ member => pure.of_mem_matching member
  rw [pure.answerOf_build, succeeds_bind_and registered fun _ _ => succeeds_bind_and (contextual _) fun _ _ =>
    succeeds_bind_pure.trans succeeds_ofPage]
  constructor
  · rintro ⟨spoken, told, short⟩
    exact ⟨spoken, told, short⟩
  · exact fun legible => ⟨legible.registered, legible.context, legible.page⟩

end Placeholders

end ChestMenu
