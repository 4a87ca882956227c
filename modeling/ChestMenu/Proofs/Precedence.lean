import ChestMenu.Proofs.Layers
import ChestMenu.Proofs.Stacking

/-!
# The order of the layers

A token has the value that the highest of the layers gives it that gives it one, and is absent if none does; for an
item its own layers lie above. Among the types of a context that one lies highest which was given a resolver last,
counted from its first resolver; a type that lost its resolvers starts anew. Registering for a menu reaches all menus
whose names differ in case only.
-/
namespace ChestMenu

/-- One time is known and comes before another that is known. -/
def Earlier (first second : Option Nat) : Prop :=
  ∃ m n, first = some m ∧ second = some n ∧ m < n

/-- Of two times not each comes before the other. -/
theorem Earlier.asymm {first second : Option Nat} (earlier : Earlier first second) : ¬Earlier second first := by
  rintro ⟨n, m, isSecond, isFirst, later⟩
  obtain ⟨m', n', isFirst', isSecond', sooner⟩ := earlier
  cases isFirst.symm.trans isFirst'
  cases isSecond.symm.trans isSecond'
  omega

/-- The registries for types that come about by registering and removing. To each belongs the time since when a type
has had resolvers without a break, and the number of registrations so far. -/
inductive ContextRegistry.Made : ContextRegistry → (String → Option Nat) → Nat → Prop where
  | empty : Made [] (fun _ => none) 0
  | registered {r registry : ContextRegistry} {since : String → Option Nat} {now : Nat} {type name : String}
      {resolver : Resolver} (made : Made r since now) (done : r.register type name resolver = .ok registry) :
      Made registry (fun other => if other = type then (since type).or (some now) else since other) (now + 1)
  | unregistered {r : ContextRegistry} {since : String → Option Nat} {now : Nat} (made : Made r since now)
      (type : String) : Made (OrderedMap.erase type r) (fun other => if other = type then none else since other) now
  | cleared {r : ContextRegistry} {since : String → Option Nat} {now : Nat} (made : Made r since now) :
      Made [] (fun _ => none) now

/-- Types in the order in which they got their resolvers. -/
structure Dated (since : String → Option Nat) (now : Nat) (types : List String) : Prop where
  known : ∀ type, type ∈ types ↔ ∃ n, since type = some n
  past : ∀ type n, since type = some n → n < now
  ordered : types.Pairwise fun first second => Earlier (since first) (since second)

namespace Dated

variable {since : String → Option Nat} {now : Nat} {types : List String} {type : String}

/-- A type that has resolvers keeps its time and its place. Registering for it once more is no new beginning. -/
theorem again (dated : Dated since now types) (there : type ∈ types) :
    Dated (fun other => if other = type then (since type).or (some now) else since other) (now + 1) types := by
  have same : (fun other => if other = type then (since type).or (some now) else since other) = since := by
    obtain ⟨n, isSince⟩ := (dated.known type).mp there
    funext other
    split
    · rename_i isType
      rw [isType, isSince]
      rfl
    · rfl
  rw [same]
  exact ⟨dated.known, fun other n isSince => Nat.lt_succ_of_lt (dated.past other n isSince), dated.ordered⟩

/-- A type that has none comes last. Its time is later than that of all others. -/
theorem anew (dated : Dated since now types) (absent : type ∉ types) :
    Dated (fun other => if other = type then (since type).or (some now) else since other) (now + 1)
      (types ++ [type]) := by
  have isNew : since type = none := by
    cases isSince : since type with
    | none => rfl
    | some n => exact absurd ((dated.known type).mpr ⟨n, isSince⟩) absent
  have old {other : String} (member : other ∈ types) : other ≠ type := fun same => absent (same ▸ member)
  refine ⟨fun other => ?_, fun other n isSince => ?_, ?_⟩
  · by_cases same : other = type
    · simp [same, isNew]
    · simp [same, dated.known]
  · by_cases same : other = type
    · simp only [same, if_true, isNew, Option.none_or, Option.some.injEq] at isSince
      omega
    · rw [if_neg same] at isSince
      exact Nat.lt_succ_of_lt (dated.past other n isSince)
  · refine List.pairwise_append.mpr ⟨dated.ordered.imp_of_mem ?_, List.pairwise_singleton _ _, ?_⟩
    · intro first second isFirst isSecond earlier
      rwa [if_neg (old isFirst), if_neg (old isSecond)]
    · intro first isFirst last isLast
      cases List.mem_singleton.mp isLast
      obtain ⟨n, isSince⟩ := (dated.known first).mp isFirst
      rw [if_neg (old isFirst), if_pos rfl, isNew]
      exact ⟨n, now, isSince, rfl, dated.past first n isSince⟩

/-- A type that loses its resolvers leaves the others in their order. It has no time any more and will come last when
it is given resolvers again. -/
theorem without (dated : Dated since now types) (type : String) :
    Dated (fun other => if other = type then none else since other) now (types.filter (· ≠ type)) := by
  refine ⟨fun other => ?_, fun other n isSince => ?_, ?_⟩
  · by_cases same : other = type
    · simp [same]
    · simp [same, dated.known]
  · split at isSince
    · cases isSince
    · exact dated.past other n isSince
  · refine (dated.ordered.filter _).imp_of_mem ?_
    intro first second isFirst isSecond earlier
    have firstLeft : first ≠ type := of_decide_eq_true (List.mem_filter.mp isFirst).2
    have secondLeft : second ≠ type := of_decide_eq_true (List.mem_filter.mp isSecond).2
    rwa [if_neg firstLeft, if_neg secondLeft]

end Dated

/-- A registry has the types in the order in which they got their resolvers. The induction is on how the registry was
made, one step for each of the three lemmas above. -/
theorem ContextRegistry.Made.dated {r : ContextRegistry} {since : String → Option Nat} {now : Nat}
    (made : Made r since now) : Dated since now (OrderedMap.keys r) := by
  have nothing (now : Nat) : Dated (fun _ => none) now (OrderedMap.keys ([] : ContextRegistry)) :=
    { known := fun type => by simp [OrderedMap.keys]
      past := fun _ _ same => nomatch same
      ordered := List.Pairwise.nil }
  induction made with
  | empty => exact nothing 0
  | @registered r registry since now type name resolver made done ih =>
    unfold ContextRegistry.register at done
    split at done
    · cases done
    · cases done
      rw [OrderedMap.keys_put]
      split
      · rename_i there
        exact ih.again there
      · rename_i absent
        exact ih.anew absent
  | unregistered made type ih =>
    rw [OrderedMap.keys_erase]
    exact ih.without type
  | cleared made => exact nothing _

/-- A table gives a token the value that the first of several sources gives it that gives it one, and has no token that
none gives a value. -/
structure Placeholder.Table.Stacks (table : Table) (sources : List Source) : Prop where
  value : ∀ token, table.get? token = sources.findSome? (· token)
  absent : ∀ token, table.has token = false ↔ ∀ source ∈ sources, source token = none

/-- A table that holds what several sources give, stacks them. -/
theorem Placeholder.Table.Holds.stacks {table : Table} {sources : List Source}
    (holds : table.Holds fun token => sources.findSome? (· token)) : table.Stacks sources where
  value := holds.found
  absent token := by
    rw [OrderedMap.has, holds.found, Option.isSome_eq_false_iff, Option.isNone_iff_eq_none,
      List.findSome?_eq_none_iff]

namespace Placeholders

section

variable {classes : Classes} {p : Placeholders} {actor : Actor} {context : Value}

/-- The value that the types of a context give is that of the type which was given a resolver last, among those that it
is an instance of and that give one. -/
theorem typeSource_eq_some_iff [Machine] {since : String → Option Nat} {now : Nat}
    (made : p.contextRegistry.Made since now)
    (isThere : context ≠ .null) {token : String} {value : Value} :
    typeSource classes p actor context token = some value ↔
      ∃ layer ∈ p.contextRegistry, classes.isInstance context layer.1 = true ∧
        Resolver.provided classes actor (.context context) layer.2 token = some value ∧
        ∀ other ∈ p.contextRegistry, classes.isInstance context other.1 = true →
          (Resolver.provided classes actor (.context context) other.2 token).isSome = true →
            since other.1 = since layer.1 ∨ Earlier (since other.1) (since layer.1) := by
  have descending := List.pairwise_reverse.mpr (List.pairwise_map.mp made.dated.ordered)
  unfold typeSource
  split
  · exact absurd rfl isThere
  · rw [findSome?_of_descending (fun layer => since layer.1) (fun _ _ earlier => earlier.asymm) descending]
    simp only [List.mem_reverse, Option.ite_none_right_eq_some, Option.isSome_iff_exists, forall_exists_index, and_imp,
      and_assoc]
    refine exists_congr fun layer => and_congr_right fun _ => and_congr_right fun _ => and_congr_right fun _ => ?_
    constructor
    · exact fun highest other there matches_ given gives => highest other there given matches_ gives
    · exact fun highest other there given matches_ gives => highest other there matches_ given gives

/-- Registering for a menu puts the resolver into the layer of all menus whose ids are the same but for their case, and
into no other. -/
theorem layer_register {r registry : PlaceholderRegistry} {name id : String} {resolver : Resolver}
    (done : r.register name resolver (.menu (some id)) = .ok registry) (menu : String) :
    PlaceholderRegistry.layer registry.byMenu (MenuName.key menu) =
      if MenuName.key id = MenuName.key menu then
        (PlaceholderRegistry.layer r.byMenu (MenuName.key menu)).put (Placeholder.token name) resolver
      else PlaceholderRegistry.layer r.byMenu (MenuName.key menu) := by
  rcases PlaceholderRegistry.byMenu_of_register done with ⟨other, -⟩ | ⟨filed, isFiled, same⟩
  · exact absurd rfl (other (some id))
  · cases isFiled
    rw [same, PlaceholderRegistry.layer_put]
    split
    · rename_i sameKey
      rw [sameKey]
    · rfl

/-- With resolvers without a memory the table of a drawing is there exactly if everything that is asked for it can be
written, and it gives each token the value of the highest layer that gives it one: from above the page, the types of
the context, its fields, the actor, the resolvers for the actor, for the menu and for everywhere, and the menu's own
placeholders. A resolver that fails or has no value gives none. The table for an item gives each token the value of
its resolvers, of its own placeholders or of those layers. Of the types that the context is an instance of that one
counts which was given a resolver last, and the resolvers for a menu are those that were registered under its id in
any case.

Proof: each step of the building puts a layer above what is there, and the relation `Holds` says of every token what a
table has for it; putting a layer on top comes to asking it first. The types of a context are kept in the order of
their first resolvers, so the last that answers is the latest. -/
theorem IsPure.build_layered [Machine] (pure : p.IsPure) {entry : Entry} (own : entry.IsPure) {before : Ledger}
    (sound : before.accessors.Sound classes) (actor : Actor) (menu : Menu) (view : Option View) :
    (Succeeds ((p.build classes actor menu view).run.run before).1 ↔ p.Legible classes actor menu view) ∧
    (∀ table after, (p.build classes actor menu view).run.run before = (.ok table, after) →
      table.Stacks (p.sources classes actor menu view) ∧
      ∀ later : Ledger, later.accessors.Sound classes →
        (Succeeds ((forItem classes table entry actor).run.run later).1 ↔
          ∀ pair ∈ entry.dynamicPlaceholders, pair.2.Speaks classes actor .nothing) ∧
        ∀ filled final, (forItem classes table entry actor).run.run later = (.ok filled, final) →
          filled.Stacks (itemSources classes actor entry ++ p.sources classes actor menu view)) ∧
    (∀ since now context, p.contextRegistry.Made since now → context ≠ .null → ∀ token value,
      typeSource classes p actor context token = some value ↔
        ∃ layer ∈ p.contextRegistry, classes.isInstance context layer.1 = true ∧
          Resolver.provided classes actor (.context context) layer.2 token = some value ∧
          ∀ other ∈ p.contextRegistry, classes.isInstance context other.1 = true →
            (Resolver.provided classes actor (.context context) other.2 token).isSome = true →
              since other.1 = since layer.1 ∨ Earlier (since other.1) (since layer.1)) ∧
    (∀ r registry name id resolver, PlaceholderRegistry.register r name resolver (.menu (some id)) = .ok registry →
      PlaceholderRegistry.layer registry.byMenu (MenuName.key menu.id) =
        if MenuName.key id = MenuName.key menu.id then
          (PlaceholderRegistry.layer r.byMenu (MenuName.key menu.id)).put (Placeholder.token name) resolver
        else PlaceholderRegistry.layer r.byMenu (MenuName.key menu.id)) ∧
    ∀ (topic : Topic) (resolver : Resolver), resolver.Speaks classes actor topic →
      (resolver.words? classes actor topic = none ↔ answerOf (resolver.run classes actor topic) = .ok .null ∨
        ∃ cause, answerOf (resolver.run classes actor topic) = .error cause) := by
  refine ⟨?_, fun table after built => ?_, fun since now context made isThere token value => ?_,
    fun r registry name id resolver done => layer_register done menu.id,
    fun topic resolver speaks => Resolver.words?_eq_none_iff speaks⟩
  · rw [(pure.steady_build menu view before sound).1]
    exact pure.succeeds_build
  · have answered : answerOf (p.build classes actor menu view) = .ok table := by
      rw [← (pure.steady_build menu view before sound).1, built]
    have holds := pure.holds_build answered
    refine ⟨holds.stacks, fun later soundLater => ⟨?_, fun filled final resolved => ?_⟩⟩
    · rw [(own.steady_forItem table later soundLater).1]
      exact succeeds_forItem own
    · have filledIn : answerOf (forItem classes table entry actor) = .ok filled := by
        rw [← (own.steady_forItem table later soundLater).1, resolved]
      exact (holds_forItem own holds filledIn).stacks
  · exact typeSource_eq_some_iff made isThere

end

/-- A class of boxes and one of chests, which are boxes. -/
def boxClasses : Classes :=
  (Classes.ofList [{ name := "Box" }, { name := "Chest", bases := ["Box"] }]).toOption.getD {}

/-- A view of the second page of a fair that was opened with a chest. -/
def boxView : View where
  menu := "fair"
  page := 1
  context := (boxClasses.instantiate "Chest" [("gold", .int 7)]).toOption.getD .null

/-- A menu with two pages and placeholders of its own. -/
def fairMenu : Menu where
  id := "Fair"
  placeholders := [("x", .text "own"), ("fair", .text "Fair")]
  pagination := some {
    slots := [0]
    items := [{ template := { material := "STONE" } }, { template := { material := "WOOD" } }] }

/-- An item with placeholders of its own and resolvers, of which one fails. -/
def stall : Entry where
  template := { material := "OAK" }
  placeholders := [("page", .text "front")]
  dynamicPlaceholders := [("\x7bx\x7d", .const (.text "new")), ("page", .raise "torn")]

/-- A pipeline with resolvers for one token in several layers, of which the upper ones give nothing. -/
def crowded : Placeholders where
  registry := {
    everywhere := [("\x7bx\x7d", .const (.text "low")), ("\x7brank\x7d", .const (.text "all"))]
    byMenu := [("fair", [("\x7bx\x7d", .raise "down")])]
    byActor := [(.text "ann", [("\x7bx\x7d", .const .null), ("\x7bplayer\x7d", .const (.text "nobody"))])] }
  contextRegistry := [
    ("Chest", [("\x7brank\x7d", .const (.text "chest"))]),
    ("Box", [("\x7brank\x7d", .const (.text "box")), ("\x7bcontext.gold\x7d", .const .null)])]

/-- On a stall at a fair, where each layer has something to say, the layers show through those that give nothing.
Boxes come before chests there, because they were given a resolver later. -/
theorem build_crowded :
    ∃ table after filled final,
      (crowded.build boxClasses ann fairMenu (some boxView)).run.run {} = (.ok table, after) ∧
      (forItem boxClasses table stall ann).run.run {} = (.ok filled, final) ∧
      table.Stacks (crowded.sources boxClasses ann fairMenu (some boxView)) ∧
      filled.Stacks (itemSources boxClasses ann stall ++ crowded.sources boxClasses ann fairMenu (some boxView)) ∧
      ["\x7bpage\x7d", "\x7brank\x7d", "\x7bcontext.gold\x7d", "\x7bplayer\x7d", "\x7bx\x7d", "\x7bfair\x7d",
        "\x7bowner\x7d"].map (fun token => (table.get? token).map Value.label) =
          [some "2", some "box", some "7", some "Ann", some "low", some "Fair", none] ∧
      ["\x7bx\x7d", "\x7bpage\x7d"].map (fun token => (filled.get? token).map Value.label) =
        [some "new", some "front"] ∧
      ∃ since now, crowded.contextRegistry.Made since now ∧ Earlier (since "Chest") (since "Box") ∧
        ∃ layer ∈ crowded.contextRegistry,
          Resolver.provided boxClasses ann (.context boxView.context) layer.2 "\x7brank\x7d" = some (.text "box") := by
  have pure : crowded.IsPure := ⟨by decide, by decide, by decide, by decide⟩
  have own : stall.IsPure := ⟨by decide, by simp [stall]⟩
  have sound : ({} : Ledger).accessors.Sound boxClasses := sound_nil
  have chest := ContextRegistry.Made.registered .empty
    (rfl : ContextRegistry.register [] "Chest" "rank" (.const (.text "chest")) = .ok _)
  have box := chest.registered (rfl : ContextRegistry.register _ "Box" "rank" (.const (.text "box")) = .ok _)
  have made := box.registered (rfl : ContextRegistry.register _ "Box" "context.gold" (.const .null) = .ok _)
  obtain ⟨-, value, types, -, -⟩ := pure.build_layered own sound ann fairMenu (some boxView)
  have tokens : ((crowded.build boxClasses ann fairMenu (some boxView)).run.run {}).1.toOption.map (fun table =>
      (["\x7bpage\x7d", "\x7brank\x7d", "\x7bcontext.gold\x7d", "\x7bplayer\x7d", "\x7bx\x7d", "\x7bfair\x7d",
        "\x7bowner\x7d"].map (fun token => (table.get? token).map Value.label),
       ((forItem boxClasses table stall ann).run.run {}).1.toOption.map fun filled =>
        ["\x7bx\x7d", "\x7bpage\x7d"].map (fun token => (filled.get? token).map Value.label))) =
      some ([some "2", some "box", some "7", some "Ann", some "low", some "Fair", none],
        some [some "new", some "front"]) := by decide +kernel
  obtain ⟨table, after, built, found⟩ := answered_of_map tokens
  obtain ⟨stacked, items⟩ := Prod.mk.inj found
  obtain ⟨filled, final, resolved, itemsFound⟩ := answered_of_map items
  obtain ⟨holds, filling⟩ := value table after built
  refine ⟨table, after, filled, final, built, resolved, holds, (filling {} sound).2 filled final resolved, stacked,
    itemsFound, _, _, made, ⟨0, 1, rfl, rfl, Nat.zero_lt_one⟩, ?_⟩
  have isThere : boxView.context ≠ .null := by
    intro same
    cases same
  obtain ⟨layer, member, -, gives, -⟩ := (types _ _ boxView.context made isThere "\x7brank\x7d" (.text "box")).mp rfl
  exact ⟨layer, member, gives⟩

end Placeholders

end ChestMenu
