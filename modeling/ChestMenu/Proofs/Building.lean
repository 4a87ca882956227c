import ChestMenu.Proofs.PlainData
import ChestMenu.Proofs.Claimant

/-!
# When the table of tokens for a drawing is built

Resolvers and accessors are asked one after another, and one that fails, whatever it fails with, only gives no token;
the table is that of a pipeline which does not have it.

What is not guarded stops the building: an answer of a resolver that has no text, an object that fails to describe its
fields, a field whose key or value cannot be written, and a page number that is too long to be written.
-/
namespace ChestMenu

open ChestMenu.Number

namespace Resolver

variable [Machine]

/-- What the answer of a resolver comes to: nothing for null, and otherwise the text that it is or has. -/
def said : Value → Except Failure (Option String)
  | .null => .ok none
  | .record _ (.text s) _ _ => .ok (some s)
  | v => v.shown.map some

/-- Resolvers are asked one after another and provide texts for their tokens. One that fails is noted and provides
none; any other provides what its answer comes to. -/
inductive Provide (classes : Classes) (actor : Actor) (topic : Topic) :
    List (String × Resolver) → Ledger → List (String × String) → Ledger → Prop
  | nobody (ledger : Ledger) : Provide classes actor topic [] ledger [] ledger
  | failing {token : String} {resolver : Resolver} {others : List (String × Resolver)} {before after last : Ledger}
      {cause : Failure} {texts : List (String × String)}
      (fails : (resolver.run classes actor topic).run.run before = (.error cause, after))
      (later : Provide classes actor topic others
        { after with notices := after.notices ++ [.resolverFailed cause] } texts last) :
      Provide classes actor topic ((token, resolver) :: others) before texts last
  | answering {token : String} {resolver : Resolver} {others : List (String × Resolver)} {before after last : Ledger}
      {answer : Value} {words : Option String} {texts : List (String × String)}
      (answers : (resolver.run classes actor topic).run.run before = (.ok answer, after))
      (isSaid : said answer = .ok words) (later : Provide classes actor topic others after texts last) :
      Provide classes actor topic ((token, resolver) :: others) before
        (words.toList.map (fun text => (token, text)) ++ texts) last

/-- One of several resolvers answers in its turn with a value that has no text. -/
def Mumbles (classes : Classes) (actor : Actor) (topic : Topic) (resolvers : List (String × Resolver))
    (before : Ledger) : Prop :=
  ∃ earlier token resolver later texts between answer after,
    resolvers = earlier ++ (token, resolver) :: later ∧ Provide classes actor topic earlier before texts between ∧
      (resolver.run classes actor topic).run.run between = (.ok answer, after) ∧ ¬Succeeds (said answer)

section

variable {classes : Classes} {actor : Actor} {topic : Topic} {token : String} {resolver : Resolver}
  {others : List (String × Resolver)} {before after last : Ledger} {texts : List (String × String)}

/-- A resolver that fails is noted and says nothing; of one that answers what it says counts. This is the only place
where a failure of a resolver is caught. -/
theorem run_text? (resolver : Resolver) (before : Ledger) :
    (resolver.text? classes actor topic).run.run before =
      match (resolver.run classes actor topic).run.run before with
      | (.ok answer, after) => (said answer, after)
      | (.error cause, after) => (.ok none, { after with notices := after.notices ++ [.resolverFailed cause] }) := by
  have lifted : (ExceptT.lift (resolver.run classes actor topic).run : ExceptT Failure Resolving _).run.run before =
      (.ok ((resolver.run classes actor topic).run.run before).1,
        ((resolver.run classes actor topic).run.run before).2) := rfl
  unfold text?
  rw [run_bind, lifted]
  rcases (resolver.run classes actor topic).run.run before with ⟨cause | answer, after⟩
  · rfl
  · have spoken (v : Value) : (do return some (← ExceptT.mk (pure v.shown)) :
        ExceptT Failure Resolving (Option String)).run.run after = (v.shown.map some, after) := by
      cases v.shown <;> rfl
    cases answer with
    | null => rfl
    | record className base attributes manner =>
      cases base with
      | text s => rfl
      | _ => exact spoken _
    | _ => exact spoken _

/-- Behind a resolver that fails the others are asked as if it were not there. They find the ledger as it left it,
with the notice. -/
theorem provide_cons_of_error {cause : Failure}
    (fails : (resolver.run classes actor topic).run.run before = (.error cause, after)) :
    Provide classes actor topic ((token, resolver) :: others) before texts last ↔
      Provide classes actor topic others { after with notices := after.notices ++ [.resolverFailed cause] } texts
        last := by
  constructor
  · rintro (_ | ⟨again, later⟩ | ⟨answers, -, -⟩)
    · cases fails.symm.trans again
      exact later
    · cases fails.symm.trans answers
  · exact .failing fails

/-- One that answers provides what it says in front of them. If its value is null it provides nothing, and the others
are asked all the same. -/
theorem provide_cons_of_ok {answer : Value}
    (answers : (resolver.run classes actor topic).run.run before = (.ok answer, after)) :
    Provide classes actor topic ((token, resolver) :: others) before texts last ↔
      ∃ words behind, said answer = .ok words ∧ Provide classes actor topic others after behind last ∧
        texts = words.toList.map (fun text => (token, text)) ++ behind := by
  constructor
  · rintro (_ | ⟨fails, -⟩ | ⟨again, isSaid, later⟩)
    · cases answers.symm.trans fails
    · cases answers.symm.trans again
      exact ⟨_, _, isSaid, later, rfl⟩
  · rintro ⟨words, behind, isSaid, later, rfl⟩
    exact .answering answers isSaid later

/-- Resolvers provide texts exactly if none of them answers in its turn with a value that has no text. The induction
is on the resolvers, and each is asked in the ledger that the ones before it left behind. -/
theorem exists_provide_iff {resolvers : List (String × Resolver)} {before : Ledger} :
    (∃ texts last, Provide classes actor topic resolvers before texts last) ↔
      ¬Mumbles classes actor topic resolvers before := by
  induction resolvers generalizing before with
  | nil =>
    refine iff_of_true ⟨[], before, .nobody before⟩ ?_
    rintro ⟨earlier, _, _, _, _, _, _, _, same, -⟩
    cases earlier <;> cases same
  | cons pair others ih =>
    obtain ⟨token, resolver⟩ := pair
    rcases asked : (resolver.run classes actor topic).run.run before with ⟨cause | answer, after⟩
    · simp only [provide_cons_of_error asked, ih]
      refine not_congr ?_
      constructor
      · rintro ⟨earlier, other, mumbling, later, texts, between, answer, last, rfl, provided, rest⟩
        exact ⟨(token, resolver) :: earlier, other, mumbling, later, texts, between, answer, last, rfl,
          .failing asked provided, rest⟩
      · rintro ⟨_ | ⟨first, earlier⟩, other, mumbling, later, texts, between, answer, last, same, provided, rest⟩
        · cases same
          cases provided
          cases asked.symm.trans rest.1
        · cases same
          exact ⟨earlier, other, mumbling, later, texts, between, answer, last, rfl,
            (provide_cons_of_error asked).mp provided, rest⟩
    · simp only [provide_cons_of_ok asked]
      constructor
      · rintro ⟨texts, last, words, behind, isSaid, provided, -⟩
        rintro ⟨_ | ⟨first, earlier⟩, other, mumbling, later, spoken, between, mumbled, final, same, heard, rest⟩
        · cases same
          cases heard
          cases asked.symm.trans rest.1
          exact rest.2 ⟨words, isSaid⟩
        · cases same
          obtain ⟨_, behind, _, heard, -⟩ := (provide_cons_of_ok asked).mp heard
          exact ih.mp ⟨_, _, provided⟩ ⟨earlier, other, mumbling, later, behind, between, mumbled, final, rfl, heard, rest⟩
      · intro clear
        cases isSaid : said answer with
        | error cause =>
          refine absurd ⟨[], token, resolver, others, [], before, answer, after, rfl, .nobody before, asked, ?_⟩ clear
          rw [isSaid]
          exact not_succeeds_error cause
        | ok words =>
          obtain ⟨behind, last, provided⟩ := ih.mpr fun ⟨earlier, other, mumbling, later, behind, between, mumbled, final,
              same, heard, rest⟩ => clear ⟨(token, resolver) :: earlier, other, mumbling, later, _, between, mumbled, final,
              by rw [same]; rfl, .answering asked isSaid heard, rest⟩
          exact ⟨_, last, words, behind, rfl, provided, rfl⟩

/-- The texts of resolvers are put into a table exactly if the resolvers provide them. The table is then that of the
texts over what was there. -/
theorem run_putTexts {resolvers : List (String × Resolver)} {filled : Placeholder.Table} (table : Placeholder.Table) :
    (putTexts classes actor topic table resolvers).run.run before = (.ok filled, last) ↔
      ∃ texts, Provide classes actor topic resolvers before texts last ∧
        filled = table.putAll (Placeholder.textTable texts) := by
  induction resolvers generalizing table before with
  | nil =>
    constructor
    · rintro ⟨⟩
      exact ⟨[], .nobody _, rfl⟩
    · rintro ⟨texts, ⟨⟩, rfl⟩
      rfl
  | cons pair others ih =>
    obtain ⟨token, resolver⟩ := pair
    unfold putTexts at ih ⊢
    rw [List.foldlM_cons, run_bind, run_bind, run_text?]
    rcases asked : (resolver.run classes actor topic).run.run before with ⟨cause | answer, after⟩
    · simp only [provide_cons_of_error asked]
      exact ih table
    · simp only [provide_cons_of_ok asked]
      cases said answer with
      | error cause =>
        constructor
        · rintro ⟨⟩
        · rintro ⟨_, ⟨_, _, ⟨⟩, -⟩, -⟩
      | ok words =>
        cases words with
        | none =>
          refine (ih table).trans ⟨?_, ?_⟩
          · rintro ⟨texts, provided, rfl⟩
            exact ⟨texts, ⟨none, texts, rfl, provided, rfl⟩, rfl⟩
          · rintro ⟨_, ⟨_, _, ⟨⟩, provided, rfl⟩, rfl⟩
            exact ⟨_, provided, rfl⟩
        | some text =>
          refine (ih (table.put token (.text text))).trans ⟨?_, ?_⟩
          · rintro ⟨texts, provided, rfl⟩
            exact ⟨_, ⟨some text, texts, rfl, provided, rfl⟩, rfl⟩
          · rintro ⟨_, ⟨_, _, ⟨⟩, provided, rfl⟩, rfl⟩
            exact ⟨_, provided, rfl⟩

/-- What resolvers leave behind is determined by what they find. So it makes sense to speak of the ledger after them. -/
theorem Provide.last_eq {resolvers : List (String × Resolver)} {spoken : List (String × String)} {final : Ledger}
    (provided : Provide classes actor topic resolvers before texts last)
    (again : Provide classes actor topic resolvers before spoken final) : last = final := by
  have first := (run_putTexts []).mpr ⟨texts, provided, rfl⟩
  have second := (run_putTexts []).mpr ⟨spoken, again, rfl⟩
  exact (Prod.mk.inj (first.symm.trans second)).2

end

end Resolver

namespace Discovery

variable [Machine]

variable {classes : Classes} {context : Value}

/-- The fields of a context can be had: an object that describes them does so, and the keys of a mapping have texts. -/
def HasFields (classes : Classes) (context : Value) : Prop :=
  if describesFields classes context then Succeeds (described classes context)
  else ∀ pairs, context.pairs? = some pairs → ∀ pair ∈ pairs, pair.1.HasText

/-- A field gives a token or none: its value does not fail to be written, and if it has a text, the key is a text. -/
def Tells (field : Value × Value) : Prop :=
  ∃ words, field.2.placeholderText? = .ok words ∧ (words ≠ none → ∃ name, field.1.plain = .text name)

/-- The keys of a mapping are written exactly if each of them has a text. -/
theorem succeeds_underTexts {pairs : List (Value × Value)} :
    Succeeds (underTexts pairs) ↔ ∀ pair ∈ pairs, pair.1.HasText := by
  rw [underTexts, succeeds_bind_pure, succeeds_mapM]
  exact forall₂_congr fun _ _ => succeeds_bind_pure

/-- The fields of a context are read exactly if they can be had, whatever accessors fail. An accessor that fails is
left out, while a description that fails is a failure of the fields. -/
theorem succeeds_fields (cache : Cache) (isThere : context ≠ .null) :
    Succeeds (fields classes cache context).1 ↔ HasFields classes context := by
  unfold fields HasFields
  split
  · exact absurd rfl isThere
  · split
    · rfl
    · cases found : context.pairs? with
      | none => exact iff_of_true (succeeds_ok _) fun _ none => nomatch none
      | some pairs =>
        refine succeeds_underTexts.trans ⟨fun keys _ same => ?_, fun keys => keys pairs rfl⟩
        cases same
        exact keys

/-- Fields are written as tokens exactly if each tells one or none. The induction is on the fields. -/
theorem succeeds_tokensOfFields {pairs : List (Value × Value)} :
    Succeeds (tokensOfFields pairs) ↔ ∀ pair ∈ pairs, Tells pair := by
  rw [tokensOfFields, succeeds_filterMapM]
  refine forall₂_congr fun pair _ => ?_
  dsimp only
  rw [succeeds_bind]
  refine exists_congr fun words => and_congr_right fun _ => ?_
  split
  · exact iff_of_true (succeeds_ok _) fun some => absurd rfl some
  · rename_i isText _
    exact iff_of_true (succeeds_ok _) fun _ => ⟨_, isText⟩
  · rename_i noText
    refine iff_of_false (not_succeeds_error _) fun isText => ?_
    obtain ⟨name, same⟩ := isText (by simp)
    exact noText name same

/-- An accessor that cannot be read gives no field and takes none away: the fields are those that would be found if the
type had only the accessors that can be read. -/
theorem fields_of_readable (classes : Classes) (cache : Cache) (context : Value) :
    (fields classes [(Classes.typeOf context, (accessors classes cache context).1.filter fun a =>
      (readAccessor? classes context a).isSome)] context).1 = (fields classes cache context).1 := by
  have held (found : List Accessor) :
      accessors classes [(Classes.typeOf context, found)] context = (found, [(Classes.typeOf context, found)]) := by
    simp [accessors]
  have kept (found : List Accessor) (give : Accessor → Value → Value × Value) :
      ((found.filter fun a => (readAccessor? classes context a).isSome).filterMap fun a =>
        (readAccessor? classes context a).map (give a)) =
      found.filterMap fun a => (readAccessor? classes context a).map (give a) := by
    rw [List.filterMap_filter]
    refine congrArg (List.filterMap · found) (funext fun a => ?_)
    cases readAccessor? classes context a <;> rfl
  unfold fields
  split
  · rfl
  · split
    · rfl
    · split
      · rfl
      · rw [held]
        dsimp only
        rw [kept]

end Discovery

section

variable {α β : Type}

/-- A result that is there already leaves no trace in the ledger. -/
theorem run_result_eq_ok_iff {result : Except Failure α} {before after : Ledger} {a : α} :
    (ExceptT.mk (pure result) : ExceptT Failure Resolving α).run.run before = (.ok a, after) ↔
      result = .ok a ∧ after = before := by
  change (result, before) = _ ↔ _
  rw [Prod.mk.injEq, eq_comm (a := before)]

end

namespace Placeholders

section

variable [Machine]

variable {classes : Classes} {p : Placeholders} {actor : Actor} {menu : Menu} {view : Option View}
  {before after : Ledger} {table : Placeholder.Table}

/-- The page of a drawing can be written on a menu that has pages. -/
def PageShort (menu : Menu) (page : Int) : Prop :=
  menu.isPaginated = true → Value.IsShort (page + 1) ∧ Value.IsShort menu.totalPages

omit [Machine] in
/-- The tokens of the page are there exactly if the page can be written. Its numbers are too long to be written
otherwise. -/
theorem succeeds_ofPage {page : Int} : Succeeds (ofPage menu page) ↔ PageShort menu page := by
  unfold ofPage PageShort
  split
  · rename_i paginated
    rw [imp_iff_right paginated]
    refine succeeds_bind_and (Value.succeeds_integerShown _) fun _ _ => ?_
    exact succeeds_bind_pure.trans (Value.succeeds_integerShown _)
  · rename_i single
    exact iff_of_true (succeeds_pure _) fun paginated => absurd paginated single

/-- The tokens of an actor. -/
def ofActor (actor : Actor) : Placeholder.Table :=
  [("\x7bplayer\x7d", actor.name), ("\x7bplayer_uuid\x7d", actor.id)]

/-- What an actor and a context provide: the tokens of the actor and, above these, those of the fields of the context
and the texts of the resolvers for its type, which are asked after the fields. -/
def ProvideContext (classes : Classes) (p : Placeholders) (actor : Actor) (context : Value) (before : Ledger)
    (contextual : Placeholder.Table) (after : Ledger) : Prop :=
  (context = .null ∧ contextual = ofActor actor ∧ after = before) ∨
    context ≠ .null ∧ ∃ pairs accessors fields typed,
      Discovery.fields classes before.accessors context = (.ok pairs, accessors) ∧
      Discovery.tokensOfFields pairs = .ok fields ∧
      Resolver.Provide classes actor (.context context) (p.contextRegistry.matching classes context)
        { before with accessors } typed after ∧
      contextual = ((ofActor actor).putAll (Placeholder.textTable fields)).putAll
        (.ofPairs (Placeholder.textTable typed))

/-- The tokens of an actor and a context are resolved exactly if they are provided. The fields of the context are
looked at first, then its types are asked, and the actor has its tokens without being asked. -/
theorem run_ofContext {context : Value} {contextual : Placeholder.Table} :
    (p.ofContext classes actor context).run.run before = (.ok contextual, after) ↔
      ProvideContext classes p actor context before contextual after := by
  unfold ofContext ProvideContext
  dsimp only
  split
  · constructor
    · rintro ⟨⟩
      exact .inl ⟨rfl, rfl, rfl⟩
    · rintro (⟨-, rfl, rfl⟩ | ⟨isThere, -⟩)
      · rfl
      · exact absurd rfl isThere
  · rename_i isThere
    have looked : (ExceptT.mk (Resolving.withAccessors fun cache =>
        Discovery.tokens classes cache context)).run.run before =
        ((Discovery.tokens classes before.accessors context).1,
          { before with accessors := (Discovery.tokens classes before.accessors context).2 }) := rfl
    simp only [run_bind_eq_ok_iff, looked, ContextRegistry.resolveAll_of_ne_null isThere, Resolver.run_putTexts]
    unfold Discovery.tokens
    rcases read : Discovery.fields classes before.accessors context with ⟨result, accessors⟩
    constructor
    · rintro ⟨fields, middle, told, typed, last, ⟨texts, provided, rfl⟩, ⟨⟩⟩
      rw [Prod.mk.injEq] at told
      obtain ⟨told, rfl⟩ := told
      obtain ⟨pairs, rfl, told⟩ := ok_of_bind told
      exact .inr ⟨isThere, pairs, accessors, fields, texts, rfl, told, provided, rfl⟩
    · rintro (⟨same, -⟩ | ⟨-, pairs, _, fields, texts, ⟨⟩, told, provided, rfl⟩)
      · exact absurd same isThere
      · exact ⟨fields, _, Prod.ext told rfl, _, after, ⟨texts, provided, rfl⟩, rfl⟩

/-- The table of a drawing is built exactly if each of its layers is provided, and consists of them. The ledgers
between them are named, since each layer is asked in the one that the layer before has left. -/
theorem run_build :
    (p.build classes actor menu view).run.run before = (.ok table, after) ↔
      ∃ registered asked contextual paged,
        Resolver.Provide classes actor .nothing (p.registry.layers actor menu.id).flatten before registered asked ∧
        ProvideContext classes p actor ((view.map (·.context)).getD .null) asked contextual after ∧
        ofPage menu ((view.map (·.page)).getD 0) = .ok paged ∧
        table = (((Placeholder.tokenTable menu.placeholders).putAll
          (.ofPairs (Placeholder.textTable registered))).putAll contextual).putAll paged := by
  unfold build PlaceholderRegistry.resolveAll
  simp only [run_bind_eq_ok_iff, run_result_eq_ok_iff, Resolver.run_putTexts, run_ofContext]
  constructor
  · rintro ⟨_, asked, ⟨registered, provided, rfl⟩, contextual, _, heard, paged, _, ⟨isPaged, rfl⟩, ⟨⟩⟩
    exact ⟨registered, asked, contextual, paged, provided, heard, isPaged, rfl⟩
  · rintro ⟨registered, asked, contextual, paged, provided, heard, isPaged, rfl⟩
    exact ⟨_, asked, ⟨registered, provided, rfl⟩, contextual, after, heard, paged, after, ⟨isPaged, rfl⟩, rfl⟩

/-- A context does not stop the building: its fields can be had, each of them tells a token or none, and no resolver for
its type answers with a value that has no text. -/
def ContextTells (classes : Classes) (p : Placeholders) (actor : Actor) (context : Value) (before : Ledger) : Prop :=
  context ≠ .null → Discovery.HasFields classes context ∧
    ∀ pairs accessors, Discovery.fields classes before.accessors context = (.ok pairs, accessors) →
      (∀ pair ∈ pairs, Discovery.Tells pair) ∧
      ¬Resolver.Mumbles classes actor (.context context) (p.contextRegistry.matching classes context)
        { before with accessors }

/-- A context provides its tokens exactly if it does not stop the building. It is asked in the ledger that the
registered resolvers have left. -/
theorem exists_provideContext_iff {context : Value} :
    (∃ contextual after, ProvideContext classes p actor context before contextual after) ↔
      ContextTells classes p actor context before := by
  unfold ProvideContext ContextTells
  constructor
  · rintro ⟨contextual, after, ⟨same, -⟩ | ⟨-, pairs, accessors, fields, typed, read, told, provided, -⟩⟩ isThere
    · exact absurd same isThere
    · refine ⟨(Discovery.succeeds_fields before.accessors isThere).mp ⟨pairs, by rw [read]⟩, fun others cache again => ?_⟩
      cases read.symm.trans again
      exact ⟨Discovery.succeeds_tokensOfFields.mp ⟨fields, told⟩, Resolver.exists_provide_iff.mp ⟨typed, after, provided⟩⟩
  · intro tells
    by_cases isThere : context = .null
    · exact ⟨_, _, .inl ⟨isThere, rfl, rfl⟩⟩
    · obtain ⟨hasFields, all⟩ := tells isThere
      obtain ⟨pairs, isRead⟩ := (Discovery.succeeds_fields before.accessors isThere).mpr hasFields
      rcases read : Discovery.fields classes before.accessors context with ⟨result, accessors⟩
      obtain rfl : result = .ok pairs := by rw [← isRead, read]
      obtain ⟨told, clear⟩ := all pairs accessors read
      obtain ⟨fields, isToken⟩ := Discovery.succeeds_tokensOfFields.mpr told
      obtain ⟨typed, after, provided⟩ := Resolver.exists_provide_iff.mpr clear
      exact ⟨_, after, .inr ⟨isThere, pairs, accessors, fields, typed, rfl, isToken, provided, rfl⟩⟩

/-- A table is built exactly if no registered resolver answers with a value that has no text, the context does not
stop the building, and the page can be written. There is no fourth reason, since all other failures are caught where
they happen. -/
theorem build_succeeds_iff :
    (∃ table after, (p.build classes actor menu view).run.run before = (.ok table, after)) ↔
      ¬Resolver.Mumbles classes actor .nothing (p.registry.layers actor menu.id).flatten before ∧
      (∀ registered asked,
        Resolver.Provide classes actor .nothing (p.registry.layers actor menu.id).flatten before registered asked →
          ContextTells classes p actor ((view.map (·.context)).getD .null) asked) ∧
      PageShort menu ((view.map (·.page)).getD 0) := by
  simp only [run_build]
  constructor
  · rintro ⟨table, after, registered, asked, contextual, paged, provided, heard, isPaged, -⟩
    refine ⟨Resolver.exists_provide_iff.mp ⟨registered, asked, provided⟩, fun others between again => ?_,
      succeeds_ofPage.mp ⟨paged, isPaged⟩⟩
    rw [← provided.last_eq again]
    exact exists_provideContext_iff.mp ⟨contextual, after, heard⟩
  · rintro ⟨clear, tells, short⟩
    obtain ⟨registered, asked, provided⟩ := Resolver.exists_provide_iff.mpr clear
    obtain ⟨contextual, after, heard⟩ := exists_provideContext_iff.mpr (tells registered asked provided)
    obtain ⟨paged, isPaged⟩ := succeeds_ofPage.mpr short
    exact ⟨_, after, registered, asked, contextual, paged, provided, heard, isPaged, rfl⟩

/-- The resolvers of a layer that do not fail. -/
def answering (classes : Classes) (actor : Actor) (topic : Topic) (layer : ResolverLayer) : ResolverLayer :=
  layer.filter fun pair => (answerOf (pair.2.run classes actor topic)).toBool

/-- The registered resolvers that do not fail for an actor and a context. -/
def withoutFailing (classes : Classes) (p : Placeholders) (actor : Actor) (context : Value) : Placeholders where
  registry :=
    { everywhere := answering classes actor .nothing p.registry.everywhere
      byMenu := p.registry.byMenu.map fun (id, layer) => (id, answering classes actor .nothing layer)
      byActor := p.registry.byActor.map fun (key, layer) => (key, answering classes actor .nothing layer) }
  contextRegistry := p.contextRegistry.map fun (type, layer) =>
    (type, answering classes actor (.context context) layer)

/-- Each of the layers under a key is left without what fails. A key without a layer has an empty one in both. -/
theorem layer_answering {α : Type} [DecidableEq α] (topic : Topic) (layers : OrderedMap α ResolverLayer) (key : α) :
    PlaceholderRegistry.layer (layers.map fun (key, layer) => (key, answering classes actor topic layer)) key =
      answering classes actor topic (PlaceholderRegistry.layer layers key) := by
  unfold PlaceholderRegistry.layer
  induction layers with
  | nil => rfl
  | cons pair layers ih =>
    obtain ⟨first, layer⟩ := pair
    rw [List.map_cons, OrderedMap.get?, OrderedMap.get?]
    split
    · rfl
    · exact ih

/-- Of the registered resolvers for an actor in a menu those that do not fail are left. Their order stays. -/
theorem layers_withoutFailing {context : Value} {id : String} :
    ((p.withoutFailing classes actor context).registry.layers actor id).flatten =
      answering classes actor .nothing (p.registry.layers actor id).flatten := by
  simp only [PlaceholderRegistry.layers, withoutFailing, layer_answering]
  simp [answering]

/-- Of the resolvers for the type of a context those that do not fail are left. Their order stays, and a type that
loses all of its resolvers gives nothing. -/
theorem matching_withoutFailing {context : Value} :
    (p.withoutFailing classes actor context).contextRegistry.matching classes context =
      answering classes actor (.context context) (p.contextRegistry.matching classes context) := by
  unfold ContextRegistry.matching withoutFailing answering
  rw [List.filter_flatMap, List.flatMap_map]
  refine congrArg (List.flatMap · p.contextRegistry) (funext fun pair => ?_)
  obtain ⟨type, layer⟩ := pair
  dsimp only
  split <;> rfl

/-- The text of the first of several resolvers without a memory is put into the table before the others are asked.
What these answer does not depend on it. -/
theorem answerOf_putTexts_cons {topic : Topic} {token : String} {resolver : Resolver}
    {others : List (String × Resolver)} (isPure : resolver.isPure = true)
    (arePure : ∀ pair ∈ others, pair.2.isPure = true) (table : Placeholder.Table) :
    answerOf (Resolver.putTexts classes actor topic table ((token, resolver) :: others)) =
      answerOf (resolver.text? classes actor topic) >>= fun text =>
        answerOf (Resolver.putTexts classes actor topic
          (match text with | some text => table.put token (.text text) | none => table) others) := by
  have unfolded : Resolver.putTexts classes actor topic table ((token, resolver) :: others) =
      resolver.text? classes actor topic >>= fun text => Resolver.putTexts classes actor topic
        (match text with | some text => table.put token (.text text) | none => table) others := by
    unfold Resolver.putTexts
    rw [List.foldlM_cons, bind_assoc]
    refine congrArg (resolver.text? classes actor topic >>= ·) (funext fun text => ?_)
    cases text <;> exact pure_bind _ _
  rw [unfolded]
  exact answerOf_bind (Resolver.steady_text? isPure) fun text => Resolver.steady_putTexts arePure

/-- Resolvers without a memory that fail put nothing into a table. Without a memory they leave nothing behind that
another could find, so they can be left out. -/
theorem answerOf_putTexts_answering {topic : Topic} {resolvers : List (String × Resolver)} {table : Placeholder.Table}
    (pure : ∀ pair ∈ resolvers, pair.2.isPure = true) :
    answerOf (Resolver.putTexts classes actor topic table (answering classes actor topic resolvers)) =
      answerOf (Resolver.putTexts classes actor topic table resolvers) := by
  induction resolvers generalizing table with
  | nil => rfl
  | cons pair others ih =>
    obtain ⟨token, resolver⟩ := pair
    obtain ⟨isPure, arePure⟩ := List.forall_mem_cons.mp pure
    rw [answerOf_putTexts_cons isPure arePure]
    cases answers : (answerOf (resolver.run classes actor topic)).toBool with
    | true =>
      have kept : ∀ pair ∈ answering classes actor topic others, pair.2.isPure = true :=
        fun pair member => arePure pair (List.mem_filter.mp member).1
      have left : answering classes actor topic ((token, resolver) :: others) =
          (token, resolver) :: answering classes actor topic others := List.filter_cons_of_pos answers
      rw [left, answerOf_putTexts_cons isPure kept]
      exact congrArg (_ >>= ·) (funext fun text => ih arePure)
    | false =>
      have left : answering classes actor topic ((token, resolver) :: others) =
          answering classes actor topic others := List.filter_cons_of_neg (by simp [answers])
      have passed : answerOf (resolver.text? classes actor topic) = .ok none := by
        unfold answerOf at answers ⊢
        rw [Resolver.run_text?]
        rcases asked : (resolver.run classes actor topic).run.run {} with ⟨cause | answer, after⟩
        · rfl
        · rw [asked] at answers
          cases answers
      rw [left, passed]
      exact ih arePure

/-- A pipeline without a memory has none without its resolvers that fail. There are only fewer resolvers to look at. -/
theorem isPure_withoutFailing {context : Value} (pure : p.IsPure) :
    (p.withoutFailing classes actor context).IsPure := by
  have kept {topic : Topic} {layer : ResolverLayer} (pure : ∀ pair ∈ layer, pair.2.isPure = true) :
      ∀ pair ∈ answering classes actor topic layer, pair.2.isPure = true :=
    fun pair member => pure pair (List.mem_filter.mp member).1
  have all {α : Type} {topic : Topic} {layers : OrderedMap α ResolverLayer}
      (pure : ∀ layer ∈ layers, ∀ pair ∈ layer.2, pair.2.isPure = true) :
      ∀ layer ∈ layers.map (fun pair => (pair.1, answering classes actor topic pair.2)),
        ∀ pair ∈ layer.2, pair.2.isPure = true := by
    intro layer member
    obtain ⟨before, isLayer, rfl⟩ := List.mem_map.mp member
    exact kept (pure before isLayer)
  exact ⟨kept pure.everywhere, all pure.byMenu, all pure.byActor, all pure.byType⟩

/-- A context provides the same tokens, or fails in the same way, without the resolvers that fail. Its fields are
looked at in both. -/
theorem answerOf_ofContext_withoutFailing (pure : p.IsPure) (context : Value) :
    answerOf ((p.withoutFailing classes actor context).ofContext classes actor context) =
      answerOf (p.ofContext classes actor context) := by
  have left : (p.withoutFailing classes actor context).IsPure := isPure_withoutFailing pure
  have typed : answerOf ((p.withoutFailing classes actor context).contextRegistry.resolveAll classes actor context) =
      answerOf (p.contextRegistry.resolveAll classes actor context) := by
    unfold ContextRegistry.resolveAll
    split
    · rfl
    · rw [matching_withoutFailing]
      exact answerOf_putTexts_answering fun _ member => pure.of_mem_matching member
  unfold ofContext
  dsimp only
  split
  · rfl
  · refine answerOf_bind_congr steady_tokens steady_tokens rfl (fun fields => ?_) (fun fields => ?_) fun fields => ?_
    · exact steady_bind (left.steady_typed _) fun typed => steady_pure _
    · exact steady_bind (pure.steady_typed _) fun typed => steady_pure _
    · exact answerOf_bind_congr (left.steady_typed _) (pure.steady_typed _) typed (fun _ => steady_pure _)
        (fun _ => steady_pure _) fun _ => rfl

/-- A pipeline whose resolvers have no memory builds the same table, or fails in the same way, without those of them
that fail. Both parts that ask resolvers, the registered ones and the context, do so. -/
theorem answerOf_build_withoutFailing (pure : p.IsPure) :
    answerOf ((p.withoutFailing classes actor ((view.map (·.context)).getD .null)).build classes actor menu view) =
      answerOf (p.build classes actor menu view) := by
  generalize isContext : (view.map (·.context)).getD .null = context
  have left : (p.withoutFailing classes actor context).IsPure := isPure_withoutFailing pure
  have registered : answerOf ((p.withoutFailing classes actor context).registry.resolveAll classes actor menu.id) =
      answerOf (p.registry.resolveAll classes actor menu.id) := by
    unfold PlaceholderRegistry.resolveAll
    rw [layers_withoutFailing]
    exact answerOf_putTexts_answering fun _ member => pure.of_mem_layers member
  unfold build
  dsimp only
  rw [isContext]
  have rest {q : Placeholders} (pure : q.IsPure) (own : Placeholder.Table) : Steady classes (do
      let contextual ← q.ofContext classes actor context
      let paged ← ExceptT.mk (Pure.pure (ofPage menu ((view.map (·.page)).getD 0)))
      return (own.putAll contextual).putAll paged) :=
    steady_bind (pure.steady_ofContext _) fun _ => steady_bind (steady_result _) fun _ => steady_pure _
  refine answerOf_bind_congr (left.steady_registered _) (pure.steady_registered _) registered (fun _ => rest left _)
    (fun _ => rest pure _) fun _ => ?_
  exact answerOf_bind_congr (left.steady_ofContext _) (pure.steady_ofContext _)
    (answerOf_ofContext_withoutFailing pure context) (fun _ => steady_bind (steady_result _) fun _ => steady_pure _)
    (fun _ => steady_bind (steady_result _) fun _ => steady_pure _) fun _ => rfl

/-- The table of a drawing is built exactly if no resolver answers with a value that has no text, the context has its
fields and each of them tells a token or none, and the page can be written. It consists of what each source provides,
where a resolver that fails, with whatever it fails, provides nothing; without a memory in the resolvers the result is
that without those that fail, and the fields of an object are those without the accessors that fail.

Proof: the building is one bind of a reading behind another. Each source has a relation that says what it provides and
leaves behind (`Resolver.Provide`, `ProvideContext`) and a condition on which it comes to an end; `run_build` and
`build_succeeds_iff` put these together in the order in which the sources are asked. -/
theorem build_stops_exactly (classes : Classes) (p : Placeholders) (actor : Actor) (menu : Menu) (view : Option View)
    (before : Ledger) :
    ((∃ table after, (p.build classes actor menu view).run.run before = (.ok table, after)) ↔
      ¬Resolver.Mumbles classes actor .nothing (p.registry.layers actor menu.id).flatten before ∧
      (∀ registered asked,
        Resolver.Provide classes actor .nothing (p.registry.layers actor menu.id).flatten before registered asked →
          ContextTells classes p actor ((view.map (·.context)).getD .null) asked) ∧
      PageShort menu ((view.map (·.page)).getD 0)) ∧
    (∀ table after, (p.build classes actor menu view).run.run before = (.ok table, after) ↔
      ∃ registered asked contextual paged,
        Resolver.Provide classes actor .nothing (p.registry.layers actor menu.id).flatten before registered asked ∧
        ProvideContext classes p actor ((view.map (·.context)).getD .null) asked contextual after ∧
        ofPage menu ((view.map (·.page)).getD 0) = .ok paged ∧
        table = (((Placeholder.tokenTable menu.placeholders).putAll
          (.ofPairs (Placeholder.textTable registered))).putAll contextual).putAll paged) ∧
    (p.IsPure →
      answerOf ((p.withoutFailing classes actor ((view.map (·.context)).getD .null)).build classes actor menu view) =
        answerOf (p.build classes actor menu view)) ∧
    ∀ cache context, (Discovery.fields classes [(Classes.typeOf context,
      (Discovery.accessors classes cache context).1.filter fun a =>
        (Discovery.readAccessor? classes context a).isSome)] context).1 =
      (Discovery.fields classes cache context).1 :=
  ⟨build_succeeds_iff, fun _ _ => run_build, answerOf_build_withoutFailing, Discovery.fields_of_readable classes⟩

end

/-- A class with a method that fails to read a field, and perhaps with one that describes the fields. -/
def chestClasses (describe : Option Member) : Classes :=
  (Classes.declare {} { name := "Chest", methods := [("get_owner", { member := .reports "gone" })], describe
    }).toOption.getD {}

/-- A view of a menu that was opened with an object of this class, which stores another field. -/
def chestView (describe : Option Member) : View where
  menu := "shop"
  page := 0
  context := ((chestClasses describe).instantiate "Chest" [("gold", .int 7)]).toOption.getD .null

/-- A pipeline with two resolvers, of which one fails. -/
def halfFailing : Placeholders where
  registry := { everywhere := [("\x7bbalance\x7d", .raise "down"), ("\x7brank\x7d", .const (.text "vip"))] }

/-- An actor. -/
def ann : Actor := { id := .text "ann", name := .text "Ann" }

/-- In a pipeline with one resolver that fails beside others and a method that fails beside others, the two give no
tokens, and nothing else is lost. -/
theorem build_halfFailing :
    ∃ table after,
      (halfFailing.build (chestClasses none) ann smallMenu (some (chestView none))).run.run {} = (.ok table, after) ∧
      (table.get? "\x7brank\x7d").map Value.label = some "vip" ∧ table.has "\x7bbalance\x7d" = false ∧
      (table.get? "\x7bcontext.gold\x7d").map Value.label = some "7" ∧ table.has "\x7bcontext.owner\x7d" = false ∧
      answerOf ((halfFailing.withoutFailing (chestClasses none) ann (chestView none).context).build (chestClasses none)
        ann smallMenu (some (chestView none))) = .ok table ∧
      PageShort smallMenu 0 := by
  obtain ⟨succeeds, -, alike, -⟩ := build_stops_exactly (chestClasses none) halfFailing ann smallMenu
    (some (chestView none)) {}
  have pure : halfFailing.IsPure := ⟨by decide, by simp [halfFailing], by simp [halfFailing], by simp [halfFailing]⟩
  have tokens : ((halfFailing.build (chestClasses none) ann smallMenu (some (chestView none))).run.run {}).1.toOption.map
      (fun table => ((table.get? "\x7brank\x7d").map Value.label, table.has "\x7bbalance\x7d",
        (table.get? "\x7bcontext.gold\x7d").map Value.label, table.has "\x7bcontext.owner\x7d")) =
      some (some "vip", false, some "7", false) := by decide +kernel
  rcases built : (halfFailing.build (chestClasses none) ann smallMenu (some (chestView none))).run.run {} with
    ⟨cause | table, after⟩
  · rw [built] at tokens
    cases tokens
  · rw [built] at tokens
    simp only [Except.toOption, Option.map_some, Option.some.injEq, Prod.mk.injEq] at tokens
    obtain ⟨rank, balance, gold, owner⟩ := tokens
    refine ⟨table, after, rfl, rank, balance, gold, owner, ?_, (succeeds.mp ⟨table, after, built⟩).2.2⟩
    exact (alike pure).trans (congrArg Prod.fst built)

/-- A pipeline with a resolver that answers with an integer. -/
def counting (n : Int) : Placeholders where
  registry := { everywhere := [("\x7bwealth\x7d", .const (.int n))] }

/-- An object that fails to describe its fields stops the building, and so does a resolver that answers with an integer
which is too long to be written. -/
theorem build_stopped_by_description :
    ((({} : Placeholders).build (chestClasses (some (.reports "locked"))) ann smallMenu
      (some (chestView (some (.reports "locked"))))).run.run {}).1 = .error (.reported .runtime "locked") ∧
    ¬∃ table after, ((counting (Nat.pow 10 5000)).build {} ann smallMenu none).run.run {} = (.ok table, after) := by
  refine ⟨rfl, fun built => ?_⟩
  have long : ¬Value.IsShort (Nat.pow 10 5000) := by
    unfold Value.IsShort
    decide +kernel
  refine (build_succeeds_iff.mp built).1 ⟨[], _, _, [], [], {}, _, {}, rfl, .nobody {}, rfl, fun isSaid => long ?_⟩
  obtain ⟨words, given⟩ := isSaid
  rw [← Value.succeeds_integerShown]
  cases written : integerShown (Nat.pow 10 5000) with
  | ok text => exact ⟨text, rfl⟩
  | error cause =>
    have said : (integerShown (Nat.pow 10 5000)).map some = .ok words := given
    rw [written] at said
    cases said

end Placeholders

end ChestMenu
