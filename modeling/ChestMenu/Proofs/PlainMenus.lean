import ChestMenu.Proofs.Building
import ChestMenu.Proofs.ReadData

/-!
# Drawing menus from files where no placeholder is registered

Texts stand for all tokens then, no code of a host is asked, and a context that is a mapping from texts to plain
values gives one token for each of its pairs. So there is one thing only that keeps such a menu from being drawn: a
number of pages that is too long to be written.

It makes no difference which slots are drawn, and which page of the menu a session is on.
-/
namespace ChestMenu

/-- A step gives something with a property, whatever was resolved before. -/
abbrev Resolves {α : Type} (P : α → Prop) (x : ExceptT Failure Resolving α) : Prop :=
  Leads (fun _ => True) (fun _ => False) P x

/-- A result that is there already resolves if it is no failure. -/
theorem resolves_result {α : Type} {result : Except Failure α} (succeeds : Succeeds result) :
    Resolves (fun _ => True) (ExceptT.mk (pure result)) := by
  obtain ⟨a, rfl⟩ := succeeds
  exact leads_pure trivial

namespace Placeholder

variable {table entries : Table}

/-- In a table of texts the tokens of every text can be replaced. Only a value that is no text could fail to be put
in. -/
theorem Table.AreTexts.succeeds_apply (texts : table.AreTexts) (text : String) : Succeeds (apply table text) := by
  have all (text : String) : Succeeds
      (table.foldlM (fun text pair => replaceToken text pair.1 pair.2) text) := by
    induction table generalizing text with
    | nil => exact succeeds_pure _
    | cons pair rest ih =>
      obtain ⟨⟨word, isText⟩, others⟩ := List.forall_mem_cons.mp texts
      have replaced : replaceToken text pair.1 pair.2 = .ok (Text.replaceAll pair.1 word text) := by
        rw [replaceToken, isText]
        rfl
      rw [List.foldlM_cons]
      exact succeeds_bind.mpr ⟨_, replaced, ih others _⟩
  unfold apply
  split
  · exact succeeds_ok _
  · exact all text

/-- In a table of texts it is decided of every expression whether it makes an item visible. It comes to replacing the
tokens in it. -/
theorem Table.AreTexts.succeeds_isVisibleIf (texts : table.AreTexts) (expression : Option String) :
    Succeeds (isVisibleIf table expression) := by
  unfold isVisibleIf
  split
  · exact succeeds_pure _
  · split
    · exact succeeds_pure _
    · exact succeeds_bind_pure.mpr (texts.succeeds_apply _)

/-- Texts above texts are texts, whichever of them is on top for a token. -/
theorem Table.AreTexts.putAll (texts : table.AreTexts) (others : Table.AreTexts entries) :
    Table.AreTexts (OrderedMap.putAll table entries) := by
  intro pair member
  rcases OrderedMap.mem_putAll member with before | entered
  · exact texts pair before
  · exact others pair entered

/-- A table that is made of texts has texts, under whatever tokens. -/
theorem areTexts_textTable (entries : List (String × String)) : (textTable entries).AreTexts := by
  intro pair member
  obtain ⟨entry, -, rfl⟩ := List.mem_map.mp member
  exact ⟨entry.2, rfl⟩

/-- Under their tokens texts are texts, as only the names are changed. -/
theorem Table.AreTexts.tokenTable (texts : table.AreTexts) : Table.AreTexts (tokenTable table) := by
  intro pair member
  obtain ⟨entry, isEntry, rfl⟩ := List.mem_map.mp (OrderedMap.mem_ofPairs member)
  exact texts entry isEntry

end Placeholder

namespace Value

/-- A value that is read from a typed text: an integer that can be written, a truth value or a text. -/
inductive IsTyped : Value → Prop
  | int {n : Int} (short : IsShort n) : IsTyped (.int n)
  | bool (b : Bool) : IsTyped (.bool b)
  | text (s : String) : IsTyped (.text s)

/-- The pairs of a context that is put together by typing: such values under texts. -/
def ArePutIn (pairs : List (Value × Value)) : Prop :=
  ∀ pair ∈ pairs, (∃ key, pair.1 = .text key) ∧ pair.2.IsTyped

/-- A context that is put together by typing, or none. -/
inductive IsPutTogether : Value → Prop
  | null : IsPutTogether .null
  | map {pairs : List (Value × Value)} (putIn : ArePutIn pairs) : IsPutTogether (.map pairs)

/-- Each pair of such a context gives a token. Its name and its value are of a kind that can be written. -/
theorem ArePutIn.tells [Machine] {pairs : List (Value × Value)} (putIn : ArePutIn pairs) :
    ∀ pair ∈ pairs, Discovery.Tells pair := by
  rintro ⟨key, value⟩ member
  obtain ⟨⟨name, isName⟩, typed⟩ := putIn _ member
  have named : ∀ words : Option String, words ≠ none → ∃ name, key.plain = .text name := by
    intro _ _
    exact ⟨name, congrArg plain isName⟩
  cases typed with
  | int short =>
    obtain ⟨words, written⟩ := (succeeds_integerShown _).mpr short
    refine ⟨some words, ?_, named _⟩
    rw [placeholderText?, shown, inner, innerWith, written]
    · rfl
    all_goals simp
  | bool b => exact ⟨_, rfl, named _⟩
  | text s => exact ⟨_, rfl, named _⟩

/-- Under the texts of their keys the pairs are such pairs again. The keys are texts already. -/
theorem ArePutIn.underTexts [Machine] {pairs named : List (Value × Value)} (putIn : ArePutIn pairs)
    (given : Discovery.underTexts pairs = .ok named) : ArePutIn named := by
  obtain ⟨entries, areEntries, same⟩ := ok_of_bind given
  cases same
  refine forall_ofPairs (P := fun key => ∃ name, key = .text name) fun pair member => ?_
  obtain ⟨source, isSource, found⟩ := mem_of_mapM areEntries member
  obtain ⟨name, -, same⟩ := ok_of_bind found
  cases same
  exact ⟨⟨name, rfl⟩, (putIn source isSource).2⟩

end Value

/-- An actor whose id and name are texts, the id not the empty one. -/
def Actor.IsWorded (actor : Actor) : Prop :=
  ∃ id name, actor.id = .text id ∧ id ≠ "" ∧ actor.name = .text name

namespace Placeholders

open Value (IsPutTogether)

variable {classes : Classes} {actor : Actor} {menu : Menu} {view : View} {context : Value} {before after : Ledger}
  {table : Placeholder.Table}

/-- Where no placeholder is registered, such a context does not stop the building of a table. Its fields are there,
and each of them tells a token. -/
theorem contextTells_of_putTogether [Machine] (put : IsPutTogether context) :
    ContextTells classes {} actor context before := by
  intro isThere
  cases put with
  | null => exact absurd rfl isThere
  | @map pairs putIn =>
    have named : ∀ pair ∈ pairs, pair.1.HasText := by
      intro pair member
      obtain ⟨⟨key, isKey⟩, -⟩ := putIn pair member
      exact ⟨key, by rw [isKey]; rfl⟩
    refine ⟨fun others same => ?_, fun others accessors read => ⟨?_, ?_⟩⟩
    · cases same
      exact named
    · have given : Discovery.underTexts pairs = .ok others := congrArg Prod.fst read
      exact (putIn.underTexts given).tells
    · rintro ⟨_ | ⟨_, _⟩, _, _, _, _, _, _, _, split, -⟩ <;> cases split

/-- What such an actor and such a context provide is a table of texts. The name and the id of the actor are texts, and
so is what fields give. -/
theorem areTexts_of_provideContext [Machine] {contextual : Placeholder.Table} (worded : actor.IsWorded)
    (provided : ProvideContext classes {} actor context before contextual after) : contextual.AreTexts := by
  obtain ⟨id, name, isId, -, isName⟩ := worded
  have own : (ofActor actor).AreTexts := by
    simp [Placeholder.Table.AreTexts, ofActor, isId, isName]
  rcases provided with ⟨-, rfl, -⟩ | ⟨-, pairs, accessors, fields, typed, -, -, -, rfl⟩
  · exact own
  · refine (own.putAll (Placeholder.areTexts_textTable _)).putAll fun pair member => ?_
    exact Placeholder.areTexts_textTable _ pair (OrderedMap.mem_ofPairs member)

/-- The tokens of the page are texts, too: two numbers that were written. -/
theorem areTexts_of_ofPage {page : Int} (paged : ofPage menu page = .ok table) : table.AreTexts := by
  unfold ofPage at paged
  split at paged
  · obtain ⟨present, -, later⟩ := ok_of_bind paged
    obtain ⟨total, -, same⟩ := ok_of_bind later
    cases same
    simp [Placeholder.Table.AreTexts]
  · cases paged
    simp [Placeholder.Table.AreTexts]

/-- Where no placeholder is registered, the table of a drawing is built exactly if the page can be written. Neither
resolvers nor the context can stop it here. -/
theorem exists_table_iff [Machine] (put : IsPutTogether view.context) :
    (∃ table after, (build classes {} actor menu (some view)).run.run before = (.ok table, after)) ↔
      PageShort menu view.page := by
  rw [build_succeeds_iff]
  constructor
  · exact fun all => all.2.2
  · intro short
    refine ⟨?_, fun registered asked _ => contextTells_of_putTogether put, short⟩
    rintro ⟨_ | ⟨_, _⟩, _, _, _, _, _, _, _, split, -⟩ <;> cases split

/-- The table that is built is one of texts, since each of its layers is. -/
theorem areTexts_of_build [Machine] (worded : actor.IsWorded) (bare : menu.placeholders = [])
    (built : (build classes {} actor menu (some view)).run.run before = (.ok table, after)) : table.AreTexts := by
  obtain ⟨registered, asked, contextual, paged, provided, heard, isPaged, rfl⟩ := run_build.mp built
  have own : Placeholder.Table.AreTexts (Placeholder.tokenTable menu.placeholders) := by
    rw [bare]
    exact fun pair member => absurd member List.not_mem_nil
  refine ((own.putAll fun pair member => ?_).putAll (areTexts_of_provideContext worded heard)).putAll
    (areTexts_of_ofPage isPaged)
  exact Placeholder.areTexts_textTable _ pair (OrderedMap.mem_ofPairs member)

end Placeholders

section

variable {classes : Classes} {actor : Actor} {view : Option View} {base : Placeholder.Table}

/-- What a plain item shows can be had from a table of texts. It has neither resolvers nor a predicate, so nothing of
it can fail. -/
theorem Entry.IsPlain.resolves_appearance [Machine] {entry : Entry} (plain : entry.IsPlain) (texts : base.AreTexts)
    (key : String) : Resolves (fun _ => True) (entry.appearance classes actor view base key) := by
  have all : Placeholder.Table.AreTexts (OrderedMap.putAll base (Placeholder.tokenTable entry.placeholders)) :=
    texts.putAll plain.texts.tokenTable
  unfold Entry.appearance
  refine leads_bind (P := Placeholder.Table.AreTexts) ?_ fun table texts => ?_
  · unfold Placeholders.forItem
    rw [plain.fixed]
    exact leads_pure all
  refine leads_bind (P := fun _ => True) ?_ fun visible _ => ?_
  · unfold Entry.isVisible
    rw [plain.unasked]
    exact resolves_result (texts.succeeds_isVisibleIf _)
  split
  · refine leads_bind (resolves_result ?_) fun item _ => leads_pure trivial
    unfold Entry.render
    refine succeeds_bind.mpr ?_
    obtain ⟨name, isName⟩ := texts.succeeds_apply entry.template.name
    exact ⟨name, isName, succeeds_bind_pure.mpr (succeeds_mapM.mpr fun line _ => texts.succeeds_apply line)⟩
  · exact leads_pure trivial

/-- The number of pages of a menu can be written, if it has pages. -/
def Menu.Countable (menu : Menu) : Prop :=
  menu.isPaginated = true → Value.IsShort menu.totalPages

/-- A page of a menu can be written exactly if the number of its pages can. The number of the page is not greater than
that. -/
theorem Menu.countable_iff {menu : Menu} {page : Int} (notNegative : 0 ≤ page) (inside : page < menu.totalPages) :
    Placeholders.PageShort menu page ↔ menu.Countable := by
  refine ⟨fun short paginated => (short paginated).2, fun countable paginated => ⟨?_, countable paginated⟩⟩
  have total := countable paginated
  have smaller : (page + 1).natAbs ≤ menu.totalPages.natAbs := by omega
  exact Nat.lt_of_le_of_lt smaller total

/-- A plain menu on one of its pages can be drawn, in all slots or in some, exactly if the number of its pages can be
written. The table and the items can be had then, and the title as well. -/
theorem EngineState.drawing_succeeds_iff [Machine] {s : EngineState} {session : Session} {menu : Menu}
    (unregistered : s.placeholders = {}) (worded : (s.actor session.actor).IsWorded) (plain : menu.IsPlain)
    (put : session.context.IsPutTogether) (notNegative : 0 ≤ session.page) (inside : session.page < menu.totalPages)
    (slots : Option (List SlotName)) (before : Ledger) :
    (∃ drawing after, (s.drawing session menu slots).run.run before = (.ok drawing, after)) ↔ menu.Countable := by
  rw [← Menu.countable_iff notNegative inside]
  have builds (before : Ledger) :
      (∃ table after, (Placeholders.build s.classes {} (s.actor session.actor) menu (some session.view)).run.run
        before = (.ok table, after)) ↔ Placeholders.PageShort menu session.page :=
    Placeholders.exists_table_iff put
  unfold drawing
  rw [unregistered]
  constructor
  · rintro ⟨drawing, after, drawn⟩
    obtain ⟨table, between, built, -⟩ := run_bind_eq_ok_iff.mp drawn
    exact (builds before).mp ⟨table, between, built⟩
  · intro short
    have table : Resolves Placeholder.Table.AreTexts
        (Placeholders.build s.classes {} (s.actor session.actor) menu (some session.view)) := by
      refine leads_of_answers fun before => ?_
      obtain ⟨table, after, built⟩ := (builds before).mpr short
      exact ⟨table, after, built, Placeholders.areTexts_of_build worded plain.bare built⟩
    have laid : Resolves (fun _ => True) (menu.layout s.classes (s.actor session.actor) (some session.view) {}
        (slots.map (·.map (·.slot)))) := by
      unfold Menu.layout
      refine leads_bind table fun base texts => leads_foldlM trivial fun placement member grid _ => ?_
      obtain ⟨key, entry, targets⟩ := placement
      have isPlain := Menu.forall_placements plain.items plain.pageItems _ _ member
      rw [Menu.place_eq]
      dsimp only
      split
      · exact leads_pure trivial
      · exact leads_bind (isPlain.resolves_appearance texts key) fun _ _ => leads_pure trivial
    have drawn : Resolves (fun _ => True) (do
        let table ← Placeholders.build s.classes {} (s.actor session.actor) menu (some session.view)
        let title ← ExceptT.mk (pure (Placeholder.apply table menu.title))
        let grid ← menu.layout s.classes (s.actor session.actor) (some session.view) {}
          (slots.map (·.map (·.slot)))
        return (title, grid)) := by
      refine leads_bind table fun base texts => ?_
      refine leads_bind (resolves_result (texts.succeeds_apply _)) fun _ _ => ?_
      exact leads_bind laid fun _ _ => leads_pure trivial
    obtain ⟨drawing, after, done, -⟩ := drawn.answers (s := before) trivial
    exact ⟨drawing, after, done⟩

end

end ChestMenu
