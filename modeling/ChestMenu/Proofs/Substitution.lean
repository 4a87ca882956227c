import ChestMenu.Placeholder.Token

/-!
# Tokens that are replaced all at once

The tokens of a table are replaced one after another, in a text that changes on the way. In a template, which is made
up of literal texts and tokens, this comes to the same as putting for every token what the table has for it, as long
as neither the literals and names nor what stands for tokens has braces: a token of the table then occurs where the
template has it and nowhere else, and nothing that is put in makes or breaks one.

So a token that the table does not know stays as it is written, the order of the table does not matter, and a second
replacing changes nothing. Where a value has braces none of this is said; what one token brings in, a later one may
replace.
-/
namespace ChestMenu.Placeholder

open ChestMenu.Text

/-- A text without braces. -/
structure Unbraced where
  chars : List Char
  opening : '\x7b' ∉ chars
  closing : '\x7d' ∉ chars
deriving DecidableEq

/-- A name in braces. -/
def Unbraced.token (name : Unbraced) : List Char :=
  '\x7b' :: (name.chars ++ ['\x7d'])

/-- A piece of a template. -/
inductive Piece where
  | literal (text : Unbraced)
  | token (name : Unbraced)

/-- How a piece is written. -/
def Piece.chars : Piece → List Char
  | literal text => text.chars
  | token name => name.token

/-- Literal texts and tokens, one behind another. -/
abbrev Template := List Piece

/-- How a template is written. -/
def Template.chars (template : Template) : List Char :=
  template.flatMap Piece.chars

/-- The text that a template is written as. -/
def Template.text (template : Template) : String :=
  String.ofList template.chars

/-- What stands for names. -/
abbrev Words := OrderedMap Unbraced Unbraced

/-- The table of what stands for the tokens of names. -/
def Words.table (words : Words) : Table :=
  words.map fun (name, word) => (String.ofList name.token, .text (String.ofList word.chars))

/-- A piece with its token replaced, if something stands for it. -/
def Piece.filled (words : Words) : Piece → Piece
  | literal text => literal text
  | token name =>
    match words.get? name with
    | some word => literal word
    | none => token name

/-- A template with all its tokens replaced at once. -/
def Template.filled (template : Template) (words : Words) : Template :=
  template.map (Piece.filled words)

variable {name word : Unbraced} {words other : Words} {template : Template}

/-- A token begins only where it is written in full. It has a brace at either end and none between. -/
theorem Unbraced.eq_of_starts {name other : Unbraced} {behind : List Char}
    (starts : name.token <+: other.token ++ behind) : name = other := by
  have ends : ∀ {cs ds : List Char}, '\x7d' ∉ cs → '\x7d' ∉ ds →
      cs ++ ['\x7d'] <+: ds ++ '\x7d' :: behind → cs = ds := by
    intro cs ds left right within
    induction cs generalizing ds with
    | nil =>
      cases ds with
      | nil => rfl
      | cons d ds =>
        obtain ⟨rfl, -⟩ := List.cons_prefix_cons.mp within
        exact absurd List.mem_cons_self right
    | cons c cs ih =>
      cases ds with
      | nil =>
        obtain ⟨rfl, -⟩ := List.cons_prefix_cons.mp within
        exact absurd List.mem_cons_self left
      | cons d ds =>
        obtain ⟨rfl, later⟩ := List.cons_prefix_cons.mp within
        rw [ih (fun member => left (List.mem_cons_of_mem _ member))
          (fun member => right (List.mem_cons_of_mem _ member))
          later]
  have same : name.chars = other.chars := by
    refine ends name.closing other.closing ?_
    have inside : name.chars ++ ['\x7d'] <+: other.chars ++ ['\x7d'] ++ behind := (List.cons_prefix_cons.mp starts).2
    rwa [List.append_assoc] at inside
  cases name
  cases other
  cases same
  rfl

/-- In a template a token is replaced where it stands as a piece, and nowhere else. The induction is on the pieces of
the template. -/
theorem Template.replaceChars_token (template : Template) (name word : Unbraced) :
    replaceChars name.token word.chars template.chars = (template.filled [(name, word)]).chars := by
  have nonempty : name.token ≠ [] := List.cons_ne_nil _ _
  induction template with
  | nil => exact replaceChars_nil nonempty
  | cons piece template ih =>
    have filled : Template.chars (Template.filled (piece :: template) [(name, word)]) =
        (piece.filled [(name, word)]).chars ++ (Template.filled template [(name, word)]).chars := rfl
    rw [filled, ← ih]
    change replaceChars name.token word.chars (piece.chars ++ Template.chars template) = _
    cases piece with
    | literal text => exact replaceChars_append_of_first text.opening
    | token own =>
      by_cases same : name = own
      · subst same
        simp only [Piece.filled, OrderedMap.get?, if_true, Piece.chars]
        exact replaceChars_append_self nonempty
      · have apart : ¬name.token <+: own.token ++ Template.chars template := fun starts =>
          same (Unbraced.eq_of_starts starts)
        have rest : '\x7b' ∉ own.chars ++ ['\x7d'] := by simp [own.opening]
        simp only [Piece.filled, OrderedMap.get?, if_neg same, Piece.chars]
        exact (replaceChars_cons nonempty apart).trans (congrArg _ (replaceChars_append_of_first rest))

/-- Replacing one token and then the others is replacing all of them. What has been put in has no braces, so the
others do not touch it. -/
theorem Piece.filled_cons (piece : Piece) :
    (piece.filled [(name, word)]).filled words = piece.filled ((name, word) :: words) := by
  cases piece with
  | literal text => rfl
  | token own => by_cases same : name = own <;> simp [Piece.filled, OrderedMap.get?, same]

/-- Replacing one token in a template and then the others is replacing all of them, piece by piece. -/
theorem Template.filled_cons (template : Template) :
    (template.filled [(name, word)]).filled words = template.filled ((name, word) :: words) := by
  simp only [Template.filled, List.map_map]
  exact List.map_congr_left fun piece _ => piece.filled_cons

/-- A template stays as it is if each of its pieces does. This is how filling twice is seen to be filling once. -/
theorem Template.filled_eq_self (stays : ∀ piece ∈ template, piece.filled words = piece) :
    template.filled words = template := by
  rw [Template.filled, List.map_congr_left stays, List.map_id_fun', id_eq]

/-- What the table has for the tokens of a template is put in for them. The induction is on the table, with one token
replaced in each step. -/
theorem Template.apply_table (template : Template) (words : Words) :
    apply words.table template.text = .ok (template.filled words).text := by
  have each : words.table.foldlM (fun text pair => replaceToken text pair.1 pair.2) template.text =
      Except.ok (ε := Failure) (template.filled words).text := by
    induction words generalizing template with
    | nil =>
      rw [Template.filled_eq_self fun piece _ => by cases piece <;> rfl]
      rfl
    | cons pair words ih =>
      obtain ⟨name, word⟩ := pair
      have first : replaceToken template.text (String.ofList name.token) (.text (String.ofList word.chars)) =
          .ok (template.filled [(name, word)]).text := by
        have replaced := template.replaceChars_token name word
        simp only [replaceToken, Value.plain, replaceAll, String.toList_ofList, Template.text, replaced]
      rw [← template.filled_cons, ← ih]
      change (replaceToken _ _ _ >>= fun text => _) = _
      rw [first]
      rfl
  unfold apply
  split
  · -- An empty text has no tokens, so that there is nothing to be put in.
    rename_i empty
    have blank : template.chars = [] := by simpa [Template.text] using empty
    have stays : ∀ piece ∈ template, piece.filled words = piece := by
      intro piece member
      have none := List.flatMap_eq_nil_iff.mp blank piece member
      cases piece with
      | literal text => rfl
      | token name => cases none
    rw [Template.filled_eq_self stays]
  · exact each

/-- What is found for a token depends on the names and not on their order. Each name stands in the table once. -/
theorem Template.filled_perm (once : (OrderedMap.keys words).Nodup) (same : other.Perm words) (template : Template) :
    template.filled other = template.filled words := by
  refine List.map_congr_left fun piece _ => ?_
  cases piece with
  | literal text => rfl
  | token name => simp only [Piece.filled, OrderedMap.get?_perm once same]

/-- Only tokens for which nothing stands are left to be replaced, so replacing once more changes nothing. -/
theorem Template.filled_filled (template : Template) (words : Words) :
    (template.filled words).filled words = template.filled words := by
  refine Template.filled_eq_self fun piece member => ?_
  obtain ⟨before, -, rfl⟩ := List.mem_map.mp member
  cases before with
  | literal text => rfl
  | token name => cases found : words.get? name <;> simp [Piece.filled, found]

/-- In a template without stray braces the tokens of a table of texts without braces are all replaced at once: each by
what stands for it, and all else stays as it is written. It makes no difference in which order the table has them, and
replacing them again changes nothing.

Proof: the tokens are replaced one after another, and replacing one changes the pieces that are that token and no
others, since neither a literal nor what stands for a token has a brace in it. So each step takes a template to a
template, and the steps come to one filling. -/
theorem Template.apply_simultaneous {words : Words} (once : (OrderedMap.keys words).Nodup) (template : Template) :
    apply words.table template.text = .ok (template.filled words).text ∧
      (∀ other : Words, other.Perm words → apply other.table template.text = apply words.table template.text) ∧
      apply words.table (template.filled words).text = .ok (template.filled words).text := by
  refine ⟨template.apply_table words, fun other same => ?_, ?_⟩
  · rw [template.apply_table, template.apply_table, Template.filled_perm once same]
  · rw [Template.apply_table, Template.filled_filled]

/-- A player is greeted by name and rank, and a guest whom nobody knows. -/
def greeting : Template :=
  [.literal ⟨"Hi ".toList, by decide, by decide⟩, .token ⟨"player".toList, by decide, by decide⟩,
    .token ⟨"rank".toList, by decide, by decide⟩, .literal ⟨", ".toList, by decide, by decide⟩,
    .token ⟨"guest".toList, by decide, by decide⟩]

/-- The name and the rank of the player. -/
def introduction : Words :=
  [(⟨"player".toList, by decide, by decide⟩, ⟨"Steve".toList, by decide, by decide⟩),
    (⟨"rank".toList, by decide, by decide⟩, ⟨" (vip)".toList, by decide, by decide⟩)]

/-- The player is greeted in the same way in whichever order the name and the rank are put in. -/
theorem apply_greeting :
    (OrderedMap.keys introduction).Nodup ∧ greeting.text = "Hi \x7bplayer\x7d\x7brank\x7d, \x7bguest\x7d" ∧
      apply introduction.table greeting.text = .ok "Hi Steve (vip), \x7bguest\x7d" ∧
      apply (Words.table introduction.reverse) greeting.text = .ok "Hi Steve (vip), \x7bguest\x7d" := by
  have once : (OrderedMap.keys introduction).Nodup := by decide
  obtain ⟨filled, anyOrder, -⟩ := Template.apply_simultaneous once greeting
  have text : (greeting.filled introduction).text = "Hi Steve (vip), \x7bguest\x7d" := by decide
  rw [text] at filled
  exact ⟨once, by decide, filled, (anyOrder _ introduction.reverse_perm).trans filled⟩

end ChestMenu.Placeholder
