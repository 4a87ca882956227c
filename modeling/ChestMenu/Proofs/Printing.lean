import ChestMenu.Proofs.Endings
import ChestMenu.Terminal

/-!
# What a terminal prints

What a command prints is told by what it prints on an output that takes everything. An output that takes each
of these texts gets all of them, and the command ends on it in the same way. Any other output breaks the command
off at the first text that it does not take, since the engine is asked for the same and nothing else in a
terminal looks at the output.
-/
namespace ChestMenu.Terminal

open Number Text

variable {α β : Type}

/-- A failure of the first of two steps is one of both. The second is not taken then. -/
theorem fails_bind {x : Typing α} {t : Terminal} (f : α → Typing β) (failed : ∃ cause, (x.run.run t).1 = .error cause) :
    ∃ cause, ((x >>= f).run.run t).1 = .error cause := by
  obtain ⟨cause, failed⟩ := failed
  rw [run_bind]
  generalize x.run.run t = done at failed
  obtain ⟨result, u⟩ := done
  cases failed
  exact ⟨cause, rfl⟩

variable [output : Output]

/-- A step does here what another does that has an output which takes everything: all the same if the texts that
the other prints are taken here, and otherwise it fails. -/
def Follows (x whole : Typing α) : Prop :=
  ∀ t, ∃ texts, (whole.run.run t).2.printed = t.printed ++ texts ∧
    ((∀ text ∈ texts, output.takes text = true) → x.run.run t = whole.run.run t) ∧
    ∀ text ∈ texts, output.takes text = false → ∃ cause, (x.run.run t).1 = .error cause

/-- What a step prints from a terminal on. -/
def printedBy (x : Typing α) (t : Terminal) : List String :=
  (x.run.run t).2.printed.drop t.printed.length

/-- The output takes all of some texts, or there is one that it does not take. -/
theorem taken_or_refused (texts : List String) :
    (∀ text ∈ texts, output.takes text = true) ∨ ∃ text ∈ texts, output.takes text = false := by
  by_cases refused : ∃ text ∈ texts, output.takes text = false
  · exact .inr refused
  · exact .inl fun text isText => eq_true_of_ne_false fun untaken => refused ⟨text, isText, untaken⟩

/-- A step fails exactly if the other fails or prints something that is not taken here. The first such text is where
it fails. -/
theorem Follows.fails_iff {x whole : Typing α} (follows : Follows x whole) (t : Terminal) :
    (∃ cause, (x.run.run t).1 = .error cause) ↔
      (∃ cause, (whole.run.run t).1 = .error cause) ∨ ∃ text ∈ printedBy whole t, output.takes text = false := by
  obtain ⟨texts, printed, same, stopped⟩ := follows t
  rw [printedBy, printed, List.drop_left]
  rcases taken_or_refused texts with taken | ⟨text, isText, untaken⟩
  · rw [same taken]
    exact (or_iff_left fun ⟨text, isText, untaken⟩ => nomatch (taken text isText).symm.trans untaken).symm
  · exact iff_of_true (stopped text isText untaken) (.inr ⟨text, isText, untaken⟩)

/-- Where a step gives an answer, it is that of the other, and everything was printed. What was printed is all that
had to be. -/
theorem Follows.answered {x whole : Typing α} (follows : Follows x whole) {t u : Terminal} {a : α}
    (done : x.run.run t = (.ok a, u)) :
    whole.run.run t = (.ok a, u) ∧ u.printed = t.printed ++ printedBy whole t := by
  obtain ⟨texts, printed, same, stopped⟩ := follows t
  rcases taken_or_refused texts with taken | ⟨text, isText, untaken⟩
  · have whole := (same taken).symm.trans done
    rw [printedBy, printed, List.drop_left]
    rw [whole] at printed
    exact ⟨whole, printed⟩
  · obtain ⟨cause, failed⟩ := stopped text isText untaken
    rw [done] at failed
    cases failed

/-- A step that prints nothing does the same on every output, so it follows itself. -/
theorem follows_of_silent {x : Typing α} (silent : ∀ t, (x.run.run t).2.printed = t.printed) : Follows x x :=
  fun t => ⟨[], by rw [silent, List.append_nil], fun _ => rfl, fun _ none => absurd none List.not_mem_nil⟩

/-- Giving an answer prints nothing, so it follows itself. -/
theorem follows_pure (a : α) : Follows (pure a) (pure a) :=
  follows_of_silent fun _ => rfl

/-- Looking at the terminal prints nothing, so it follows itself. -/
theorem follows_get : Follows get get :=
  follows_of_silent fun _ => rfl

/-- An operation of the engine prints nothing, whatever it does to the engine. -/
theorem follows_operate (step : Engine α) : Follows (operate step) (operate step) :=
  follows_of_silent fun _ => rfl

/-- Reading what was typed for an integer prints nothing, also where that fails. -/
theorem follows_typedInteger (raw : String) : Follows (typedInteger raw) (typedInteger raw) :=
  follows_of_silent fun _ => rfl

/-- Printing a text follows the printing of it where everything is taken. It fails exactly where the text is not
taken. -/
theorem follows_write (text : String) : Follows (write text) (@write Output.unlimited text) := by
  refine fun t => ⟨[text], rfl, fun taken => ?_, fun other isText refused => ?_⟩
  · rw [write, if_pos (taken text List.mem_cons_self)]
    rfl
  · rw [List.mem_singleton.mp isText] at refused
    rw [write, if_neg (Bool.eq_false_iff.mp refused)]
    exact ⟨_, rfl⟩

/-- Two steps, one after the other: the second prints behind what the first has printed, if the first gives an
answer. -/
theorem follows_bind {x whole : Typing α} {f g : α → Typing β} (first : Follows x whole)
    (rest : ∀ a, Follows (f a) (g a)) : Follows (x >>= f) (whole >>= g) := by
  intro t
  obtain ⟨texts, printed, same, stopped⟩ := first t
  rw [run_bind whole]
  rcases done : whole.run.run t with ⟨cause | a, u⟩
  · rw [done] at printed same
    refine ⟨texts, printed, fun taken => ?_, fun text isText refused => fails_bind f (stopped text isText refused)⟩
    rw [run_bind, same taken]
  · rw [done] at printed same
    obtain ⟨more, printedMore, sameMore, stoppedMore⟩ := rest a u
    refine ⟨texts ++ more, ?_, fun taken => ?_, fun text isText refused => ?_⟩
    · dsimp only at printed ⊢
      rw [printedMore, printed, List.append_assoc]
    · rw [List.forall_mem_append] at taken
      rw [run_bind, same taken.1]
      exact sameMore taken.2
    · rcases taken_or_refused texts with taken | ⟨other, isOther, untaken⟩
      · rw [run_bind, same taken]
        rcases List.mem_append.mp isText with before | behind
        · cases (taken text before).symm.trans refused
        · exact stoppedMore text behind refused
      · exact fails_bind f (stopped other isOther untaken)

/-- A step for each of some items follows another if it does so for each item. The induction is on the items. -/
theorem follows_forIn {σ : Type} {items : List α} {body whole : α → σ → Typing (ForInStep σ)} (start : σ)
    (each : ∀ item state, Follows (body item state) (whole item state)) :
    Follows (forIn items start body) (forIn items start whole) := by
  induction items generalizing start with
  | nil => exact follows_pure start
  | cons item items ih =>
    rw [List.forIn_cons, List.forIn_cons]
    refine follows_bind (each item start) fun turn => ?_
    cases turn with
    | done state => exact follows_pure state
    | yield state => exact ih state

/-- Printing a line follows the printing of it where everything is taken. A line is a text with an end. -/
theorem follows_writeLine (line : String) : Follows (writeLine line) (@writeLine Output.unlimited line) :=
  follows_write _

/-- Printing a line behind which a step ends follows the same where everything is taken. -/
theorem follows_answer (line : String) (a : α) :
    Follows (writeLine line >>= fun _ => pure a) (@writeLine Output.unlimited line >>= fun _ => pure a) :=
  follows_bind (follows_writeLine line) fun _ => follows_pure a

/-- Printing the open menu, with its title and its rows, follows the same where everything is taken. -/
theorem follows_displayMenu : Follows displayMenu (@displayMenu Output.unlimited) := by
  refine follows_bind follows_get fun t => ?_
  dsimp only
  cases t.engine.screen.get? (t.engine.actor player).key with
  | none => exact follows_answer _ _
  | some surface => exact follows_answer _ _

/-- Printing the open menu, and nothing more, follows the same where everything is taken. -/
theorem follows_display : Follows display (@display Output.unlimited) :=
  follows_bind follows_displayMenu fun _ => follows_pure _

/-- Printing the open menu behind which the terminal goes on follows the same where everything is taken. -/
theorem follows_shown : Follows (display >>= fun _ => pure true) (@display Output.unlimited >>= fun _ => pure true) :=
  follows_bind follows_display fun _ => follows_pure true

variable [Machine]

/-- Printing the tokens of the open menu follows the same where everything is taken. What tokens there are is asked of
the engine. -/
theorem follows_displayTokens : Follows displayTokens (@displayTokens _ Output.unlimited) := by
  refine follows_bind (follows_operate _) fun table => follows_bind (follows_forIn _ fun entry _ => ?_) fun _ => ?_
  · exact follows_answer _ _
  · exact follows_pure _

/-- Printing the open menu and its tokens follows the same where everything is taken. -/
theorem follows_displayAll : Follows displayAll (@displayAll _ Output.unlimited) := by
  refine follows_bind follows_displayMenu fun found => ?_
  cases found with
  | none => exact follows_pure _
  | some surface =>
    refine follows_bind follows_get fun t => ?_
    dsimp only
    cases t.engine.session? player with
    | none => exact follows_displayTokens
    | some session => exact follows_bind (follows_writeLine _) fun _ => follows_displayTokens

/-- Clicking on a slot follows the same where everything is taken: the engine is asked, and what came of it is
printed. -/
theorem follows_clickOn (slot type : String) :
    Follows (clickOn slot type) (@clickOn _ Output.unlimited slot type) := by
  unfold clickOn
  cases readInteger? slot.toList with
  | none => exact follows_writeLine _
  | some n =>
    refine follows_bind (follows_operate _) fun answer => ?_
    exact follows_bind (follows_writeLine _) fun _ => follows_display

/-- Putting a value into the context follows the same where everything is taken, with the drawing of the menu behind
it. -/
theorem follows_putIntoContext (key : String) (value : Value) :
    Follows (putIntoContext key value) (@putIntoContext _ Output.unlimited key value) := by
  refine follows_bind follows_get fun t => follows_bind (follows_operate _) fun _ => ?_
  exact follows_bind (follows_operate _) fun _ => follows_display

/-- Letting ticks pass follows the same where everything is taken, whatever the ticks draw. -/
theorem follows_passTicks (count : Int) :
    Follows (passTicks count) (@passTicks _ Output.unlimited count) :=
  follows_bind (follows_operate _) fun _ => follows_bind follows_get fun _ => follows_writeLine _

/-- Opening the first menu follows the same where everything is taken. -/
theorem follows_greet (menu : String) : Follows (greet menu) (@greet _ Output.unlimited menu) := by
  refine follows_bind (follows_operate _) fun found => ?_
  cases found with
  | true => exact follows_bind follows_display fun _ => follows_answer _ _
  | false => exact follows_bind follows_get fun _ => follows_answer _ _

/-- Obeying a line follows the same where everything is taken. The cases are those of the commands, each of which is
made of the steps above. -/
theorem follows_obey (listing : Option FileListing) (line : String) :
    Follows (obey listing line) (@obey _ Output.unlimited listing line) := by
  unfold obey
  dsimp only
  cases (words line.toList).map String.ofList with
  | nil => exact follows_pure true
  | cons first arguments =>
    dsimp only
    split
    · exact follows_pure false
    · exact follows_pure false
    · refine follows_bind (follows_operate _) fun opened => ?_
      cases opened with
      | true => exact follows_shown
      | false => exact follows_answer _ _
    · exact follows_bind (follows_clickOn _ _) fun _ => follows_pure _
    · refine follows_bind (follows_typedInteger _) fun page => follows_bind (follows_operate _) fun turned => ?_
      cases turned with
      | true => exact follows_shown
      | false => exact follows_bind (follows_writeLine _) fun _ => follows_shown
    · split
      · exact follows_bind (follows_putIntoContext _ _) fun _ => follows_pure _
      · exact follows_answer _ _
    · exact follows_bind (follows_passTicks 1) fun _ => follows_pure _
    · refine follows_bind (follows_typedInteger _) fun count => ?_
      exact follows_bind (follows_passTicks count) fun _ => follows_pure _
    · exact follows_bind follows_displayAll fun _ => follows_pure _
    · exact follows_bind (follows_operate _) fun _ => follows_shown
    · exact follows_bind (follows_operate _) fun _ => follows_answer _ _
    · exact follows_answer _ _

end ChestMenu.Terminal
