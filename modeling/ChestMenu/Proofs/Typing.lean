import ChestMenu.Proofs.Attending
import ChestMenu.Proofs.Printing

/-!
# Lines that are typed at a terminal

Whatever was typed before, a line ends the terminal exactly if its first word is one of the two words for that. Every
other line is answered, with few exceptions: a page or a number of ticks that is no number breaks the terminal off,
where a slot that is none is only answered; so do files that cannot be read when the menus are read again, a menu
that would have to be drawn and has too many pages for their number to be written, and a text that would have to be
printed and is not taken by the output.

The terminal was given its files when it was made, and they may have changed at every line. Every line leaves an
engine without code of a host behind, with one actor and with a context of typed values.
-/
namespace ChestMenu

open Engine Number Text

namespace Number

/-- A decimal digit is less than ten, in whichever script it is written. -/
theorem digitValue?_lt {c : Char} {d : Nat} (isDigit : digitValue? c = some d) : d < 10 := by
  unfold digitValue? at isDigit
  dsimp only at isDigit
  split at isDigit
  · rename_i plain
    cases isDigit
    simp only [Bool.and_eq_true, decide_eq_true_eq] at plain
    omega
  · split at isDigit
    · cases isDigit
    · obtain ⟨start, isStart, rfl⟩ := Option.map_eq_some_iff.mp isDigit
      have inside := List.find?_some isStart
      simp only [Bool.and_eq_true, decide_eq_true_eq] at inside
      omega

/-- The digits that a text starts with are values of digits. Underscores between them have none. -/
theorem mem_takeDigitsBy {value? : Char → Option Nat} {afterDigit : Bool} {cs : List Char} {d : Nat}
    (member : d ∈ (takeDigitsBy value? afterDigit cs).1) : ∃ c, value? c = some d := by
  induction cs generalizing afterDigit with
  | nil => cases member
  | cons c cs ih =>
    unfold takeDigitsBy at member
    split at member
    · rename_i first isFirst
      rcases List.mem_cons.mp member with rfl | later
      · exact ⟨c, isFirst⟩
      · exact ih later
    · split at member
      · exact ih member
      · cases member

/-- A number of some digits is less than the power of ten for their number. The induction is on the digits. -/
theorem ofDigits_lt {ds : List Nat} (small : ∀ d ∈ ds, d < 10) : ofDigits ds < Nat.pow 10 ds.length := by
  have continued (n : Nat) : ds.foldl (fun n d => 10 * n + d) n < (n + 1) * Nat.pow 10 ds.length := by
    induction ds generalizing n with
    | nil => exact Nat.lt_of_lt_of_eq (Nat.lt_succ_self n) (Nat.mul_one _).symm
    | cons d ds ih =>
      obtain ⟨first, others⟩ := List.forall_mem_cons.mp small
      calc ds.foldl (fun n d => 10 * n + d) (10 * n + d)
          < (10 * n + d + 1) * Nat.pow 10 ds.length := ih others _
        _ ≤ (10 * (n + 1)) * Nat.pow 10 ds.length := Nat.mul_le_mul_right _ (by omega)
        _ = (n + 1) * (Nat.pow 10 ds.length * 10) := by rw [Nat.mul_comm 10 (n + 1), Nat.mul_assoc, Nat.mul_comm 10]
  exact Nat.lt_of_lt_of_eq (continued 0) (Nat.one_mul _)

/-- A number of no more than some digits is less than the power of ten for them. -/
theorem ofDigits_lt_of_le {ds : List Nat} {most : Nat} (small : ∀ d ∈ ds, d < 10) (short : ds.length ≤ most) :
    ofDigits ds < Nat.pow 10 most :=
  Nat.lt_of_lt_of_le (ofDigits_lt small) (Nat.pow_le_pow_right (by decide) short)

/-- A number that is read without a sign is short, since it has no more digits than a numeral may have. -/
theorem lt_of_readNatural? {cs : List Char} {n : Nat} (read : readNatural? cs = some n) :
    n < Nat.pow 10 digitLimit := by
  unfold readNatural? at read
  split at read
  · cases read
  · rename_i ds notEmpty taken
    split at read
    · rename_i short
      cases read
      have small : ∀ d ∈ ds, d < 10 := by
        intro d member
        have same : ds = (takeDigits false cs).1 := by rw [taken]
        obtain ⟨c, isDigit⟩ := mem_takeDigitsBy (same ▸ member)
        exact digitValue?_lt isDigit
      exact ofDigits_lt_of_le small short
    · cases read
  · cases read

/-- An integer that is read can be written. A sign in front of it makes no difference to that. -/
theorem isShort_of_readInteger? {cs : List Char} {n : Int} (read : readInteger? cs = some n) : Value.IsShort n := by
  unfold Value.IsShort
  unfold readInteger? at read
  split at read
  · obtain ⟨m, isRead, rfl⟩ := Option.map_eq_some_iff.mp read
    obtain ⟨k, isNatural, same⟩ := Option.bind_eq_some_iff.mp isRead
    cases same
    rw [Int.natAbs_neg]
    exact lt_of_readNatural? isNatural
  · obtain ⟨m, isRead, rfl⟩ := Option.map_eq_some_iff.mp read
    exact lt_of_readNatural? isRead
  · obtain ⟨m, isRead, rfl⟩ := Option.map_eq_some_iff.mp read
    exact lt_of_readNatural? isRead

end Number

namespace Terminal

section

variable {α β : Type} {F : Prop} {Q : α → Prop} {P : EngineState → Prop} {t u : Terminal} {actor : Actor}
  {options : TerminalOptions} {config : EngineConfig} {directory : String}

/-- The value of a typed text is a typed one: an integer that can be written, a truth value, or the text itself. -/
theorem isTyped_typedValue (raw : String) : (typedValue raw).IsTyped := by
  unfold typedValue
  split
  · rename_i n read
    exact .int (isShort_of_readInteger? read)
  · split
    · exact .bool true
    · exact .bool false
    · exact .text raw

/-- A step that prints and does nothing else, and does not fail. -/
def Prints (x : Typing α) : Prop :=
  ∀ t, ∃ a printed, x.run.run t = (.ok a, { t with printed })

/-- Two steps that do nothing but print do nothing else one after the other. -/
theorem prints_bind {x : Typing α} {f : α → Typing β} (first : Prints x) (rest : ∀ a, Prints (f a)) :
    Prints (x >>= f) := by
  intro t
  obtain ⟨a, printed, done⟩ := first t
  obtain ⟨b, printed, later⟩ := rest a { t with printed }
  refine ⟨b, printed, ?_⟩
  rw [run_bind, done]
  exact later

/-- Writing a line for each of some items prints and does nothing else. The induction is on the items. -/
theorem prints_forIn {items : List α} {body : α → PUnit → Typing (ForInStep PUnit)}
    (each : ∀ item, Prints (body item ⟨⟩)) : Prints (forIn items ⟨⟩ body) := by
  induction items with
  | nil => exact fun t => ⟨_, t.printed, rfl⟩
  | cons item items ih =>
    rw [List.forIn_cons]
    refine prints_bind (each item) fun turn => ?_
    cases turn with
    | done => exact fun t => ⟨_, t.printed, rfl⟩
    | yield => exact ih

/-- Printing leaves the engine as it is, so what held of it still holds. -/
theorem Prints.ends {x : Typing α} (prints : Prints x) (holds : P t.engine) :
    Ends x t False (fun _ => True) (fun u => P u.engine) := by
  obtain ⟨a, printed, done⟩ := prints t
  exact ends_ok done trivial holds

/-- An operation of the engine gives at the terminal what it gives in the engine. What was printed stays. -/
theorem run_operate {step : Engine α} {result : Except Failure α} {s : EngineState}
    (done : step.run.run t.engine = (result, s)) : (operate step).run.run t = (result, { t with engine := s }) := by
  change ((step.run.run t.engine).1, { t with engine := (step.run.run t.engine).2 }) = _
  rw [done]

/-- An operation of the engine ends at the terminal as it does in the engine. There is nothing else that it could fail
for. -/
theorem ends_operate {step : Engine α} (ends : Ends step t.engine F Q P) :
    Ends (operate step) t F Q (fun u => P u.engine) where
  failed := ends.failed
  answered := ends.answered
  left := ends.left

/-- What is typed for an integer is one if it can be read as one. -/
theorem run_typedInteger {raw : String} {n : Int} (read : readInteger? raw.toList = some n) :
    (typedInteger raw).run.run t = (.ok n, t) := by
  change ((Value.text raw).toInteger, t) = _
  rw [Value.toInteger, read]

/-- What is typed for an integer and cannot be read as one fails, and nothing has changed. -/
theorem run_typedInteger_none {raw : String} (unread : readInteger? raw.toList = none) :
    ∃ cause, (typedInteger raw).run.run t = (.error cause, t) := by
  change ∃ cause, ((Value.text raw).toInteger, t) = _
  rw [Value.toInteger, unread]
  exact ⟨_, rfl⟩

/-- The words of a line. -/
def typedWords (line : String) : List String :=
  (words line.toList).map String.ofList

/-- Whether words ask for the end: the first is one of the two for that, in whatever case. -/
def Quits : List String → Prop
  | [] => False
  | first :: _ => lower first = "quit" ∨ lower first = "exit"

/-- Behind a step that is all there is to a line, the terminal goes on. -/
theorem ends_answer {x : Typing α} {P : Terminal → Prop} (ends : Ends x t F Q P) :
    Ends (x >>= fun _ => pure true) t F (fun goesOn => goesOn = true) P :=
  ends_bind ends fun _ _ _ left => ends_ok rfl rfl left

/-- Behind a line that only prints, the terminal goes on, with the engine that it had. -/
theorem Prints.answer {x : Typing α} (prints : Prints x) (holds : P t.engine) :
    Ends (x >>= fun _ => pure true) t False (fun goesOn => goesOn = true) (fun u => P u.engine) :=
  ends_answer (prints.ends holds)

/-- What is put into the context is there with what was put there before. Both have keys and values that can be
written. -/
theorem arePutIn_insertPair (manned : t.engine.Manned actor) (key raw : String) :
    Value.ArePutIn (Value.insertPair (.text key) (typedValue raw)
      (((t.engine.context? player (some "dict")).bind Value.pairs?).getD [])) := by
  refine Value.forall_insertPair (P := fun key => ∃ name, key = .text name) (fun pair member => ?_) ⟨key, rfl⟩
    (isTyped_typedValue raw)
  unfold EngineState.context? at member
  cases opened : t.engine.session? player with
  | none => simp [opened] at member
  | some session =>
    have put := (manned.sessions_of_some opened).2.put
    rw [opened, Option.bind_some] at member
    split at member
    · generalize session.context = context at member put
      cases put with
      | null => cases member
      | map putIn => exact putIn pair member
    · cases member

/-- A terminal that has asked for a line. -/
def prompted (t : Terminal) : Terminal :=
  { t with printed := t.printed ++ [promptText] }

/-- The actor in front of a terminal has an id and a name that are texts. -/
theorem isWorded_actor (options : TerminalOptions) : options.actor.IsWorded :=
  ⟨_, _, rfl, by simp [String.append_eq_empty_iff], rfl⟩

section

variable [Output]

/-- The output takes every text. -/
def TakesAll : Prop :=
  ∀ text, Output.takes text = true

omit [Output] in
/-- The output that takes every text does so, the one with a half in it, too. -/
theorem takesAll_unlimited : @TakesAll Output.unlimited :=
  fun _ => rfl

/-- Writing a line, where everything is taken, does nothing but print. -/
theorem prints_writeLine (takesAll : TakesAll) (line : String) : Prints (writeLine line) := by
  intro t
  rw [writeLine, write, if_pos (takesAll _)]
  exact ⟨(), _, rfl⟩

/-- Printing the open menu tells whether there is a surface. It prints a good deal, but changes nothing else. -/
theorem run_displayMenu (takesAll : TakesAll) (t : Terminal) : ∃ printed,
    displayMenu.run.run t = (.ok (t.engine.screen.get? (t.engine.actor player).key), { t with printed }) := by
  have read : (get : Typing Terminal).run.run t = (.ok t, t) := rfl
  unfold displayMenu
  rw [run_bind, read]
  dsimp only
  cases t.engine.screen.get? (t.engine.actor player).key with
  | none =>
    obtain ⟨⟨⟩, printed, done⟩ := prints_writeLine takesAll "(no menu open)" t
    rw [run_bind, done]
    exact ⟨printed, rfl⟩
  | some surface =>
    obtain ⟨⟨⟩, printed, done⟩ := prints_writeLine takesAll (surface.format Surface.usualWidth) t
    rw [run_bind, done]
    exact ⟨printed, rfl⟩

/-- Printing the open menu, and nothing more, does nothing but print. -/
theorem prints_display (takesAll : TakesAll) : Prints display :=
  prints_bind (fun t => ⟨_, run_displayMenu takesAll t⟩) fun _ t => ⟨(), t.printed, rfl⟩

end

variable [Machine]

/-- Whether a command with some arguments breaks off with a failure. A page and a number of ticks have to be integers,
the menus have to be readable to be read again, and the number of pages of a menu that is to be drawn has to be one that
can be written. -/
def FailsAt (s : EngineState) (listing : Option FileListing) (command : String) (arguments : List String) : Prop :=
  match command, arguments with
  | "open", name :: _ => ∃ menu, s.menu? name = some menu ∧ ¬menu.Countable
  | "page", raw :: _ => ∀ page, readInteger? raw.toList = some page →
      ∃ menu, s.openMenu? = some menu ∧ menu.HasPage page ∧ ¬menu.Countable
  | "set", entry :: _ =>
    (cutAt? ['='] entry.toList).isSome ∧ ∃ menu, s.openMenu? = some menu ∧ ¬menu.Countable
  | "tick", count :: _ => readInteger? count.toList = none
  | "show", _ => s.screen.has (s.actor player).key ∧ ∃ menu, s.openMenu? = some menu ∧ ¬menu.Countable
  | "reload", _ => s.Unreadable listing ∨
      ∃ menus menu, s.Rereads listing menus ∧ { s with menus }.openMenu? = some menu ∧ ¬menu.Countable
  | _, _ => False

/-- Whether a line of some words breaks off with a failure: the first word is the command, in whatever case. -/
def BreaksOff (s : EngineState) (listing : Option FileListing) : List String → Prop
  | [] => False
  | first :: arguments => FailsAt s listing (lower first) arguments

/-- Loading menus where none is open leaves the engine with its one actor, and with menus that no host has put code
into. -/
theorem manned_loadMenus {s : EngineState} (manned : s.Manned actor) (closed : s.sessions = []) (directory : String)
    (listing : Option FileListing) : (outcome (loadMenus directory listing) s).2.Manned actor := by
  unfold loadMenus
  rw [outcome_bind_ok _ (outcome_modify _ s), outcome_bind_ok _ (outcome_get _)]
  rcases read : (Menu.ofDirectory directory listing s.config.defaultSize).run.run [] with ⟨cause | loaded, notices⟩
  · rw [outcome_bind_error _ (outcome_loading read)]
    exact manned.congr rfl
  · rw [outcome_bind_ok _ (outcome_loading read)]
    have plain := Menu.loadedAs_ofDirectory read
    have registered : Keeps (fun t => t.Manned actor ∧ t.sessions = []) (do
        for pair in loaded do
          registerMenu pair.2
        return loaded) := by
      refine keeps_bind (keeps_forIn _ fun pair member _ => ?_) fun _ => keeps_pure _
      refine keeps_bind (keeps_modify fun t holds => ⟨?_, holds.2⟩) fun _ => keeps_pure _
      refine { holds.1 with plain := fun other isOther => ?_, attended := Or.inl holds.2 }
      rcases OrderedMap.mem_put isOther with before | rfl
      · exact holds.1.plain other before
      · exact (plain pair member).plain
    refine (registered _ ?_).1
    exact ⟨manned.congr rfl, closed⟩

/-- The engine of a new terminal has the one actor of its options, nothing open and no code of a host. -/
theorem manned_create {listing : Option FileListing} (created : create options config directory listing = .ok t) :
    t.engine.Manned options.actor := by
  obtain ⟨made, isMade, rest⟩ := ok_of_bind created
  have fresh : { made with actors := [options.actor] }.Manned options.actor ∧ made.sessions = [] := by
    obtain ⟨legacyScopes, -, others⟩ := ok_of_bind isMade
    obtain ⟨contextScopes, -, same⟩ := ok_of_bind others
    cases same
    refine ⟨?_, rfl⟩
    exact {
      worded := isWorded_actor options
      actors := rfl
      placeholders := rfl
      legacyHandlers := rfl
      contextHandlers := rfl
      slotHandlers := rfl
      inventoryHandlers := rfl
      plain := fun pair member => absurd member List.not_mem_nil
      attended := Or.inl rfl }
  obtain ⟨menus, -, same⟩ := ok_of_bind rest
  cases same
  exact manned_loadMenus fresh.1 fresh.2 directory listing

variable [Output]

/-- Opening a menu fails exactly if there is one of the name that cannot be drawn for the number of its pages. -/
theorem ends_open (takesAll : TakesAll) (manned : t.engine.Manned actor) (name : String) :
    Ends (do
      if ← operate (openMenu player name .null true) then
        display
        return true
      else
        writeLine ("Unknown menu '" ++ name ++ "'")
        return true) t (∃ menu, t.engine.menu? name = some menu ∧ ¬menu.Countable) (fun goesOn => goesOn = true)
      (fun u => u.engine.Manned actor) := by
  refine ends_bind (ends_operate (manned.ends_openMenu name true)) fun opened u _ left => ?_
  split
  · exact (prints_display takesAll).answer left
  · exact (prints_writeLine takesAll _).answer left

/-- A click never fails, on whatever slot. What is typed for the slot is read where a failure is caught. -/
theorem ends_clickOn (takesAll : TakesAll) (manned : t.engine.Manned actor) (slot type : String) :
    Ends (clickOn slot type) t False (fun _ => True) (fun u => u.engine.Manned actor) := by
  unfold clickOn
  split
  · exact (prints_writeLine takesAll _).ends manned
  · refine ends_bind (ends_operate (manned.ends_click _ _)) fun outcome u _ left => ?_
    exact Prints.ends (prints_bind (prints_writeLine takesAll _) fun _ => prints_display takesAll) left

/-- Going to a page fails exactly if what was typed is no integer, or if it is a page of the open menu and that cannot
be drawn. -/
theorem ends_page (takesAll : TakesAll) (manned : t.engine.Manned actor) (raw : String) :
    Ends (do
      let page ← typedInteger raw
      let turned ← operate (setPage player page)
      if (!turned) = true then
        writeLine "No such page."
        display
        return true
      else
        display
        return true) t
      (∀ page, readInteger? raw.toList = some page →
        ∃ menu, t.engine.openMenu? = some menu ∧ menu.HasPage page ∧ ¬menu.Countable)
      (fun goesOn => goesOn = true) (fun u => u.engine.Manned actor) := by
  cases read : readInteger? raw.toList with
  | none =>
    obtain ⟨cause, failed⟩ := run_typedInteger_none (t := t) read
    exact (ends_stopped failed manned).congr (by simp)
  | some page =>
    have condition := show (∀ other, some page = some other →
        ∃ menu, t.engine.openMenu? = some menu ∧ menu.HasPage other ∧ ¬menu.Countable) ↔
      ∃ menu, t.engine.openMenu? = some menu ∧ menu.HasPage page ∧ ¬menu.Countable by simp
    refine Ends.congr (ends_after (run_typedInteger read) ?_) condition.symm
    refine ends_bind (ends_operate (manned.ends_setPage page)) fun turned u _ left => ?_
    split
    · exact ends_bind ((prints_writeLine takesAll _).ends left) fun _ _ _ left => (prints_display takesAll).answer left
    · exact (prints_display takesAll).answer left

/-- Putting a value into the context fails exactly if a menu is open that cannot be drawn for the number of its
pages. -/
theorem ends_putIntoContext (takesAll : TakesAll) (manned : t.engine.Manned actor) (key raw : String) :
    Ends (putIntoContext key (typedValue raw)) t (∃ menu, t.engine.openMenu? = some menu ∧ ¬menu.Countable)
      (fun _ => True) (fun u => u.engine.Manned actor) := by
  obtain ⟨answer, s, done, left, shown⟩ := manned.updateContext_answers (.map (arePutIn_insertPair manned key raw))
  refine ends_after (a := t) rfl (ends_after (run_operate done) ?_)
  rw [← shown]
  exact ends_bind (ends_operate (left.ends_redraw none)) fun _ _ _ left => (prints_display takesAll).ends left

/-- Letting ticks pass never fails, as drawings that fail on the way are caught there. -/
theorem ends_passTicks (takesAll : TakesAll) (manned : t.engine.Manned actor) (count : Int) :
    Ends (passTicks count) t False (fun _ => True) (fun u => u.engine.Manned actor) :=
  ends_bind (ends_operate (manned.ends_tickTimes count.toNat)) fun _ u _ left =>
    ends_after (a := u) rfl ((prints_writeLine takesAll _).ends left)

/-- Letting a typed number of ticks pass fails exactly if what was typed is no integer. -/
theorem ends_ticks (takesAll : TakesAll) (manned : t.engine.Manned actor) (raw : String) :
    Ends (do
      let count ← typedInteger raw
      passTicks count
      return true) t (readInteger? raw.toList = none) (fun goesOn => goesOn = true)
      (fun u => u.engine.Manned actor) := by
  cases read : readInteger? raw.toList with
  | none =>
    obtain ⟨cause, failed⟩ := run_typedInteger_none (t := t) read
    exact (ends_stopped failed manned).congr (by simp)
  | some count =>
    exact (ends_after (run_typedInteger read) (ends_answer (ends_passTicks takesAll manned count))).congr (by simp)

/-- Printing the tokens of the open menu fails exactly if a menu is open of which the number of pages cannot be
written. -/
theorem ends_displayTokens (takesAll : TakesAll) (manned : t.engine.Manned actor) :
    Ends displayTokens t
      (∃ menu, t.engine.openMenu? = some menu ∧ ¬menu.Countable) (fun _ => True) (fun u => u.engine.Manned actor) := by
  refine ends_bind (ends_operate manned.ends_placeholderTable) fun table u _ left => ?_
  refine ends_bind (Prints.ends (prints_forIn fun entry => ?_) left) fun _ _ _ left => ends_ok rfl trivial left
  exact prints_bind (prints_writeLine takesAll _) fun _ t => ⟨_, t.printed, rfl⟩

/-- Printing the open menu and its tokens fails exactly if there is a surface, and a menu is open of which the number
of pages cannot be written. -/
theorem ends_displayAll (takesAll : TakesAll) (manned : t.engine.Manned actor) :
    Ends displayAll t (t.engine.screen.has (t.engine.actor player).key ∧
      ∃ menu, t.engine.openMenu? = some menu ∧ ¬menu.Countable) (fun _ => True) (fun u => u.engine.Manned actor) := by
  unfold displayAll
  obtain ⟨printed, done⟩ := run_displayMenu takesAll t
  refine ends_after done ?_
  unfold OrderedMap.has
  cases t.engine.screen.get? (t.engine.actor player).key with
  | none => exact Ends.congr (F := False) (ends_ok rfl trivial manned) (by simp)
  | some surface =>
    refine Ends.congr (F := ∃ menu, t.engine.openMenu? = some menu ∧ ¬menu.Countable) ?_ (by simp)
    dsimp only
    refine ends_after (a := { t with printed }) rfl ?_
    split
    · exact ends_displayTokens takesAll manned
    · obtain ⟨⟨⟩, printed, done⟩ := prints_writeLine takesAll _ { t with printed }
      exact ends_after done (ends_displayTokens takesAll manned)

/-- A line that asks for the end is the end, and nothing else comes of it. The terminal is left as it was. -/
theorem run_obey_of_quits {line : String} (quits : Quits (typedWords line)) (listing : Option FileListing) :
    (obey listing line).run.run t = (.ok false, t) := by
  unfold obey
  dsimp only
  rw [← typedWords]
  generalize typedWords line = typed at quits ⊢
  cases typed with
  | nil => exact quits.elim
  | cons first arguments =>
    dsimp only
    rcases quits with isWord | isWord
    · rw [isWord]
      rfl
    · rw [isWord]
      rfl

/-- Every other line breaks off or is answered. Each command has its case, and the conditions of all of them together
are those for breaking off. -/
theorem ends_obey (takesAll : TakesAll) (manned : t.engine.Manned actor) {line : String}
    (goesOn : ¬Quits (typedWords line))
    (listing : Option FileListing) :
    Ends (obey listing line) t (BreaksOff t.engine listing (typedWords line)) (fun goesOn => goesOn = true)
      (fun u => u.engine.Manned actor) := by
  unfold obey
  dsimp only
  rw [← typedWords]
  generalize typedWords line = typed at goesOn ⊢
  cases typed with
  | nil => exact ends_ok rfl rfl manned
  | cons first arguments =>
    dsimp only
    split <;> rename_i isWord
    · exact absurd (Or.inl isWord) goesOn
    · exact absurd (Or.inr isWord) goesOn
    · simp only [BreaksOff, isWord, FailsAt]
      exact ends_open takesAll manned _
    · simp only [BreaksOff, isWord, FailsAt]
      exact ends_answer (ends_clickOn takesAll manned _ _)
    · simp only [BreaksOff, isWord, FailsAt]
      exact ends_page takesAll manned _
    · simp only [BreaksOff, isWord, FailsAt]
      split <;> rename_i isCut
      · exact (ends_answer (ends_putIntoContext takesAll manned _ _)).congr (by simp [isCut])
      · exact ((prints_writeLine takesAll _).answer manned).congr (by simp [isCut])
    · simp only [BreaksOff, isWord, FailsAt]
      exact ends_answer (ends_passTicks takesAll manned _)
    · simp only [BreaksOff, isWord, FailsAt]
      exact ends_ticks takesAll manned _
    · simp only [BreaksOff, isWord, FailsAt]
      exact ends_answer (ends_displayAll takesAll manned)
    · simp only [BreaksOff, isWord, FailsAt]
      refine ends_bind (ends_operate (manned.ends_reloadMenus listing)) fun _ _ _ left => ?_
      exact (prints_display takesAll).answer left
    · simp only [BreaksOff, isWord, FailsAt]
      exact ends_bind (ends_operate manned.ends_close) fun _ _ _ left => (prints_writeLine takesAll _).answer left
    · refine ((prints_writeLine takesAll _).answer manned).congr ?_
      unfold BreaksOff FailsAt
      split <;> simp_all

/-- The terminals that ask for a line: a new one behind its first menu, and one that has obeyed a line and goes on. The
files may be others on every line. -/
inductive Reached (options : TerminalOptions) (config : EngineConfig) (directory : String) : Terminal → Prop
  | greeted {listing : Option FileListing} {t u : Terminal} (created : create options config directory listing = .ok t)
    (opened : (greet options.menu).run.run t = (.ok true, u)) : Reached options config directory u.prompted
  | obeyed {t u : Terminal} (before : Reached options config directory t) (listing : Option FileListing) (line : String)
    (goesOn : (obey listing line).run.run t = (.ok true, u)) : Reached options config directory u.prompted

/-- Opening the first menu leaves the engine with its one actor and without code of a host, on whatever output. -/
theorem manned_greet (manned : t.engine.Manned actor) {name : String} {answer : Bool}
    (opened : (greet name).run.run t = (.ok answer, u)) : u.engine.Manned actor := by
  have done := ((follows_greet name).answered opened).1
  let whole : Output := .unlimited
  have takesAll : TakesAll := takesAll_unlimited
  have ends : Ends (greet name) t (∃ menu, t.engine.menu? name = some menu ∧ ¬menu.Countable) (fun _ => True)
      (fun u => u.engine.Manned actor) := by
    refine ends_bind (ends_operate (manned.ends_openMenu name false)) fun found u _ left => ?_
    cases found with
    | true =>
      refine ends_bind ((prints_display takesAll).ends left) fun _ _ _ left => ?_
      exact ends_bind ((prints_writeLine takesAll _).ends left) fun _ _ _ left => ends_ok rfl trivial left
    | false =>
      refine ends_after (a := u) rfl ?_
      exact ends_bind ((prints_writeLine takesAll _).ends left) fun _ _ _ left => ends_ok rfl trivial left
  have left := ends.left
  rwa [done] at left

/-- What a line leaves behind that is answered is an engine with its one actor and without code of a host. -/
theorem manned_obey (manned : t.engine.Manned actor) {listing : Option FileListing} {line : String}
    (goesOn : (obey listing line).run.run t = (.ok true, u)) : u.engine.Manned actor := by
  by_cases quits : Quits (typedWords line)
  · rw [run_obey_of_quits quits] at goesOn
    cases goesOn
  · have left := (@ends_obey _ _ _ Output.unlimited takesAll_unlimited manned line quits listing).left
    rwa [((follows_obey listing line).answered goesOn).1] at left

/-- Whatever was typed before, the engine of a terminal has one actor and no code of a host. The induction is on the
lines. -/
theorem Reached.manned (reached : Reached options config directory t) : t.engine.Manned options.actor := by
  induction reached with
  | @greeted _ t u created opened =>
    have left : u.engine.Manned options.actor := manned_greet (manned_create created) opened
    exact left
  | @obeyed t u before listing line goesOn manned =>
    have left : u.engine.Manned options.actor := manned_obey manned goesOn
    exact left

/-- What a line prints on an output that takes everything, one text after another. -/
def said (t : Terminal) (listing : Option FileListing) (line : String) : List String :=
  printedBy (@obey _ Output.unlimited listing line) t

omit [Output] in
/-- On an output that takes everything, a line fails exactly if it breaks off. There is no other reason for it there. -/
theorem said_fails_iff (manned : t.engine.Manned actor) (listing : Option FileListing) (line : String) :
    (∃ cause, ((@obey _ Output.unlimited listing line).run.run t).1 = .error cause) ↔
      BreaksOff t.engine listing (typedWords line) := by
  let whole : Output := .unlimited
  by_cases quits : Quits (typedWords line)
  · refine iff_of_false (fun ⟨cause, failed⟩ => ?_) fun breaks => ?_
    · rw [run_obey_of_quits quits] at failed
      cases failed
    · generalize typedWords line = typed at quits breaks
      cases typed with
      | nil => exact quits
      | cons first arguments => rcases quits with isWord | isWord <;> simp [BreaksOff, isWord, FailsAt] at breaks
  · exact (ends_obey takesAll_unlimited manned quits listing).failed

/-- A line fails exactly if it breaks off or has to print a text that the output does not take. What it has to print
is what it prints where everything is taken. -/
theorem obey_fails_iff (manned : t.engine.Manned actor) (listing : Option FileListing) (line : String) :
    (∃ cause, ((obey listing line).run.run t).1 = .error cause) ↔
      BreaksOff t.engine listing (typedWords line) ∨ ∃ text ∈ t.said listing line, Output.takes text = false := by
  rw [(follows_obey listing line).fails_iff, said_fails_iff manned]
  rfl

/-- A line is the end exactly if it asks for the end. No other command gives that answer. -/
theorem obey_quits_iff (manned : t.engine.Manned actor) (listing : Option FileListing) (line : String) :
    ((obey listing line).run.run t).1 = .ok false ↔ Quits (typedWords line) := by
  refine ⟨fun isEnd => Classical.byContradiction fun goesOn => ?_, fun quits => by rw [run_obey_of_quits quits]⟩
  rcases done : (obey listing line).run.run t with ⟨result, u⟩
  rw [done] at isEnd
  cases isEnd
  have whole := ((follows_obey listing line).answered done).1
  have ends := @ends_obey _ _ _ Output.unlimited takesAll_unlimited manned line goesOn listing
  cases ends.answered false (congrArg Prod.fst whole)

/-- Whatever was typed before, a line is the end exactly if it asks for the end. It breaks off exactly if something
in it is no number that has to be one, if menus cannot be read again, if a menu cannot be drawn for the number of its
pages, or if it has to print a text that the output does not take. A line that is answered prints all that it has to.

Proof: the line is followed on an output that takes everything, where `ends_obey` tells command by command how the
operations of the engine end. On the output that there is, the same is done up to the first text that it does not
take (`follows_obey`). -/
theorem obey_ends_exactly (reached : Reached options config directory t) (listing : Option FileListing)
    (line : String) :
    (((obey listing line).run.run t).1 = .ok false ↔ Quits (typedWords line)) ∧
      ((∃ cause, ((obey listing line).run.run t).1 = .error cause) ↔
        BreaksOff t.engine listing (typedWords line) ∨ ∃ text ∈ t.said listing line, Output.takes text = false) ∧
      ∀ goesOn u, (obey listing line).run.run t = (.ok goesOn, u) → u.printed = t.printed ++ t.said listing line :=
  ⟨obey_quits_iff reached.manned listing line, obey_fails_iff reached.manned listing line,
    fun _ _ done => ((follows_obey listing line).answered done).2⟩

end

/-- A directory with one menu, of one row and without items. -/
def plainListing : Option FileListing :=
  some [("main.json", .text "\x7b\"size\": 9\x7d".toList)]

/-- There is a terminal with the menu of one row in its directory, which has just been opened. -/
theorem exists_reached : ∃ t, Reached {} {} "menus" t := by
  have opens : ((create {} {} "menus" plainListing).toOption.bind fun t =>
      ((greet "main").run.run t).1.toOption) = some true := by decide +kernel
  obtain ⟨t, created, isGreeted⟩ := Option.bind_eq_some_iff.mp opens
  rcases greeted : (greet "main").run.run t with ⟨result, u⟩
  rw [greeted] at isGreeted
  exact ⟨_, .greeted (ok_of_toOption created) (greeted.trans (congrArg (·, u) (ok_of_toOption isGreeted)))⟩

/-- What is typed for a page breaks a terminal off if it is no number. -/
theorem obey_ends_exactly_page : ∃ t, Reached {} {} "menus" t ∧
    (((obey plainListing "page x").run.run t).1 = .ok false ↔ Quits (typedWords "page x")) ∧
      ((∃ cause, ((obey plainListing "page x").run.run t).1 = .error cause) ↔
        BreaksOff t.engine plainListing (typedWords "page x") ∨
          ∃ text ∈ t.said plainListing "page x", Output.takes text = false) ∧
      ∀ goesOn u, (obey plainListing "page x").run.run t = (.ok goesOn, u) →
        u.printed = t.printed ++ t.said plainListing "page x" := by
  obtain ⟨t, reached⟩ := exists_reached
  exact ⟨t, reached, obey_ends_exactly reached plainListing "page x"⟩

/-- A terminal can break off: neither a page nor a number of ticks that is no number is answered. -/
theorem obey_can_break_off : ∃ t, Reached {} {} "menus" t ∧ ∀ line ∈ ["page x", "page 1.5", "tick x"],
    ¬∃ goesOn, ((obey plainListing line).run.run t).1 = .ok goesOn := by
  obtain ⟨t, reached⟩ := exists_reached
  have breaks (line word raw : String) (areWords : typedWords line = [word, raw])
      (isWord : lower word = "page" ∨ lower word = "tick") (unread : readInteger? raw.toList = none) :
      ¬∃ goesOn, ((obey plainListing line).run.run t).1 = .ok goesOn := by
    have breaks : BreaksOff t.engine plainListing (typedWords line) := by
      rw [areWords]
      rcases isWord with isWord | isWord <;> simp [BreaksOff, isWord, FailsAt, unread]
    obtain ⟨cause, failed⟩ := (obey_fails_iff reached.manned plainListing line).mpr (.inl breaks)
    rintro ⟨goesOn, done⟩
    cases failed.symm.trans done
  refine ⟨t, reached, ?_⟩
  simp only [List.forall_mem_cons, List.not_mem_nil, false_implies, implies_true, and_true]
  refine ⟨breaks _ "page" "x" ?_ ?_ ?_, breaks _ "page" "1.5" ?_ ?_ ?_, breaks _ "tick" "x" ?_ ?_ ?_⟩
  all_goals decide +kernel

end Terminal

end ChestMenu
