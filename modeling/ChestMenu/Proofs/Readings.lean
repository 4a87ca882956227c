import ChestMenu.Failure

/-!
# What a reading gives

A reading of a document gives something or fails, and nothing else becomes of it. `Gives` says that what
it gives has a property, if it gives anything, and `Succeeds` that it gives something. A reading that is
put together from others gives what they do, and succeeds if they do.
-/
namespace ChestMenu

/-- An answer of two steps is one of the second, after an answer of the first. Readers of documents are taken apart
with it, one member after another. -/
theorem ok_of_bind {ε α β : Type} {x : Except ε α} {f : α → Except ε β} {b : β}
    (found : x >>= f = .ok b) : ∃ a, x = .ok a ∧ f a = .ok b := by
  cases x with
  | error cause => cases found
  | ok a => exact ⟨a, rfl, found⟩

/-- What the answer of a step is said to be is its answer. -/
theorem ok_of_toOption {ε α : Type} {x : Except ε α} {a : α} (answers : x.toOption = some a) : x = .ok a := by
  cases x with
  | error cause => cases answers
  | ok b => exact congrArg _ (Option.some.inj answers)

/-- Each member that is kept of a list was given for one of the list. The member was read by itself, so what the
reader gives in general holds of it. -/
theorem mem_of_filterMapM {α β : Type} {f : α → Except Failure (Option β)} {xs : List α} {ys : List β}
    (given : xs.filterMapM f = .ok ys) {y : β} (member : y ∈ ys) : ∃ x ∈ xs, f x = .ok (some y) := by
  induction xs generalizing ys with
  | nil =>
    cases given
    simp at member
  | cons x xs ih =>
    rw [List.filterMapM_cons] at given
    obtain ⟨kept, isKept, later⟩ := ok_of_bind given
    cases kept with
    | none =>
      obtain ⟨x', isMember, found⟩ := ih later member
      exact ⟨x', List.mem_cons_of_mem _ isMember, found⟩
    | some first =>
      obtain ⟨others, areOthers, same⟩ := ok_of_bind later
      cases same
      rcases List.mem_cons.mp member with rfl | isOther
      · exact ⟨x, List.mem_cons_self, isKept⟩
      · obtain ⟨x', isMember, found⟩ := ih areOthers isOther
        exact ⟨x', List.mem_cons_of_mem _ isMember, found⟩

/-- What is kept of a list is what its members give, in order. This is the list as a function of its members alone,
once it is known that none of them failed. -/
theorem eq_of_filterMapM {α β : Type} {f : α → Except Failure (Option β)} {xs : List α} {ys : List β}
    (given : xs.filterMapM f = .ok ys) : ys = xs.filterMap fun x => (f x).toOption.join := by
  induction xs generalizing ys with
  | nil =>
    cases given
    rfl
  | cons x xs ih =>
    rw [List.filterMapM_cons] at given
    obtain ⟨kept, isKept, later⟩ := ok_of_bind given
    rw [List.filterMap_cons, isKept]
    cases kept with
    | none => exact ih later
    | some first =>
      obtain ⟨others, areOthers, same⟩ := ok_of_bind later
      cases same
      exact congrArg (first :: ·) (ih areOthers)

/-- Each member of what is given for a list was given for one of the list. So a property that each reading has is one
of all members. -/
theorem mem_of_mapM {α β : Type} {f : α → Except Failure β} {xs : List α} {ys : List β} (given : xs.mapM f = .ok ys)
    {y : β} (member : y ∈ ys) : ∃ x ∈ xs, f x = .ok y := by
  induction xs generalizing ys with
  | nil =>
    cases given
    simp at member
  | cons x xs ih =>
    rw [List.mapM_cons] at given
    obtain ⟨first, isFirst, later⟩ := ok_of_bind given
    obtain ⟨others, areOthers, same⟩ := ok_of_bind later
    cases same
    rcases List.mem_cons.mp member with rfl | isOther
    · exact ⟨x, List.mem_cons_self, isFirst⟩
    · obtain ⟨x', isMember, found⟩ := ih areOthers isOther
      exact ⟨x', List.mem_cons_of_mem _ isMember, found⟩

/-- What a result is, if it is no failure, has a property. -/
def Gives {ε α : Type} (P : α → Prop) (result : Except ε α) : Prop :=
  ∀ a, result = .ok a → P a

section

variable {ε α β : Type} {P : β → Prop}

theorem gives_pure {b : β} (holds : P b) : Gives P (pure b : Except ε β) := by
  rintro _ ⟨⟩
  exact holds

/-- Whatever was read first, what is read next has the property. For the second reading it may be used what the first
gave. -/
theorem gives_bind {x : Except ε α} {f : α → Except ε β} (rest : ∀ a, x = .ok a → Gives P (f a)) :
    Gives P (x >>= f) := by
  intro b given
  obtain ⟨a, first, second⟩ := ok_of_bind given
  exact rest a first b second

end

/-- A reading of two parts gives something if the first does and the second gives it then. -/
theorem bind_eq_ok_iff {α β : Type} {x : Except Failure α} {f : α → Except Failure β} {b : β} :
    (x >>= f) = .ok b ↔ ∃ a, x = .ok a ∧ f a = .ok b :=
  ⟨ok_of_bind, fun ⟨_, first, second⟩ => by rw [first]; exact second⟩

theorem pure_eq_ok_iff {α : Type} {a b : α} : (pure a : Except Failure α) = .ok b ↔ b = a :=
  ⟨fun same => (Except.ok.inj same).symm, fun same => by rw [same]; rfl⟩

/-- A result that is no failure. -/
def Succeeds {α : Type} (result : Except Failure α) : Prop :=
  ∃ a, result = .ok a

section

variable {α β : Type}

@[simp] theorem succeeds_ok (a : α) : Succeeds (.ok a) :=
  ⟨a, rfl⟩

@[simp] theorem succeeds_pure (a : α) : Succeeds (pure a) :=
  ⟨a, rfl⟩

@[simp] theorem not_succeeds_error (cause : Failure) : ¬Succeeds (.error cause : Except Failure α) := by
  rintro ⟨_, ⟨⟩⟩

/-- Two readings succeed if the first does and the second then does with what it gives. The second may fail on some
answers of the first and not on others, so the answer is named. -/
theorem succeeds_bind {x : Except Failure α} {f : α → Except Failure β} :
    Succeeds (x >>= f) ↔ ∃ a, x = .ok a ∧ Succeeds (f a) := by
  cases x with
  | error cause => exact ⟨fun ⟨_, given⟩ => (nomatch given), fun ⟨_, given, _⟩ => (nomatch given)⟩
  | ok a => exact ⟨fun given => ⟨a, rfl, given⟩, fun ⟨_, same, given⟩ => Except.ok.inj same ▸ given⟩

/-- If it does not matter for the second reading what the first gives, both have to succeed. Then the condition of the
whole is that of the one and that of the other, in the order in which they are read. -/
theorem succeeds_bind_and {x : Except Failure α} {f : α → Except Failure β} {P Q : Prop} (first : Succeeds x ↔ P)
    (second : ∀ a, x = .ok a → (Succeeds (f a) ↔ Q)) : Succeeds (x >>= f) ↔ P ∧ Q := by
  rw [succeeds_bind, ← first]
  exact ⟨fun ⟨a, given, later⟩ => ⟨⟨a, given⟩, (second a given).mp later⟩,
    fun ⟨⟨a, given⟩, holds⟩ => ⟨a, given, (second a given).mpr holds⟩⟩

/-- What is made of what was read does not matter. So the constructor at the end of a reader can be left out of
account. -/
theorem succeeds_bind_pure {x : Except Failure α} {f : α → β} : Succeeds (x >>= fun a => pure (f a)) ↔ Succeeds x := by
  rw [succeeds_bind]
  exact ⟨fun ⟨a, given, _⟩ => ⟨a, given⟩, fun ⟨a, given⟩ => ⟨a, given, succeeds_pure _⟩⟩

/-- A list is read exactly if each of its members is. The induction is on the list; the first member that fails ends
the reading. -/
theorem succeeds_mapM {f : α → Except Failure β} {xs : List α} :
    Succeeds (xs.mapM f) ↔ ∀ x ∈ xs, Succeeds (f x) := by
  induction xs with
  | nil => simp
  | cons x xs ih =>
    rw [List.mapM_cons, List.forall_mem_cons]
    refine succeeds_bind_and .rfl fun _ _ => ?_
    rw [succeeds_bind_pure, ih]

/-- A list is read exactly if each of its members is, whether it is kept or not. So a member that would be left out
can still stop the reading. -/
theorem succeeds_filterMapM {f : α → Except Failure (Option β)} {xs : List α} :
    Succeeds (xs.filterMapM f) ↔ ∀ x ∈ xs, Succeeds (f x) := by
  induction xs with
  | nil => simp
  | cons x xs ih =>
    rw [List.filterMapM_cons, List.forall_mem_cons]
    refine succeeds_bind_and .rfl fun kept _ => ?_
    cases kept with
    | none => exact ih
    | some b => rw [succeeds_bind_pure, ih]

end

end ChestMenu
