import ChestMenu.Failure

/-!
# How a step ends that can fail and has a state

A step that is put together from others ends as its parts do. `Leads` says of a step what it leads to from every state
with a property: what its answers are like, and what the state is that an answer or a failure leaves behind. There is
one law of it for each way to put steps together, and an invariant of an engine, of a ledger or of a reader is an
instance of it.

`Ends` says more of a step in one state: it names the condition on which the step fails.
-/
namespace ChestMenu

variable {ε σ α β : Type}

/-- The second of two steps is taken in the state that the first leaves behind, if the first gives an answer; otherwise
the failure of the first is that of both. -/
theorem run_bind (x : ExceptT ε (StateM σ) α) (f : α → ExceptT ε (StateM σ) β) (s : σ) :
    (x >>= f).run.run s =
      match x.run.run s with
      | (.ok a, t) => (f a).run.run t
      | (.error cause, t) => (.error cause, t) := by
  change (ExceptT.bind x f).run.run s = _
  simp only [ExceptT.run, StateT.run, ExceptT.bind, ExceptT.mk, bind, StateT.bind]
  rcases x s with ⟨result, t⟩
  cases result <;> rfl

/-- Two steps give an answer if the first does and the second goes on from there. This takes a step that has answered
apart, one part after another, without opening what the parts are. -/
theorem run_bind_eq_ok_iff {x : ExceptT ε (StateM σ) α} {f : α → ExceptT ε (StateM σ) β} {s u : σ} {b : β} :
    (x >>= f).run.run s = (.ok b, u) ↔ ∃ a t, x.run.run s = (.ok a, t) ∧ (f a).run.run t = (.ok b, u) := by
  rw [run_bind]
  rcases x.run.run s with ⟨cause | a, t⟩
  · constructor
    · rintro ⟨⟩
    · rintro ⟨_, _, ⟨⟩, _⟩
  · constructor
    · exact fun given => ⟨a, t, rfl, given⟩
    · rintro ⟨_, _, ⟨⟩, given⟩
      exact given

/-- A failure that is caught is dealt with in the state that it leaves behind. Nothing that was done before the
failure is taken back. -/
theorem run_tryCatch (x : ExceptT ε (StateM σ) α) (rescue : ε → ExceptT ε (StateM σ) α) (s : σ) :
    (tryCatch x rescue).run.run s =
      match x.run.run s with
      | (.ok a, t) => (.ok a, t)
      | (.error cause, t) => (rescue cause).run.run t := by
  change ExceptT.tryCatch x rescue s = _
  simp only [ExceptT.run, StateT.run, ExceptT.tryCatch, ExceptT.mk, bind, StateT.bind]
  rcases x s with ⟨result, t⟩
  cases result <;> rfl

/-- If something is found in the answer of a step, the step has answered. Runs on fixed inputs are shown by what is
found so. -/
theorem answered_of_map {ending : Except ε α × σ} {f : α → β} {b : β}
    (found : ending.1.toOption.map f = some b) : ∃ a t, ending = (.ok a, t) ∧ f a = b := by
  obtain ⟨cause | a, t⟩ := ending
  · cases found
  · exact ⟨a, t, rfl, Option.some.inj found⟩

/-- From every state with one property a step leads on: an answer has a property and keeps that of the state, and a
failure leaves a state with another one behind. -/
structure Leads (I F : σ → Prop) (P : α → Prop) (x : ExceptT ε (StateM σ) α) : Prop where
  answered : ∀ s, I s → ∀ a t, x.run.run s = (.ok a, t) → P a ∧ I t
  failed : ∀ s, I s → ∀ cause t, x.run.run s = (.error cause, t) → F t

section

variable {I F : σ → Prop} {P : α → Prop} {Q : β → Prop}

/-- An answer that holds leads where the invariant leads, as nothing is changed. -/
theorem leads_pure {a : α} (holds : P a) : Leads I F P (pure a : ExceptT ε (StateM σ) α) where
  answered s kept b t done := by
    cases done
    exact ⟨holds, kept⟩
  failed s kept cause t done := by cases done

/-- A failure leads to its end if that may be left wherever the invariant holds. -/
theorem leads_throw {cause : ε} (left : ∀ s, I s → F s) : Leads I F P (throw cause : ExceptT ε (StateM σ) α) where
  answered s kept b t done := by cases done
  failed s kept _ t done := by
    cases done
    exact left s kept

/-- Looking at the state gives one of which the invariant holds, and leaves it. -/
theorem leads_get : Leads I F I (get : ExceptT ε (StateM σ) σ) where
  answered s kept a t done := by
    cases done
    exact ⟨kept, kept⟩
  failed s kept cause t done := by cases done

/-- A change that keeps the invariant leads from it to itself. -/
theorem leads_modify {change : σ → σ} (keeps : ∀ s, I s → I (change s)) :
    Leads I F (fun _ => True) (modify change : ExceptT ε (StateM σ) PUnit) where
  answered s kept a t done := by
    cases done
    exact ⟨trivial, keeps s kept⟩
  failed s kept cause t done := by cases done

/-- A result that is there already leaves the state alone. It need only be said what the state is like if the result
is a failure. -/
theorem leads_result {result : Except ε α} (holds : ∀ a, result = .ok a → P a)
    (left : ∀ cause, result = .error cause → ∀ s, I s → F s) :
    Leads I F P (ExceptT.mk (pure result) : ExceptT ε (StateM σ) α) where
  answered s kept a t done := by
    cases done
    exact ⟨holds a rfl, kept⟩
  failed s kept cause t done := by
    cases done
    exact left cause rfl s kept

/-- A step that cannot fail has to keep the property of the state and give an answer with the other one. Nothing has
to be shown of failures. -/
theorem leads_lift {step : StateM σ α} (holds : ∀ s, I s → P (step.run s).1 ∧ I (step.run s).2) :
    Leads I F P (liftM step : ExceptT ε (StateM σ) α) where
  answered s kept a t done := by
    cases done
    exact holds s kept
  failed s kept cause t done := by cases done

/-- A step whose failure is looked at goes on with what came of it. So it is enough that a failure keeps the property
of the state, for the step behind it may not fail at all. -/
theorem leads_looked {x : ExceptT ε (StateM σ) α} (first : Leads I I P x) :
    Leads I F (fun result => ∀ a, result = .ok a → P a) (ExceptT.lift x.run : ExceptT ε (StateM σ) (Except ε α)) where
  answered s kept result t done := by
    change (Except.ok (x.run.run s).1, (x.run.run s).2) = _ at done
    rcases step : x.run.run s with ⟨result, t⟩
    rw [step] at done
    cases done
    cases result with
    | error cause => exact ⟨fun _ same => (nomatch same), first.failed s kept cause t step⟩
    | ok a =>
      obtain ⟨holds, keeps⟩ := first.answered s kept a t step
      exact ⟨fun b same => Except.ok.inj same ▸ holds, keeps⟩
  failed s kept cause t done := by cases done

/-- What is known of the answers can be weakened. Of the states nothing is given up, as they are what the next step
starts from. -/
theorem Leads.mono {P' : α → Prop} {x : ExceptT ε (StateM σ) α} (first : Leads I F P x) (weaker : ∀ a, P a → P' a) :
    Leads I F P' x where
  answered s kept a t done := (first.answered s kept a t done).imp_left (weaker a)
  failed := first.failed

/-- Whatever a step keeps, it keeps by answers and by failures. This brings in steps that are no bind of others, such
as one that reads and writes a part of the state. -/
theorem leads_of_keeps {x : ExceptT ε (StateM σ) α} (keeps : ∀ s, I s → I (x.run.run s).2) :
    Leads I I (fun _ => True) x where
  answered s kept a t done := ⟨trivial, by simpa only [done] using keeps s kept⟩
  failed s kept cause t done := by simpa only [done] using keeps s kept

/-- A step keeps what its answers and its failures keep. So the state behind it has the property in any case, and it
need not be asked which of the two has come about. -/
theorem Leads.left {x : ExceptT ε (StateM σ) α} (first : Leads I I P x) (s : σ) (kept : I s) : I (x.run.run s).2 := by
  rcases step : x.run.run s with ⟨cause | a, t⟩
  · exact first.failed s kept cause t step
  · exact (first.answered s kept a t step).2

/-- A step that never fails has an answer, since failing would lead to a state that there is none of. -/
theorem Leads.answers {x : ExceptT ε (StateM σ) α} (first : Leads I (fun _ => False) P x) {s : σ} (kept : I s) :
    ∃ a t, x.run.run s = (.ok a, t) ∧ P a := by
  rcases step : x.run.run s with ⟨cause | a, t⟩
  · exact (first.failed s kept cause t step).elim
  · exact ⟨a, t, rfl, (first.answered s kept a t step).1⟩

/-- A step that has an answer in every state never fails. What is then known of its answers holds from whatever state
it starts, as nothing is asked of the state. -/
theorem leads_of_answers {x : ExceptT ε (StateM σ) α} (answers : ∀ s, ∃ a t, x.run.run s = (.ok a, t) ∧ P a) :
    Leads (fun _ => True) F P x where
  answered s _ a t done := by
    obtain ⟨b, u, step, holds⟩ := answers s
    cases done.symm.trans step
    exact ⟨holds, trivial⟩
  failed s _ cause t done := by
    obtain ⟨b, u, step, -⟩ := answers s
    cases done.symm.trans step

/-- The second of two steps starts from an answer of the first, in a state with the property. If the first fails, its
failure is that of both, and so is the state that it leaves behind. -/
theorem leads_bind {x : ExceptT ε (StateM σ) α} {f : α → ExceptT ε (StateM σ) β} (first : Leads I F P x)
    (rest : ∀ a, P a → Leads I F Q (f a)) : Leads I F Q (x >>= f) where
  answered s kept b u done := by
    obtain ⟨a, t, step, later⟩ := run_bind_eq_ok_iff.mp done
    obtain ⟨holds, keeps⟩ := first.answered s kept a t step
    exact (rest a holds).answered t keeps b u later
  failed s kept cause u done := by
    rw [run_bind] at done
    rcases step : x.run.run s with ⟨cause | a, t⟩
    · rw [step] at done
      cases done
      exact first.failed s kept cause u step
    · rw [step] at done
      obtain ⟨holds, keeps⟩ := first.answered s kept a t step
      exact (rest a holds).failed t keeps cause u done

/-- A rescue starts from what the failure leaves behind. Therefore a step that is rescued must keep the property also
by failing, while the failure of the rescue is that of the whole. -/
theorem leads_tryCatch {x : ExceptT ε (StateM σ) α} {rescue : ε → ExceptT ε (StateM σ) α} (first : Leads I I P x)
    (rest : ∀ cause, Leads I F P (rescue cause)) : Leads I F P (tryCatch x rescue) := by
  have ending (s : σ) := run_tryCatch x rescue s
  constructor
  · intro s kept a u done
    rw [ending] at done
    rcases step : x.run.run s with ⟨cause | b, t⟩
    · rw [step] at done
      exact (rest cause).answered t (first.failed s kept cause t step) a u done
    · rw [step] at done
      cases done
      exact first.answered s kept a u step
  · intro s kept cause u done
    rw [ending] at done
    rcases step : x.run.run s with ⟨other | b, t⟩
    · rw [step] at done
      exact (rest other).failed t (first.failed s kept other t step) cause u done
    · rw [step] at done
      cases done

/-- A loop keeps what every turn of it keeps, of the state and of what is collected. The induction is on the items; a
turn that breaks the loop off has collected as much as any other. -/
theorem leads_forIn {items : List β} {body : β → α → ExceptT ε (StateM σ) (ForInStep α)} {start : α} (holds : P start)
    (each : ∀ item ∈ items, ∀ a, P a → Leads I F (fun turn => P turn.value) (body item a)) :
    Leads I F P (forIn items start body) := by
  induction items generalizing start with
  | nil => exact leads_pure holds
  | cons item items ih =>
    rw [List.forIn_cons]
    apply leads_bind (each item List.mem_cons_self start holds)
    intro turn holds
    cases turn with
    | done a => exact leads_pure holds
    | yield a => exact ih holds fun item member => each item (List.mem_cons_of_mem _ member)

/-- A fold keeps what every step of it keeps, of the state and of what is folded. The items that are still to come are
members of the list, so what is known of these may be used in a step. -/
theorem leads_foldlM {items : List β} {f : α → β → ExceptT ε (StateM σ) α} {start : α} (holds : P start)
    (each : ∀ item ∈ items, ∀ a, P a → Leads I F P (f a item)) : Leads I F P (items.foldlM f start) := by
  induction items generalizing start with
  | nil => exact leads_pure holds
  | cons item items ih =>
    rw [List.foldlM_cons]
    exact leads_bind (each item List.mem_cons_self start holds) fun a holds =>
      ih holds fun item member => each item (List.mem_cons_of_mem _ member)

/-- Steps for the members of a list are taken one after another. If each gives an answer with a property, so are all
members of the list of answers. -/
theorem leads_mapM {f : α → ExceptT ε (StateM σ) β} (each : ∀ a, Leads I F Q (f a)) (items : List α) :
    Leads I F (fun answers => ∀ b ∈ answers, Q b) (items.mapM f) := by
  induction items with
  | nil => exact leads_pure (by simp)
  | cons item items ih =>
    rw [List.mapM_cons]
    exact leads_bind (each item) fun b holds => leads_bind ih fun others all =>
      leads_pure (List.forall_mem_cons.mpr ⟨holds, all⟩)

end

/-- A step fails exactly on a condition. Whatever it answers has one property, and whatever state it leaves behind, also
by failing, has another. -/
structure Ends (x : ExceptT ε (StateM σ) α) (s : σ) (F : Prop) (Q : α → Prop) (P : σ → Prop) : Prop where
  failed : (∃ cause, (x.run.run s).1 = .error cause) ↔ F
  answered : ∀ a, (x.run.run s).1 = .ok a → Q a
  left : P (x.run.run s).2

variable {x : ExceptT ε (StateM σ) α} {f : α → ExceptT ε (StateM σ) β} {s t : σ} {F G : Prop}
  {Q : α → Prop} {R : β → Prop} {P : σ → Prop} {a : α}

/-- An answer is an ending in which the condition for failing does not hold. It has to have the one property, and what
it leaves behind the other. -/
theorem ends_ok (done : x.run.run s = (.ok a, t)) (holds : Q a) (left : P t) : Ends x s False Q P where
  failed := by simp [done]
  answered b same := by
    rw [done] at same
    cases same
    exact holds
  left := by rwa [done]

/-- A failure is an ending in which the condition for failing holds. Of answers nothing has to be shown then. -/
theorem ends_error {cause : ε} (done : x.run.run s = (.error cause, t)) (left : P t) : Ends x s True Q P where
  failed := by simp [done]
  answered b same := by
    rw [done] at same
    cases same
  left := by rwa [done]

/-- The condition can be put in other words. So each lemma can name the condition in the way in which it comes about,
and the main result in the way in which it reads best. -/
theorem Ends.congr (ends : Ends x s F Q P) (same : F ↔ G) : Ends x s G Q P where
  failed := ends.failed.trans same
  answered := ends.answered
  left := ends.left

/-- A step ends as one does that gives the same, even if that one starts in another state. -/
theorem Ends.of_eq {y : ExceptT ε (StateM σ) α} (ends : Ends y t F Q P) (same : x.run.run s = y.run.run t) :
    Ends x s F Q P where
  failed := by
    rw [same]
    exact ends.failed
  answered := by
    rw [same]
    exact ends.answered
  left := by
    rw [same]
    exact ends.left

/-- After a failure no other step is taken, whatever it would have been. So of the second step nothing need be known. -/
theorem ends_stopped {cause : ε} (first : x.run.run s = (.error cause, t)) (left : P t) :
    Ends (x >>= f) s True R P :=
  ends_error (by rw [run_bind, first]) left

/-- After an answer two steps end as the second does, from where the answer was given. With this a step that is known
to answer is passed over. -/
theorem ends_after (first : x.run.run s = (.ok a, t)) (rest : Ends (f a) t F R P) : Ends (x >>= f) s F R P :=
  rest.of_eq (by rw [run_bind, first])

/-- If the second of two steps never fails, they fail on what the first does. This is how a command ends that asks the
engine for one thing and then only prints. -/
theorem ends_bind (first : Ends x s F Q P) (rest : ∀ a t, Q a → P t → Ends (f a) t False R P) :
    Ends (x >>= f) s F R P := by
  rcases step : x.run.run s with ⟨cause | a, t⟩
  · have left : P t := by simpa only [step] using first.left
    exact (ends_stopped step left).congr (iff_of_true trivial (first.failed.mp ⟨cause, by rw [step]⟩))
  · have left : P t := by simpa only [step] using first.left
    have never : ¬F := fun holds => by
      obtain ⟨cause, failed⟩ := first.failed.mpr holds
      rw [step] at failed
      cases failed
    exact (ends_after step (rest a t (first.answered a (by rw [step])) left)).congr (iff_of_false id never)

end ChestMenu
