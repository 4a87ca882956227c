import ChestMenu.Engine.State
import ChestMenu.Proofs.Endings

/-!
# What becomes of a step of an engine

A step of an engine ends with an answer or the cause of a failure, and in either case a state. A step
that fails keeps what it did before, so a property that is to hold after every step has to be shown for
both endings.

`Keeps` says so for one step. Its laws are those of `Leads`, so that an invariant need only be looked at
where the state is changed.
-/
namespace ChestMenu.Engine

variable {α β : Type}

/-- What a step gives in a state, and the state that it leaves behind. -/
def outcome (x : Engine α) (s : EngineState) : Except Failure α × EngineState :=
  x.run.run s

/-- An answer leaves the state as it is. -/
theorem outcome_pure (a : α) (s : EngineState) : outcome (pure a) s = (.ok a, s) := rfl

/-- Looking at the state gives it and leaves it as it is. -/
theorem outcome_get (s : EngineState) : outcome get s = (.ok s, s) := rfl

/-- Setting the state forgets the one before. What is to be kept of the old state has to be put into the new one. -/
theorem outcome_set (t s : EngineState) : outcome (set t : Engine Unit) s = (.ok (), t) := rfl

/-- Modifying the state applies the change to it. -/
theorem outcome_modify (change : EngineState → EngineState) (s : EngineState) :
    outcome (modify change : Engine Unit) s = (.ok (), change s) := rfl

/-- Going on with a result gives the result and leaves the state as it is. So a reading can stand among the steps of
an engine. -/
theorem outcome_ofExcept (result : Except Failure α) (s : EngineState) :
    outcome (ofExcept result) s = (result, s) := rfl

/-- The ledger that placeholders are resolved with knows how many menus are open. -/
def openLedger (s : EngineState) : Ledger :=
  { s.ledger with openMenus := s.openMenus.length }

/-- Resolving placeholders changes the ledger and nothing else, and never fails by itself. What it gives may still be
a failure, which the next step may go on with or pass over. -/
theorem outcome_resolving (step : Resolving α) (s : EngineState) :
    outcome (resolving step) s =
      (.ok (step.run (openLedger s)).1, { s with ledger := (step.run (openLedger s)).2 }) := rfl

/-- The second of two steps is taken in the state that the first leaves behind, if the first gives an
answer; otherwise the failure of the first is that of both. -/
theorem outcome_bind (x : Engine α) (f : α → Engine β) (s : EngineState) :
    outcome (x >>= f) s =
      match outcome x s with
      | (.ok a, t) => outcome (f a) t
      | (.error cause, t) => (.error cause, t) := by
  unfold outcome
  rw [run_bind]
  rcases x.run.run s with ⟨cause | a, t⟩ <;> rfl

/-- After an answer the next step goes on from the state behind it. With this the parts of an operation that are known
to answer are gone through one by one. -/
theorem outcome_bind_ok {x : Engine α} {a : α} {s t : EngineState} (f : α → Engine β)
    (first : outcome x s = (.ok a, t)) : outcome (x >>= f) s = outcome (f a) t := by
  rw [outcome_bind, first]

/-- After a failure no other step is taken. The state behind the failure is the one that the whole leaves behind. -/
theorem outcome_bind_error {x : Engine α} {cause : Failure} {s t : EngineState} (f : α → Engine β)
    (first : outcome x s = (.error cause, t)) : outcome (x >>= f) s = (.error cause, t) := by
  rw [outcome_bind, first]

/-- An answer of two steps is one of the second, in the state that the first leaves behind with an answer
of its own. -/
theorem ok_of_outcome_bind {x : Engine α} {f : α → Engine β} {b : β} {s u : EngineState}
    (found : outcome (x >>= f) s = (.ok b, u)) :
    ∃ a t, outcome x s = (.ok a, t) ∧ outcome (f a) t = (.ok b, u) :=
  run_bind_eq_ok_iff.mp found

/-- A step that gives a fixed answer after another leaves the state behind that the other does. Such a step at the end
of an operation only chooses what is answered. -/
theorem outcome_bind_answer (x : Engine α) (b : β) (s : EngineState) :
    (outcome (x >>= fun _ => pure b) s).2 = (outcome x s).2 := by
  rw [outcome_bind]
  rcases outcome x s with ⟨result, t⟩
  cases result <;> rfl

/-- What is read of an answer comes in the place of the answer. The state behind it is the one that the step leaves,
whether the reading of its answer fails or not. -/
theorem outcome_bind_ofExcept (x : Engine α) (f : α → Except Failure β) (s : EngineState) :
    outcome (x >>= fun a => ofExcept (f a)) s = ((outcome x s).1 >>= f, (outcome x s).2) := by
  rw [outcome_bind]
  rcases outcome x s with ⟨_ | _, _⟩ <;> rfl

/-- A failure that is caught is dealt with in the state that it leaves behind. What the failing step has done so far
stays done. -/
theorem outcome_tryCatch (x : Engine α) (rescue : Failure → Engine α) (s : EngineState) :
    outcome (tryCatch x rescue) s =
      match outcome x s with
      | (.ok a, t) => (.ok a, t)
      | (.error cause, t) => outcome (rescue cause) t := by
  unfold outcome
  rw [run_tryCatch]
  rcases x.run.run s with ⟨cause | a, t⟩ <;> rfl

/-- A step keeps a property of states, whatever becomes of it. -/
def Keeps (P : EngineState → Prop) (x : Engine α) : Prop :=
  ∀ s, P s → P (outcome x s).2

variable {P : EngineState → Prop}

/-- What a step keeps holds in the state that it leaves behind. The state is named by an equation here, as it is once
a step has been taken apart. -/
theorem Keeps.after {x : Engine α} {s t : EngineState} {result : Except Failure α} (kept : Keeps P x) (holds : P s)
    (done : outcome x s = (result, t)) : P t := by
  have left := kept s holds
  rwa [done] at left

/-- A step keeps a property if its answers and its failures do. The laws below are those of `Leads` for one property
of the state and no other claim. -/
theorem keeps_iff_leads {x : Engine α} : Keeps P x ↔ Leads P P (fun _ => True) x :=
  ⟨leads_of_keeps, fun leads => leads.left⟩

theorem keeps_pure (a : α) : Keeps P (pure a) :=
  keeps_iff_leads.mpr (leads_pure trivial)

theorem keeps_throw (cause : Failure) : Keeps P (throw cause : Engine α) :=
  keeps_iff_leads.mpr (leads_throw fun _ holds => holds)

theorem keeps_get : Keeps P (get : Engine EngineState) :=
  keeps_iff_leads.mpr (leads_get.mono fun _ _ => trivial)

theorem keeps_ofExcept (result : Except Failure α) : Keeps P (ofExcept result) :=
  keeps_iff_leads.mpr (leads_result (fun _ _ => trivial) fun _ _ _ holds => holds)

/-- Changing the state keeps what the change keeps. -/
theorem keeps_modify {change : EngineState → EngineState} (kept : ∀ s, P s → P (change s)) :
    Keeps P (modify change : Engine Unit) :=
  keeps_iff_leads.mpr (leads_modify kept)

/-- Two steps keep what each of them keeps. The second has to keep it whatever the first answers. -/
theorem keeps_bind {x : Engine α} {f : α → Engine β} (first : Keeps P x)
    (rest : ∀ a, Keeps P (f a)) : Keeps P (x >>= f) :=
  keeps_iff_leads.mpr (leads_bind (keeps_iff_leads.mp first) fun a _ => keeps_iff_leads.mp (rest a))

/-- A step whose failure is caught keeps what it and the rescue keep. Each has to keep the property in any case, as
the rescue starts where the step has failed. -/
theorem keeps_tryCatch {x : Engine α} {rescue : Failure → Engine α} (first : Keeps P x)
    (rest : ∀ cause, Keeps P (rescue cause)) : Keeps P (tryCatch x rescue) :=
  keeps_iff_leads.mpr (leads_tryCatch (keeps_iff_leads.mp first) fun cause => keeps_iff_leads.mp (rest cause))

/-- A loop keeps what every turn of it keeps. Of an item that has its turn it may be used that it is one of the list. -/
theorem keeps_forIn {items : List β} {body : β → α → Engine (ForInStep α)} (start : α)
    (each : ∀ item ∈ items, ∀ a, Keeps P (body item a)) : Keeps P (forIn items start body) :=
  keeps_iff_leads.mpr (leads_forIn trivial fun item member a _ => keeps_iff_leads.mp (each item member a))

end ChestMenu.Engine
