import Mathlib.Data.List.Basic

namespace DegreeAudit

/-!
# Steps that may fail

A computation in several steps has a result just where each of its steps has one.
-/

variable {ε ε' α β : Type}

/-- A computation in two steps succeeds where both of them do. -/
theorem bind_eq_ok {first : Except ε α} {next : α -> Except ε β} {result : β} :
    (first >>= next) = .ok result ↔ ∃ value, first = .ok value ∧ next value = .ok result := by
  constructor
  · intro succeeded
    cases first with
    | error failure => cases succeeded
    | ok value => exact ⟨value, rfl, succeeded⟩
  · rintro ⟨value, rfl, succeeded⟩
    exact succeeded

theorem map_eq_ok {first : Except ε α} {f : α -> β} {result : β} :
    first.map f = .ok result ↔ ∃ value, first = .ok value ∧ f value = result := by
  constructor
  · intro succeeded
    cases first with
    | error failure => cases succeeded
    | ok value => exact ⟨value, rfl, Except.ok.inj succeeded⟩
  · rintro ⟨value, rfl, rfl⟩
    rfl

/-- A computation in two steps fails where one of them does. -/
theorem bind_eq_error {first : Except ε α} {next : α -> Except ε β} {failure : ε} :
    (first >>= next) = .error failure
      ↔ first = .error failure ∨ ∃ value, first = .ok value ∧ next value = .error failure := by
  cases first with
  | error other =>
      constructor
      · intro failed
        exact Or.inl (congrArg Except.error (Except.error.inj failed))
      · rintro (failed | ⟨_, succeeded, _⟩)
        · exact congrArg Except.error (Except.error.inj failed)
        · cases succeeded
  | ok value =>
      constructor
      · intro failed
        exact Or.inr ⟨value, rfl, failed⟩
      · rintro (failed | ⟨_, succeeded, failed⟩)
        · cases failed
        · rcases Except.ok.inj succeeded with rfl
          exact failed

theorem map_eq_error {first : Except ε α} {f : α -> β} {failure : ε} :
    first.map f = .error failure ↔ first = .error failure := by
  cases first <;> simp [Except.map]

theorem exists_ok_iff {outcome : Except ε α} :
    (∃ value, outcome = .ok value) ↔ ¬ ∃ failure, outcome = .error failure := by
  cases outcome <;> simp

/-- Two computations that agree up to a function both fail, with one failure, or both succeed. -/
theorem map_eq_map {first second : Except ε α} {f : α -> β} (same : first.map f = second.map f) :
    (∃ failure, first = .error failure ∧ second = .error failure)
      ∨ ∃ left right, first = .ok left ∧ second = .ok right ∧ f left = f right := by
  cases first with
  | error failure =>
      cases second with
      | error other =>
          rcases Except.error.inj same with rfl
          exact Or.inl ⟨failure, rfl, rfl⟩
      | ok value => cases same
  | ok left =>
      cases second with
      | error failure => cases same
      | ok right => exact Or.inr ⟨left, right, rfl, rfl, Except.ok.inj same⟩

/-- If a computation succeeds, what it gives is good. -/
def Gives (good : α -> Prop) (outcome : Except ε α) : Prop :=
  forall value, outcome = .ok value -> good value

namespace Gives

variable {good : α -> Prop} {fine : β -> Prop} {outcome : Except ε α} {next : α -> Except ε β}

theorem ok {value : α} (holds : good value) : Gives good (.ok value : Except ε α) := by
  intro other same
  rcases Except.ok.inj same with rfl
  exact holds

/-- What a first step gives may be used for what the next one gives. -/
theorem bind (gives : Gives good outcome)
    (later : forall value, good value -> Gives fine (next value)) :
    Gives fine (outcome >>= next) := by
  intro result succeeded
  rcases bind_eq_ok.mp succeeded with ⟨value, first, rest⟩
  exact later value (gives value first) result rest

/-- A step of which nothing is asked. -/
theorem andThen (later : forall value, Gives fine (next value)) : Gives fine (outcome >>= next) :=
  bind (fun _ _ => trivial : Gives (fun _ => True) outcome) fun value _ => later value

end Gives

section Lists

variable {f : α -> Except ε β} {items : List α}

/-- A computation over a list succeeds where it does for each item. -/
theorem exists_mapM_iff :
    (∃ results, items.mapM f = .ok results)
      ↔ forall item, item ∈ items -> ∃ result, f item = .ok result := by
  induction items with
  | nil => exact ⟨fun _ => nofun, fun _ => ⟨[], rfl⟩⟩
  | cons item items inductionHypothesis =>
      rw [List.mapM_cons, List.forall_mem_cons, <- inductionHypothesis]
      constructor
      · rintro ⟨results, done⟩
        rcases bind_eq_ok.mp done with ⟨first, here, done⟩
        rcases bind_eq_ok.mp done with ⟨others, later, _⟩
        exact ⟨⟨first, here⟩, others, later⟩
      · rintro ⟨⟨first, here⟩, others, later⟩
        exact ⟨first :: others, bind_eq_ok.mpr ⟨first, here, bind_eq_ok.mpr ⟨others, later, rfl⟩⟩⟩

/-- What comes of a list is what comes of its items. -/
theorem mem_mapM_iff {results : List β} (done : items.mapM f = .ok results) {result : β} :
    result ∈ results ↔ ∃ item, item ∈ items ∧ f item = .ok result := by
  induction items generalizing results with
  | nil =>
      rcases Except.ok.inj done with rfl
      simp
  | cons item items inductionHypothesis =>
      rw [List.mapM_cons] at done
      rcases bind_eq_ok.mp done with ⟨first, here, done⟩
      rcases bind_eq_ok.mp done with ⟨others, later, done⟩
      rcases Except.ok.inj done with rfl
      rw [List.mem_cons, inductionHypothesis later, List.exists_mem_cons_iff, here,
        Except.ok.injEq, eq_comm]

theorem mapM_eq_ok_map {g : α -> β} (each : forall item, item ∈ items -> f item = .ok (g item)) :
    items.mapM f = .ok (items.map g) := by
  induction items with
  | nil => rfl
  | cons item items inductionHypothesis =>
      rw [List.forall_mem_cons] at each
      rw [List.mapM_cons, each.1, inductionHypothesis each.2]
      rfl

/-- A computation in two steps may be done step by step for all items. -/
theorem mapM_of_mapM_bind {γ : Type} {next : β -> Except ε γ} {results : List β} {ends : List γ}
    (first : items.mapM f = .ok results)
    (both : items.mapM (fun item => f item >>= next) = .ok ends) :
    results.mapM next = .ok ends := by
  induction items generalizing results ends with
  | nil =>
      rcases Except.ok.inj first with rfl
      exact both
  | cons item items inductionHypothesis =>
      rw [List.mapM_cons] at first both
      rcases bind_eq_ok.mp first with ⟨value, here, first⟩
      rcases bind_eq_ok.mp first with ⟨values, later, first⟩
      rcases Except.ok.inj first with rfl
      rcases bind_eq_ok.mp both with ⟨result, whole, both⟩
      rcases bind_eq_ok.mp both with ⟨others, wholeLater, both⟩
      rcases Except.ok.inj both with rfl
      rcases bind_eq_ok.mp whole with ⟨again, same, last⟩
      rcases Except.ok.inj (here.symm.trans same) with rfl
      rw [List.mapM_cons, last, inductionHypothesis later wholeLater]
      rfl

end Lists

end DegreeAudit
