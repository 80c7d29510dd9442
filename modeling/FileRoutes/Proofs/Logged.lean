import FileRoutes.Event

/-!
# Computations that succeed

A recorded computation gives a value when it succeeds with it.  Computations
in sequence give what the last one gives, and their records are joined.
-/

namespace FileRoutes
namespace Logged

variable {α β : Type}

/-- A computation succeeds with a value. -/
def Gives (computation : Logged α) (value : α) : Prop :=
  computation.outcome = .ok value

theorem gives_pure (value : α) : (pure value : Logged α).Gives value := rfl

theorem gives_record (event : Event) : (record event).Gives () := rfl

theorem gives_recordAll (events : List Event) :
    (recordAll events).Gives () := rfl

/-- A computation that is finished gives its own value only. -/
@[simp] theorem gives_pure_iff {value other : α} :
    (pure value : Logged α).Gives other ↔ value = other := by
  simp [Gives]

@[simp] theorem pure_bind (value : α) (next : α -> Logged β) :
    pure value >>= next = next value := by
  rw [bind_of_ok next (outcome_pure value)]
  rfl

/-- A computation gives one value at most. -/
theorem Gives.unique {computation : Logged α} {value other : α}
    (gives : computation.Gives value) (givesOther : computation.Gives other) :
    value = other := by
  have equal := gives.symm.trans givesOther
  exact Except.ok.inj equal

/-- What follows a computation that succeeds decides the outcome. -/
theorem Gives.outcome_bind {first : Logged α} {value : α}
    (gives : first.Gives value) (next : α -> Logged β) :
    (first >>= next).outcome = (next value).outcome := by
  rw [bind_of_ok next gives]

/-- The events of a computation that succeeds stand in front of those of what
follows. -/
theorem Gives.log_bind {first : Logged α} {value : α}
    (gives : first.Gives value) (next : α -> Logged β) :
    (first >>= next).log = first.log ++ (next value).log := by
  rw [bind_of_ok next gives]

/-- Two computations that succeed one after the other succeed together. -/
theorem Gives.bind {first : Logged α} {value : α} {next : α -> Logged β}
    {result : β} (gives : first.Gives value)
    (givesNext : (next value).Gives result) :
    (first >>= next).Gives result :=
  (gives.outcome_bind next).trans givesNext

@[simp] theorem bind_pure (computation : Logged α) :
    computation >>= pure = computation := by
  cases outcome : computation.outcome with
  | error error =>
    rw [bind_of_error _ outcome, ← outcome]
  | ok value =>
    rw [bind_of_ok _ outcome, outcome_pure, log_pure,
      List.append_nil, ← outcome]

/-- Three computations in a row need no brackets. -/
theorem bind_assoc {γ : Type} (first : Logged α) (next : α -> Logged β)
    (last : β -> Logged γ) :
    first >>= next >>= last = first >>= fun value => next value >>= last := by
  cases outcome : first.outcome with
  | error error =>
    rw [bind_of_error next outcome, bind_of_error _ outcome,
      bind_of_error _ rfl]
  | ok value =>
    rw [bind_of_ok next outcome, bind_of_ok _ outcome]
    cases later : (next value).outcome with
    | error error => rw [bind_of_error last later, bind_of_error _ rfl]
    | ok result =>
      rw [bind_of_ok last later, bind_of_ok last rfl, List.append_assoc]

/-- Computations in sequence succeed exactly when each of them does. -/
theorem gives_bind_iff {first : Logged α} {next : α -> Logged β} {result : β} :
    (first >>= next).Gives result ↔
      ∃ value, first.Gives value ∧ (next value).Gives result := by
  constructor
  · intro gives
    cases outcome : first.outcome with
    | error error =>
      rw [bind_of_error next outcome] at gives
      cases gives
    | ok value =>
      rw [bind_of_ok next outcome] at gives
      exact ⟨value, outcome, gives⟩
  · rintro ⟨value, gives, givesNext⟩
    exact gives.bind givesNext

/-- A computation whose value passes a test succeeds. -/
theorem exists_gives_of_any {computation : Logged α} {test : α -> Bool}
    (passes : computation.outcome.toOption.any test = true) :
    ∃ value, computation.Gives value ∧ test value = true := by
  cases outcome : computation.outcome with
  | error error =>
    rw [outcome] at passes
    cases passes
  | ok value =>
    rw [outcome] at passes
    exact ⟨value, outcome, passes⟩

end Logged
end FileRoutes
