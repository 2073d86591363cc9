/-!
# Computations that succeed

A computation that can fail succeeds only if its parts do, and fails only where one of them does.
-/

namespace GatedResolver

variable {ε α β : Type} {computation : Except ε α}

/-- A change of a result succeeds only if there is one. -/
theorem ok_of_map {change : α → β} {result : β} (succeeds : computation.map change = .ok result) :
    ∃ value, computation = .ok value ∧ change value = result := by
  cases computation with
  | error fault => cases succeeds
  | ok value =>
    cases succeeds
    exact ⟨value, rfl, rfl⟩

/-- Two computations in a row succeed only if both do. -/
theorem ok_of_bind {next : α → Except ε β} {result : β}
    (succeeds : computation >>= next = .ok result) :
    ∃ value, computation = .ok value ∧ next value = .ok result := by
  cases computation with
  | error fault => cases succeeds
  | ok value => exact ⟨value, rfl, succeeds⟩

/-- Two computations in a row fail only if one of them does. -/
theorem error_of_bind {next : α → Except ε β} {fault : ε}
    (fails : computation >>= next = .error fault) :
    computation = .error fault ∨ ∃ value, computation = .ok value ∧ next value = .error fault := by
  cases computation with
  | error cause =>
    cases fails
    exact .inl rfl
  | ok value => exact .inr ⟨value, rfl, fails⟩

/-- A change of the fault leaves success as it is. -/
theorem mapError_eq_ok_iff {δ : Type} {change : ε → δ} {result : α} :
    computation.mapError change = .ok result ↔ computation = .ok result := by
  cases computation with
  | error cause => constructor <;> intro succeeds <;> cases succeeds
  | ok value =>
    constructor <;> intro succeeds <;> cases succeeds <;> rfl

/-- A change of the fault fails only with the fault of the computation. -/
theorem error_of_mapError {δ : Type} {change : ε → δ} {fault : δ}
    (fails : computation.mapError change = .error fault) :
    ∃ cause, computation = .error cause ∧ change cause = fault := by
  cases computation with
  | error cause =>
    cases fails
    exact ⟨cause, rfl, rfl⟩
  | ok value => cases fails

end GatedResolver
