/-!
# Computations that may fail

A chain of computations gives a result if every one of them gives one.
-/

namespace ClusterOperator.Except

variable {ε α β : Type} {first : Except ε α} {result : β}

theorem bind_eq_ok_iff {next : α → Except ε β} :
    first >>= next = .ok result ↔ ∃ value, first = .ok value ∧ next value = .ok result := by
  cases first with
  | error fault => exact ⟨nofun, nofun⟩
  | ok value =>
      constructor
      · exact fun isOk => ⟨value, rfl, isOk⟩
      · rintro ⟨_, ⟨⟩, isOk⟩
        exact isOk

theorem exists_bind {next : α → Except ε β} (isOk : ∃ value, first = .ok value)
    (goesOn : ∀ value, ∃ result, next value = .ok result) :
    ∃ result, first >>= next = .ok result := by
  rcases isOk with ⟨value, rfl⟩
  exact goesOn value

theorem map_eq_ok_iff {change : α → β} :
    change <$> first = .ok result ↔ ∃ value, first = .ok value ∧ change value = result := by
  cases first with
  | error fault => exact ⟨nofun, nofun⟩
  | ok value =>
      constructor
      · rintro ⟨⟩
        exact ⟨value, rfl, rfl⟩
      · rintro ⟨_, ⟨⟩, rfl⟩
        rfl

end ClusterOperator.Except
