/-!
# Results of steps that can fail

What a result says of the steps that it comes from, whatever the failures are.
-/

namespace DemandPaging

variable {ε δ α β : Type}

/-- Steps one after another give a result only if each of them does. -/
theorem exists_of_bind_eq_ok {first : Except ε α} {rest : α → Except ε β} {result : β}
    (hbind : (first >>= rest) = .ok result) :
    ∃ value, first = .ok value ∧ rest value = .ok result := by
  cases first with
  | error fault => exact nomatch hbind
  | ok value => exact ⟨value, rfl, hbind⟩

/-- The first step that fails decides the failure. -/
theorem bind_eq_error_iff {first : Except ε α} {rest : α → Except ε β} {fault : ε} :
    first >>= rest = .error fault ↔
      first = .error fault ∨ ∃ value, first = .ok value ∧ rest value = .error fault := by
  cases first with
  | error other => simp [bind, Except.bind]
  | ok value => simp [bind, Except.bind]

theorem exists_of_map_eq_ok {first : Except ε α} {change : α → β} {result : β}
    (hmap : first.map change = .ok result) :
    ∃ value, first = .ok value ∧ change value = result := by
  cases first with
  | error fault => exact nomatch hmap
  | ok value => exact ⟨value, rfl, Except.ok.inj hmap⟩

theorem eq_ok_of_mapError_eq_ok {first : Except ε α} {change : ε → δ} {result : α}
    (hmap : first.mapError change = .ok result) : first = .ok result := by
  cases first with
  | error fault => exact nomatch hmap
  | ok value => rw [Except.ok.inj hmap]

theorem exists_of_isOk {first : Except ε α} (hok : first.isOk = true) :
    ∃ value, first = .ok value := by
  cases first with
  | error fault => exact nomatch hok
  | ok value => exact ⟨value, rfl⟩

end DemandPaging
