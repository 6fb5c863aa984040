import DemandPaging.Proofs.Simulation.Alone

/-!
# What an accepted simulation can fail with

A simulation is accepted for the settings one by one, and the service looks at the size of
all tables together. The two agree as long as the entries can be counted in a machine word.
A simulation with more entries is accepted, and its run fails with a memory fault.
-/

namespace DemandPaging

theorem PageService.fresh_of_overflow {settings : Settings}
    (hlarge : wordCount ≤ settings.processes * settings.pages) :
    fresh settings =
      .error (.memory (.badDimensions settings.processes settings.pages)) := by
  have hblank : PageTables.blank settings.processes settings.pages =
      .error (.badDimensions settings.processes settings.pages) :=
    if_neg fun hfits => Nat.not_lt_of_le hlarge hfits.2
  simp only [fresh, Pager.fresh, hblank, MemoryFault.orFail, Except.mapError, bind, Except.bind]

namespace Simulation

variable {settings : Settings} {clients : List Client} {simulation : Simulation}

theorem run_of_fresh_error {failure : Failure}
    (hfresh : PageService.fresh simulation.settings = .error failure) :
    simulation.run = .error failure := by
  simp only [run, play, hfresh, bind, Except.bind]

/-- A run that comes to its end has had its service set up. -/
theorem exists_fresh_of_run {report : Report} (hrun : simulation.run = .ok report) :
    ∃ start, PageService.fresh simulation.settings = .ok start := by
  cases hfresh : PageService.fresh simulation.settings with
  | error failure =>
      rw [run_of_fresh_error hfresh] at hrun
      exact absurd hrun (by simp)
  | ok start => exact ⟨start, rfl⟩

/-- What a service can be set up for, among all that is accepted. -/
theorem exists_fresh_iff_of_accepted (hof : of settings clients = .ok simulation) :
    (∃ start, PageService.fresh settings = .ok start) ↔
      settings.processes * settings.pages < wordCount := by
  obtain ⟨hprocesses, hpages, hframes, -⟩ := Settings.check_eq_ok_iff.mp (check_of_eq_ok hof)
  rw [PageService.exists_fresh_iff]
  exact ⟨fun hall => hall.2.1, fun hfits => ⟨Nat.mul_pos hprocesses hpages, hfits, hframes⟩⟩

/-- The service of a simulation that is accepted can be set up unless there are too many
table entries to count, and only then does the run fail with a memory fault. -/
theorem memory_fault_iff_overflow (hof : of settings clients = .ok simulation) :
    ((∃ start, PageService.fresh settings = .ok start) ↔
      settings.processes * settings.pages < wordCount) ∧
    ∀ fault, simulation.run = .error (.memory fault) ↔
      wordCount ≤ settings.processes * settings.pages ∧
        fault = .badDimensions settings.processes settings.pages := by
  have hfits := exists_fresh_iff_of_accepted hof
  refine ⟨hfits, fun fault => ?_⟩
  by_cases hlarge : wordCount ≤ settings.processes * settings.pages
  · obtain ⟨rfl, -⟩ := of_eq_ok hof
    rw [run_of_fresh_error (PageService.fresh_of_overflow hlarge)]
    simp [hlarge, eq_comm]
  · obtain ⟨start, hstart⟩ := hfits.mpr (Nat.lt_of_not_le hlarge)
    obtain ⟨final, outcomes, hperforms⟩ := exists_performs hof hstart
    obtain ⟨rfl, hlength, hnumbered⟩ := of_eq_ok hof
    rw [run_eq_ok hstart hnumbered hlength hperforms]
    simp [hlarge]

/-- Four processes with few pages each. -/
theorem no_memory_fault_for_four_processes :
    ∃ simulation,
      Simulation.of { processes := 4, pages := 3, frames := 1 }
        [⟨0, 1, []⟩, ⟨1, 3, [2, -1]⟩, ⟨2, 1, []⟩, ⟨3, 1, [0]⟩] = .ok simulation ∧
      ∀ fault, simulation.run ≠ .error (.memory fault) := by
  refine ⟨_, rfl, fun fault hfails => ?_⟩
  have hof : Simulation.of { processes := 4, pages := 3, frames := 1 }
      [⟨0, 1, []⟩, ⟨1, 3, [2, -1]⟩, ⟨2, 1, []⟩, ⟨3, 1, [0]⟩] = .ok _ := rfl
  exact absurd (((memory_fault_iff_overflow hof).2 fault).mp hfails).1 (by decide)

/-- Not every simulation that is accepted runs without a memory fault: four tables of
`2 ^ 62` entries each are accepted. -/
theorem accepted_with_too_many_entries :
    ¬∀ (settings : Settings) (clients : List Client) (simulation : Simulation),
      Simulation.of settings clients = .ok simulation →
        ∀ fault, simulation.run ≠ .error (.memory fault) := by
  intro hnever
  exact hnever { processes := 4, pages := 2 ^ 62, frames := 1 }
    [⟨0, 1, []⟩, ⟨1, 1, []⟩, ⟨2, 1, []⟩, ⟨3, 1, []⟩] _ rfl (.badDimensions 4 (2 ^ 62)) rfl

end Simulation

end DemandPaging
