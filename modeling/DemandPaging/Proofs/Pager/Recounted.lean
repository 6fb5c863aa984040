import DemandPaging.Proofs.Pager.Ledger

/-!
# Counters have no say

The pager writes its counters and never reads them. With other counters in their place each
operation goes the same way and leaves the same behind, but for the counters.
-/

namespace DemandPaging.Pager

/-- The pager with other counters. -/
def recounted (pager : Pager) (counters : Array Counters) : Pager := { pager with counters }

variable (pager : Pager) (counters : Array Counters) (pid page frame : Nat)

@[simp] theorem tables_recounted : (pager.recounted counters).tables = pager.tables := rfl

@[simp] theorem pool_recounted : (pager.recounted counters).pool = pager.pool := rfl

@[simp] theorem clock_recounted : (pager.recounted counters).clock = pager.clock := rfl

theorem assign_recounted :
    (pager.recounted counters).assign pid page frame =
      (pager.assign pid page frame).map (·.recounted counters) := by
  simp only [assign, recounted]
  split
  next => rfl
  next => rfl
  next => cases MemoryFault.orFail (pager.tables.load pid page frame (pager.clock + 1)) <;> rfl

theorem vacate_recounted :
    (pager.recounted counters).vacate pid page =
      (pager.vacate pid page).map (Prod.map id (·.recounted counters)) := by
  simp only [vacate, recounted]
  cases MemoryFault.orFail (pager.tables.unload pid page) with
  | error failure => rfl
  | ok result =>
      obtain ⟨frame?, tables⟩ := result
      cases frame? with
      | none => rfl
      | some frame =>
          simp only [bind, Except.bind]
          by_cases howner : pager.owners[frame]? = some (some ⟨pid, page⟩)
          · simp only [howner, if_true]
            rfl
          · simp only [howner, if_false]
            rfl

theorem giveBack_recounted :
    (pager.recounted counters).giveBack pid page =
      (pager.giveBack pid page).map (·.recounted counters) := by
  simp only [giveBack, vacate_recounted]
  cases pager.vacate pid page with
  | error failure => rfl
  | ok result =>
      simp only [bind, Except.bind, Except.map, Prod.map, id, recounted]
      cases MemoryFault.orFail (result.2.pool.giveBack result.1) <;> rfl

theorem foldlM_giveBack_recounted (pages : List (Nat × Nat)) :
    pages.foldlM (fun pager (page, _) => pager.giveBack pid page) (pager.recounted counters) =
      (pages.foldlM (fun pager (page, _) => pager.giveBack pid page) pager :
        Except Failure Pager).map (·.recounted counters) := by
  induction pages generalizing pager with
  | nil => rfl
  | cons entry pages ih =>
      obtain ⟨page, frame⟩ := entry
      simp only [List.foldlM_cons, giveBack_recounted]
      cases pager.giveBack pid page with
      | error failure => rfl
      | ok next => exact ih next

theorem evacuate_recounted :
    (pager.recounted counters).evacuate pid =
      (pager.evacuate pid).map (Prod.map (·.recounted counters) id) := by
  simp only [evacuate, tables_recounted]
  cases MemoryFault.orFail (pager.tables.residentPages pid) with
  | error failure => rfl
  | ok pages =>
      have hloop := foldlM_giveBack_recounted pager counters pid pages
      simp only [bind, Except.bind] at hloop ⊢
      rw [hloop]
      cases (pages.foldlM (fun pager (page, _) => pager.giveBack pid page) pager :
        Except Failure Pager) <;> rfl

/-- A reference to a legal page goes the same way and is put on record. -/
theorem accessLegal_recounted :
    (pager.recounted counters).accessLegal pid page =
      (pager.accessLegal pid page).map fun (next, resolution) =>
        (next.recounted (counters.modify pid (·.record resolution)), resolution) := by
  simp only [accessLegal, tables_recounted, pool_recounted, clock_recounted]
  cases MemoryFault.orFail (pager.tables.entryAt pid page) with
  | error failure => rfl
  | ok entry =>
      simp only [bind, Except.bind]
      cases entry.valid with
      | true =>
          simp only [if_true]
          cases entry.frame with
          | none => rfl
          | some frame =>
              simp only
              cases MemoryFault.orFail (pager.tables.recordUse pid page (pager.clock + 1)) <;> rfl
      | false =>
          simp only [Bool.false_eq_true, if_false]
          cases pager.pool.take? with
          | some result =>
              obtain ⟨frame, pool⟩ := result
              have hassign := assign_recounted { pager with pool } counters pid page frame
              simp only [recounted] at hassign ⊢
              rw [hassign]
              cases assign { pager with pool } pid page frame <;> rfl
          | none =>
              simp only
              cases MemoryFault.orFail (pager.tables.leastRecent? pid) with
              | error failure => rfl
              | ok victim? =>
                  cases victim? with
                  | none => rfl
                  | some victim =>
                      simp only [vacate_recounted]
                      cases pager.vacate pid victim with
                      | error failure => rfl
                      | ok result =>
                          simp only [Except.map, Prod.map, id, assign_recounted]
                          cases result.2.assign pid page result.1 <;> rfl

/-- A reference goes the same way. One of an unknown process is not put on record. -/
theorem access_recounted (page bound : Int) :
    (pager.recounted counters).access pid page bound =
      (pager.access pid page bound).map fun (next, resolution) =>
        (next.recounted (if pid < pager.processes then counters.modify pid (·.record resolution)
          else counters), resolution) := by
  simp only [access]
  rw [show (pager.recounted counters).processes = pager.processes from rfl,
    show (pager.recounted counters).limit bound = pager.limit bound from rfl]
  by_cases hpid : pid < pager.processes
  · simp only [if_pos hpid]
    cases isWithin page (pager.limit bound) with
    | true => exact accessLegal_recounted pager counters pid page.toNat
    | false => rfl
  · simp only [if_neg hpid]
    rfl

end DemandPaging.Pager
