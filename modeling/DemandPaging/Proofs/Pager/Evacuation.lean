import DemandPaging.Proofs.Pager.Access

/-!
# Evacuating a process

The loop that takes the pages of a process away, one after another, passes
through pagers with a frame in transit and ends in a coherent one. The frames go
to the end of the pool in the order of the pages.
-/

namespace DemandPaging.Pager

/-- The pager after a process has given up the given pages with their frames.
Nothing else has changed; the entries keep the time of the last use. -/
structure Released (pager : Pager) (pid : Nat) (pages : List (Nat × Nat)) (next : Pager) :
    Prop where
  sameShape : pager.SameShape next
  clock_eq : next.clock = pager.clock
  counters_eq : next.counters = pager.counters
  toList_eq : next.pool.toList = pager.pool.toList ++ pages.map Prod.snd
  cell_eq : ∀ otherPid page, next.tables.cell otherPid page =
    if otherPid = pid ∧ page ∈ pages.map Prod.fst then
      { pager.tables.cell pid page with frame := none, valid := false }
    else pager.tables.cell otherPid page

variable {pager next : Pager} {pid page frame : Nat}

theorem released_nil (pager : Pager) (pid : Nat) : pager.Released pid [] pager :=
  ⟨.refl pager, rfl, rfl, by simp, by simp⟩

/-- One turn of the loop: the frame of a page returns to the pool. -/
theorem giveBack_eq (hcoherent : pager.Coherent none)
    (hframe : (pager.tables.cell pid page).frame = some frame) :
    ∃ next, pager.giveBack pid page = .ok next ∧ next.Coherent none ∧
      pager.Released pid [(page, frame)] next := by
  have hloose := hcoherent.vacated hframe
  obtain ⟨pool, hgive, hlist, htotal, hnext⟩ := hloose.release
  refine ⟨{ pager.vacated pid page frame with pool }, ?_, hnext, ?_⟩
  · simp only [giveBack, hcoherent.vacate_eq hframe, bind, Except.bind, hgive]
    rfl
  · refine ⟨⟨PageTables.processes_write _, PageTables.pages_write _, htotal⟩, rfl, rfl, hlist, ?_⟩
    intro otherPid otherPage
    rw [show ({ pager.vacated pid page frame with pool } : Pager).tables =
      (pager.vacated pid page frame).tables from rfl, cell_vacated hcoherent hframe]
    simp only [List.map_cons, List.map_nil, List.mem_singleton]
    split
    next heq => rw [heq.2]
    next => rfl

theorem Released.cons {middle : Pager} {pages : List (Nat × Nat)}
    (hfirst : pager.Released pid [(page, frame)] middle) (hrest : middle.Released pid pages next) :
    pager.Released pid ((page, frame) :: pages) next where
  sameShape := hfirst.sameShape.trans hrest.sameShape
  clock_eq := hrest.clock_eq.trans hfirst.clock_eq
  counters_eq := hrest.counters_eq.trans hfirst.counters_eq
  toList_eq := by rw [hrest.toList_eq, hfirst.toList_eq]; simp
  cell_eq := by
    intro otherPid otherPage
    rw [hrest.cell_eq, hfirst.cell_eq, hfirst.cell_eq]
    by_cases hpid : otherPid = pid
    · subst hpid
      by_cases hpage : otherPage = page <;>
        by_cases hmem : otherPage ∈ pages.map Prod.fst <;> simp [hpage, hmem]
    · simp [hpid]

/-- The whole loop, over distinct pages that are resident at its start. -/
theorem foldlM_giveBack (pages : List (Nat × Nat)) (hnodup : (pages.map Prod.fst).Nodup)
    (hcoherent : pager.Coherent none)
    (hframes : ∀ entry ∈ pages, (pager.tables.cell pid entry.1).frame = some entry.2) :
    ∃ next, pages.foldlM (fun pager (page, _) => pager.giveBack pid page) pager = .ok next ∧
      next.Coherent none ∧ pager.Released pid pages next := by
  induction pages generalizing pager with
  | nil => exact ⟨pager, rfl, hcoherent, released_nil pager pid⟩
  | cons entry pages ih =>
      obtain ⟨page, frame⟩ := entry
      rw [List.map_cons, List.nodup_cons] at hnodup
      obtain ⟨middle, hgive, hmiddle, hfirst⟩ :=
        giveBack_eq hcoherent (hframes (page, frame) List.mem_cons_self)
      have hstill : ∀ entry ∈ pages, (middle.tables.cell pid entry.1).frame = some entry.2 := by
        intro entry hentry
        have hne : entry.1 ≠ page := by
          intro heq
          exact hnodup.1 (List.mem_map.mpr ⟨entry, hentry, heq⟩)
        rw [hfirst.cell_eq]
        simpa [hne] using hframes entry (List.mem_cons_of_mem _ hentry)
      obtain ⟨next, hloop, hnext, hrest⟩ := ih hnodup.2 hmiddle hstill
      refine ⟨next, ?_, hnext, hfirst.cons hrest⟩
      simp only [List.foldlM_cons, hgive]
      exact hloop

/-- A known process gives back all its frames; the answer is their number. -/
theorem evacuate_of_lt (hcoherent : pager.Coherent none) (hpid : pid < pager.processes) :
    ∃ next, pager.evacuate pid = .ok (next, (pager.tables.row pid).resident.length) ∧
      next.Coherent none ∧ pager.Released pid (pager.tables.row pid).resident next := by
  have hresident : MemoryFault.orFail (pager.tables.residentPages pid) =
      .ok (pager.tables.row pid).resident := by
    rw [PageTables.residentPages, PageTables.tableOf_of_lt hpid]
    rfl
  have hnodup : ((pager.tables.row pid).resident.map Prod.fst).Nodup :=
    List.pairwise_map.mpr (PageTable.resident_row_pairwise.imp Nat.ne_of_lt)
  have hframes : ∀ entry ∈ (pager.tables.row pid).resident,
      (pager.tables.cell pid entry.1).frame = some entry.2 := by
    intro entry hentry
    rw [← hcoherent.residentFrame?_eq]
    exact PageTable.mem_resident_row.mp hentry
  obtain ⟨next, hloop, hnext, hreleased⟩ := foldlM_giveBack _ hnodup hcoherent hframes
  refine ⟨next, ?_, hnext, hreleased⟩
  simp only [evacuate, hresident, bind, Except.bind, hloop]
  rfl

theorem evacuate_of_le (hpid : pager.processes ≤ pid) :
    pager.evacuate pid = .error (.memory (.noSuchProcess pid pager.processes)) := by
  simp only [evacuate, PageTables.residentPages, PageTables.tableOf_of_le hpid]
  rfl

/-- What an evacuation that is answered has done. -/
theorem released_of_evacuate (hcoherent : pager.Coherent none) {count : Nat}
    (hevacuate : pager.evacuate pid = .ok (next, count)) :
    pid < pager.processes ∧ count = (pager.tables.row pid).resident.length ∧
      next.Coherent none ∧ pager.Released pid (pager.tables.row pid).resident next := by
  by_cases hpid : pid < pager.processes
  · obtain ⟨other, heq, hnext, hreleased⟩ := evacuate_of_lt hcoherent hpid
    obtain ⟨rfl, rfl⟩ := Prod.mk.inj (Except.ok.inj (heq.symm.trans hevacuate))
    exact ⟨hpid, rfl, hnext, hreleased⟩
  · rw [evacuate_of_le (Nat.le_of_not_lt hpid)] at hevacuate
    exact absurd hevacuate (by simp)

theorem sameShape_of_evacuate (hcoherent : pager.Coherent none) {count : Nat}
    (hevacuate : pager.evacuate pid = .ok (next, count)) : pager.SameShape next :=
  (released_of_evacuate hcoherent hevacuate).2.2.2.sameShape

end DemandPaging.Pager
