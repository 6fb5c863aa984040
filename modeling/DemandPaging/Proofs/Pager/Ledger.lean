import Mathlib.Algebra.BigOperators.Group.Finset.Piecewise
import DemandPaging.Proofs.Pager.Custody
import DemandPaging.Proofs.Pager.Reliable

/-!
# The ledger of a pager

The clock and the tables can be told from the counters. The clock has gone on once for each
reference that got a frame, and of the frames that a process has got at its faults, it has
lost some to its own later faults and has given others back.
-/

namespace DemandPaging

def Outcome.isFrame : Outcome → Bool
  | .frame _ => true
  | .illegal | .starved | .endOfStream => false

/-- The number of references that were resolved to a frame. -/
def Counters.resolved (counters : Counters) : Nat := counters.hits + counters.faults

theorem Counters.resolved_record (counters : Counters) (resolution : Resolution) :
    (counters.record resolution).resolved =
      counters.resolved + resolution.outcome.isFrame.toNat := by
  cases resolution <;> simp [record, resolved, Resolution.outcome, Outcome.isFrame] <;> omega

theorem Counters.faults_record (counters : Counters) (resolution : Resolution) :
    (counters.record resolution).faults = counters.faults + resolution.isFault.toNat := by
  cases resolution <;> rfl

namespace Pager

/-- The counters of a process; those of an unknown process are zero. -/
def countersOf (pager : Pager) (pid : Nat) : Counters := pager.counters[pid]?.getD {}

/-- The resident pages of a process. -/
def pagesOf (pager : Pager) (pid : Nat) : Finset Nat :=
  ((pager.tables.row pid).resident.map Prod.fst).toFinset

/-- The counters agree with the clock and the tables, if the processes have given back
these numbers of frames. -/
structure Ledger (pager : Pager) (released : Nat → Nat) : Prop where
  clock_eq : pager.clock =
    ∑ pid ∈ Finset.range pager.processes, (pager.countersOf pid).resolved
  faults_eq : ∀ pid, (pager.countersOf pid).faults =
    (pager.pagesOf pid).card + (pager.countersOf pid).evictions + released pid

variable {pager next : Pager} {pid other page frame : Nat} {bound : Int}
  {resolution : Resolution} {released : Nat → Nat}

/-! ## Counters -/

theorem countersOf_tally (hpid : pid < pager.counters.size) (update : Counters → Counters)
    (other : Nat) : (pager.tally pid update).countersOf other =
      if other = pid then update (pager.countersOf pid) else pager.countersOf other := by
  simp only [countersOf, tally, Array.getElem?_modify]
  by_cases hsame : other = pid
  · subst hsame
    simp [hpid]
  · simp [hsame, Ne.symm hsame]

/-- What a reference puts on record: it counts for its own process and for no other one,
and a reference of an unknown process does not count. -/
theorem countersOf_of_access (hcoherent : pager.Coherent none) {page : Int}
    (haccess : pager.access pid page bound = .ok (next, resolution)) :
    (∀ other, other ≠ pid → next.countersOf other = pager.countersOf other) ∧
      (pid < pager.processes ∧ next.countersOf pid = (pager.countersOf pid).record resolution ∨
        pager.processes ≤ pid ∧ next = pager ∧ resolution = .illegal) := by
  rcases access_eq hcoherent pid page bound with
    ⟨hpid, heq⟩ | ⟨hpid, -, heq⟩ | ⟨hpid, -, after, found, hresolves, heq⟩
  all_goals obtain ⟨rfl, rfl⟩ := Prod.mk.inj (Except.ok.inj (heq.symm.trans haccess))
  · exact ⟨fun _ _ => rfl, .inr ⟨hpid, rfl, rfl⟩⟩
  · have htally := countersOf_tally (hcoherent.counters_size.symm ▸ hpid) (·.record .illegal)
    exact ⟨fun other hne => by rw [htally, if_neg hne], .inl ⟨hpid, by rw [htally, if_pos rfl]⟩⟩
  · have hsize : pid < after.counters.size := by
      rwa [hresolves.counters_eq, hcoherent.counters_size]
    have hbefore : ∀ other, after.countersOf other = pager.countersOf other := by
      intro other
      rw [countersOf, hresolves.counters_eq, countersOf]
    have htally := countersOf_tally hsize (·.record found)
    refine ⟨fun other hne => ?_, .inl ⟨hpid, ?_⟩⟩
    · rw [htally, if_neg hne, hbefore]
    · rw [htally, if_pos rfl, hbefore]

/-- The counters of any process after a reference. -/
theorem countersOf_access (hcoherent : pager.Coherent none) {page : Int}
    (haccess : pager.access pid page bound = .ok (next, resolution)) (other : Nat) :
    next.countersOf other =
      if other = pid ∧ pid < pager.processes then (pager.countersOf other).record resolution
      else pager.countersOf other := by
  obtain ⟨hothers, ⟨hpid, hown⟩ | ⟨hpid, rfl, -⟩⟩ := countersOf_of_access hcoherent haccess
  · by_cases hsame : other = pid
    · rw [if_pos ⟨hsame, hpid⟩, hsame, hown]
    · rw [if_neg (fun hboth => hsame hboth.1), hothers other hsame]
  · rw [if_neg (fun hboth => Nat.not_lt.mpr hpid hboth.2)]

theorem countersOf_of_evacuate (hcoherent : pager.Coherent none) {count : Nat}
    (hevacuate : pager.evacuate pid = .ok (next, count)) (other : Nat) :
    next.countersOf other = pager.countersOf other := by
  obtain ⟨-, -, -, hreleased⟩ := released_of_evacuate hcoherent hevacuate
  rw [countersOf, hreleased.counters_eq, countersOf]

/-! ## Resident pages -/

theorem mem_pagesOf (hcoherent : pager.Coherent none) :
    page ∈ pager.pagesOf pid ↔ (pager.tables.cell pid page).frame.isSome = true := by
  rw [pagesOf, List.mem_toFinset, List.mem_map, Option.isSome_iff_exists]
  simp only [Prod.exists, PageTable.mem_resident_row, hcoherent.residentFrame?_eq]
  constructor
  · rintro ⟨page, frame, hframe, rfl⟩
    exact ⟨frame, hframe⟩
  · rintro ⟨frame, hframe⟩
    exact ⟨page, frame, hframe, rfl⟩

theorem card_pagesOf (pager : Pager) (pid : Nat) :
    (pager.pagesOf pid).card = (pager.tables.row pid).resident.length := by
  have hnodup : ((pager.tables.row pid).resident.map Prod.fst).Nodup :=
    List.pairwise_map.mpr (PageTable.resident_row_pairwise.imp Nat.ne_of_lt)
  rw [pagesOf, List.toFinset_card_of_nodup hnodup, List.length_map]

theorem countP_resident (hcoherent : pager.Coherent none) (pid : Nat) :
    pager.resident.countP (·.pid == pid) = (pager.pagesOf pid).card := by
  let pages := (pager.resident.filter (·.pid == pid)).map (·.page)
  have hnodup : pages.Nodup := by
    refine List.Nodup.map_on ?_ ((Coherent.nodup_resident pager).filter _)
    intro earlier hearlier later hlater hpage
    obtain ⟨hearlier, hpid⟩ := List.mem_filter.mp hearlier
    obtain ⟨hlater, hotherPid⟩ := List.mem_filter.mp hlater
    have hsame : earlier.pid = later.pid := by
      rw [eq_of_beq hpid, eq_of_beq hotherPid]
    have hframe := (hcoherent.mem_resident earlier).mp hearlier
    rw [hsame, hpage, (hcoherent.mem_resident later).mp hlater] at hframe
    cases earlier
    cases later
    simp_all
  have hpages : pages.toFinset = pager.pagesOf pid := by
    ext page
    rw [mem_pagesOf hcoherent, List.mem_toFinset, List.mem_map, Option.isSome_iff_exists]
    constructor
    · rintro ⟨r, hr, rfl⟩
      obtain ⟨hmem, hpid⟩ := List.mem_filter.mp hr
      exact ⟨r.frame, eq_of_beq hpid ▸ (hcoherent.mem_resident r).mp hmem⟩
    · rintro ⟨frame, hframe⟩
      exact ⟨⟨pid, page, frame⟩,
        List.mem_filter.mpr ⟨(hcoherent.mem_resident _).mpr hframe, beq_self_eq_true pid⟩, rfl⟩
  rw [List.countP_eq_length_filter, ← hpages, List.toFinset_card_of_nodup hnodup, List.length_map]

theorem Spares.pagesOf_eq (hspares : Spares pid pager next) (hcoherent : pager.Coherent none)
    (hnext : next.Coherent none) (hne : other ≠ pid) :
    next.pagesOf other = pager.pagesOf other := by
  ext page
  rw [mem_pagesOf hnext, mem_pagesOf hcoherent, hspares.cell_eq other hne]

/-- A fault brings in one page, and an eviction takes out another one. -/
theorem Resolves.card_pagesOf (hresolves : Resolves pager pid page next resolution)
    (hcoherent : pager.Coherent none) (hpid : pid < pager.processes)
    (hpage : page < pager.tables.pages) (counters : Counters) :
    (counters.record resolution).faults + (pager.pagesOf pid).card + counters.evictions =
      counters.faults + (next.pagesOf pid).card + (counters.record resolution).evictions := by
  have hnext := hresolves.coherent hcoherent hpid hpage
  cases hresolves with
  | hit hframe =>
      have hpages : (pager.touched pid page).pagesOf pid = pager.pagesOf pid := by
        ext other
        rw [mem_pagesOf hnext, mem_pagesOf hcoherent, touched, PageTables.cell_write hpid hpage]
        split
        next heq => rw [heq.2]
        next => rfl
      rw [hpages]
      rfl
  | @loaded frame pool hnot =>
      have hpages : (assigned { pager with pool } pid page frame).pagesOf pid =
          insert page (pager.pagesOf pid) := by
        ext other
        rw [Finset.mem_insert, mem_pagesOf hnext, mem_pagesOf hcoherent, assigned,
          PageTables.cell_write hpid hpage]
        by_cases hsame : other = page <;> simp [hsame]
      have hfresh : page ∉ pager.pagesOf pid := by simp [mem_pagesOf hcoherent, hnot]
      rw [hpages, Finset.card_insert_of_notMem hfresh]
      simp only [Counters.record]
      omega
  | @replaced frame victim hnot _ _ hframe =>
      have hne : victim ≠ page := page_ne_of_frame hnot hframe
      have hpages : ((pager.vacated pid victim frame).assigned pid page frame).pagesOf pid =
          insert page ((pager.pagesOf pid).erase victim) := by
        ext other
        rw [Finset.mem_insert, Finset.mem_erase, mem_pagesOf hnext, mem_pagesOf hcoherent,
          cell_replaced hcoherent hframe hpage]
        by_cases hsame : other = page
        · simp [hsame]
        · by_cases hvictim : other = victim <;> simp [hsame, hvictim, hne]
      have hfresh : page ∉ (pager.pagesOf pid).erase victim := by
        simp [mem_pagesOf hcoherent, hnot]
      have hmem : victim ∈ pager.pagesOf pid := by simp [mem_pagesOf hcoherent, hframe]
      have hcard := Finset.card_erase_add_one hmem
      rw [hpages, Finset.card_insert_of_notMem hfresh]
      simp only [Counters.record]
      omega
  | starved => rfl

theorem Resolves.clock_eq (hresolves : Resolves pager pid page next resolution) :
    next.clock = pager.clock + resolution.outcome.isFrame.toNat := by
  cases hresolves <;> rfl

/-! ## The pool -/

/-- No reference brings a frame back to the pool. -/
theorem count_access_le (hcoherent : pager.Coherent none) {page : Int}
    (haccess : pager.access pid page bound = .ok (next, resolution)) :
    next.pool.count ≤ pager.pool.count := by
  rcases access_eq hcoherent pid page bound with
    ⟨-, heq⟩ | ⟨-, -, heq⟩ | ⟨-, -, after, found, hresolves, heq⟩
  all_goals obtain ⟨rfl, rfl⟩ := Prod.mk.inj (Except.ok.inj (heq.symm.trans haccess))
  · exact Nat.le_refl _
  · exact Nat.le_refl _
  · show after.pool.count ≤ pager.pool.count
    cases hresolves with
    | @loaded frame pool _ hcons =>
        show pool.count ≤ pager.pool.count
        have hlength := congrArg List.length hcons
        rw [List.length_cons, FramePool.length_toList, FramePool.length_toList] at hlength
        omega
    | hit | replaced | starved => exact Nat.le_refl _

theorem count_evacuate_eq (hcoherent : pager.Coherent none) {count : Nat}
    (hevacuate : pager.evacuate pid = .ok (next, count)) :
    next.pool.count = pager.pool.count + count := by
  obtain ⟨-, rfl, -, hreleased⟩ := released_of_evacuate hcoherent hevacuate
  rw [← FramePool.length_toList, hreleased.toList_eq]
  simp

/-! ## The ledger is kept -/

theorem countersOf_of_fresh {processes pages frames : Nat}
    (hfresh : fresh processes pages frames = .ok pager) (pid : Nat) :
    pager.countersOf pid = {} := by
  obtain ⟨-, -, -, -, -, -, -, hcounters, -⟩ := fresh_eq_ok hfresh
  rw [countersOf, hcounters, Array.getElem?_replicate]
  split <;> rfl

theorem fresh_ledger {processes pages frames : Nat}
    (hfresh : fresh processes pages frames = .ok pager) : pager.Ledger fun _ => 0 := by
  obtain ⟨-, -, -, -, -, -, hclock, -, hcells⟩ := fresh_eq_ok hfresh
  have hnone : ∀ pid, pager.pagesOf pid = ∅ := by
    intro pid
    ext page
    simp [mem_pagesOf (fresh_coherent hfresh), hcells]
  refine ⟨?_, fun pid => ?_⟩
  · simp [hclock, countersOf_of_fresh hfresh, Counters.resolved]
  · simp [countersOf_of_fresh hfresh, hnone]

namespace Ledger

/-- A known process has a reference put on record. -/
theorem record (hledger : pager.Ledger released) (hpid : pid < pager.processes)
    (hprocesses : next.processes = pager.processes)
    (hothers : ∀ other, other ≠ pid → next.countersOf other = pager.countersOf other)
    (hown : next.countersOf pid = (pager.countersOf pid).record resolution)
    (hclock : next.clock = pager.clock + resolution.outcome.isFrame.toNat)
    (hotherPages : ∀ other, other ≠ pid → next.pagesOf other = pager.pagesOf other)
    (hownPages : ∀ counters : Counters,
      (counters.record resolution).faults + (pager.pagesOf pid).card + counters.evictions =
        counters.faults + (next.pagesOf pid).card + (counters.record resolution).evictions) :
    next.Ledger released := by
  constructor
  · have hresolved : ∀ other, (next.countersOf other).resolved =
        (pager.countersOf other).resolved +
          if pid = other then resolution.outcome.isFrame.toNat else 0 := by
      intro other
      by_cases hsame : other = pid
      · rw [hsame, hown, if_pos rfl, Counters.resolved_record]
      · rw [hothers other hsame, if_neg (Ne.symm hsame), Nat.add_zero]
    rw [hclock, hledger.clock_eq, hprocesses, Finset.sum_congr rfl fun other _ => hresolved other,
      Finset.sum_add_distrib, Finset.sum_ite_eq, if_pos (Finset.mem_range.mpr hpid)]
  · intro other
    by_cases hsame : other = pid
    · have hold := hledger.faults_eq pid
      have hstep := hownPages (pager.countersOf pid)
      rw [hsame, hown]
      omega
    · rw [hothers other hsame, hotherPages other hsame]
      exact hledger.faults_eq other

theorem access (hledger : pager.Ledger released) (hcoherent : pager.Coherent none) {page : Int}
    (haccess : pager.access pid page bound = .ok (next, resolution)) : next.Ledger released := by
  obtain ⟨hothers, ⟨hpid, hown⟩ | ⟨-, rfl, -⟩⟩ := countersOf_of_access hcoherent haccess
  · have hnext := coherent_of_access hcoherent haccess
    have hotherPages : ∀ other, other ≠ pid → next.pagesOf other = pager.pagesOf other :=
      fun other hne => (access_custody hcoherent haccess).1.pagesOf_eq hcoherent hnext.1 hne
    have hstep : next.clock = pager.clock + resolution.outcome.isFrame.toNat ∧
        ∀ counters : Counters,
          (counters.record resolution).faults + (pager.pagesOf pid).card + counters.evictions =
            counters.faults + (next.pagesOf pid).card +
              (counters.record resolution).evictions := by
      rcases access_eq hcoherent pid page bound with
        ⟨hle, -⟩ | ⟨-, -, heq⟩ | ⟨-, hwithin, after, found, hresolves, heq⟩
      · exact absurd hpid (Nat.not_lt.mpr hle)
      · obtain ⟨rfl, rfl⟩ := Prod.mk.inj (Except.ok.inj (heq.symm.trans haccess))
        exact ⟨rfl, fun _ => rfl⟩
      · obtain ⟨rfl, rfl⟩ := Prod.mk.inj (Except.ok.inj (heq.symm.trans haccess))
        exact ⟨hresolves.clock_eq,
          hresolves.card_pagesOf hcoherent hpid (toNat_lt_of_isWithin hwithin)⟩
    exact hledger.record hpid hnext.2.processes_eq hothers hown hstep.1 hotherPages hstep.2
  · exact hledger

/-- The frames of an evacuation are given back. -/
theorem evacuate (hledger : pager.Ledger released) (hcoherent : pager.Coherent none) {count : Nat}
    (hevacuate : pager.evacuate pid = .ok (next, count)) :
    next.Ledger (Function.update released pid (released pid + count)) := by
  obtain ⟨-, rfl, hnext, hreleased⟩ := released_of_evacuate hcoherent hevacuate
  have hcounters := countersOf_of_evacuate hcoherent hevacuate
  have hnone : next.pagesOf pid = ∅ := by
    ext page
    rw [mem_pagesOf hnext, hreleased.cell_eq]
    by_cases hmem : page ∈ (pager.tables.row pid).resident.map Prod.fst
    · simp [hmem]
    · have hframe : (pager.tables.cell pid page).frame.isSome = false := by
        rw [← Bool.not_eq_true, ← mem_pagesOf hcoherent, pagesOf, List.mem_toFinset]
        exact hmem
      simpa [hmem] using hframe
  constructor
  · rw [hreleased.clock_eq, hledger.clock_eq, hreleased.sameShape.processes_eq]
    exact Finset.sum_congr rfl fun other _ => by rw [hcounters]
  · intro other
    rw [hcounters, hledger.faults_eq]
    by_cases hsame : other = pid
    · subst hsame
      rw [hnone, Function.update_self, card_pagesOf, Finset.card_empty]
      omega
    · rw [Function.update_of_ne hsame, hreleased.spares.pagesOf_eq hcoherent hnext hsame]

end Ledger

end Pager

end DemandPaging
