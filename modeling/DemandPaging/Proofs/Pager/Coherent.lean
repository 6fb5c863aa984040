import DemandPaging.Pager.Basic
import DemandPaging.Proofs.Frame.Queue
import DemandPaging.Proofs.PageTable.Victim

/-!
# Coherent pagers

The tables, the pool and the owner records of a pager tell one story: a frame is
free and without an owner, or it backs the one page that its owner record names.
Between two steps of one operation a frame can be in transit, neither free nor
owned. The operations move frames along that way and never fail over it.
-/

namespace DemandPaging.Pager

/-- The three accounts of the frames agree. A `loose` frame is in transit. -/
structure Coherent (pager : Pager) (loose : Option Nat) : Prop where
  pool_sound : pager.pool.Sound
  owners_size : pager.owners.size = pager.pool.total
  counters_size : pager.counters.size = pager.processes
  valid_eq : ∀ pid page,
    (pager.tables.cell pid page).valid = (pager.tables.cell pid page).frame.isSome
  owner_iff : ∀ frame pid page, pager.owners[frame]? = some (some ⟨pid, page⟩) ↔
    (pager.tables.cell pid page).frame = some frame
  unowned_iff : ∀ frame, pager.owners[frame]? = some none ↔
    frame ∈ pager.pool.toList ∨ loose = some frame
  loose_not_free : ∀ frame, loose = some frame → frame ∉ pager.pool.toList

/-- The pager after `frame` was given to a page. -/
def assigned (pager : Pager) (pid page frame : Nat) : Pager :=
  { pager with
    tables := pager.tables.write pid page
      { frame := some frame, valid := true, lastUsed := pager.clock + 1 }
    owners := pager.owners.setIfInBounds frame (some ⟨pid, page⟩)
    clock := pager.clock + 1 }

/-- The pager after `frame` was taken away from the page that it backed. -/
def vacated (pager : Pager) (pid page frame : Nat) : Pager :=
  { pager with
    tables := pager.tables.write pid page
      { pager.tables.cell pid page with frame := none, valid := false }
    owners := pager.owners.setIfInBounds frame none }

/-- The pager after the use of a resident page. -/
def touched (pager : Pager) (pid page : Nat) : Pager :=
  { pager with
    tables := pager.tables.write pid page
      { pager.tables.cell pid page with lastUsed := pager.clock + 1 }
    clock := pager.clock + 1 }

namespace Coherent

variable {pager : Pager} {loose : Option Nat} {pid page frame : Nat}

theorem residentFrame?_eq (hcoherent : pager.Coherent loose) :
    (pager.tables.cell pid page).residentFrame? = (pager.tables.cell pid page).frame := by
  have hvalid := hcoherent.valid_eq pid page
  unfold Entry.residentFrame?
  cases hframe : (pager.tables.cell pid page).frame <;> simp_all

theorem valid_of_frame (hcoherent : pager.Coherent loose)
    (hframe : (pager.tables.cell pid page).frame = some frame) :
    (pager.tables.cell pid page).valid = true := by
  rw [hcoherent.valid_eq, hframe]
  rfl

theorem pid_lt (hcoherent : pager.Coherent loose)
    (hframe : (pager.tables.cell pid page).frame = some frame) : pid < pager.processes :=
  PageTables.pid_lt_of_valid (hcoherent.valid_of_frame hframe)

theorem page_lt (hcoherent : pager.Coherent loose)
    (hframe : (pager.tables.cell pid page).frame = some frame) : page < pager.tables.pages :=
  PageTables.page_lt_of_valid (hcoherent.valid_of_frame hframe)

theorem frame_lt (hcoherent : pager.Coherent loose)
    (hframe : (pager.tables.cell pid page).frame = some frame) : frame < pager.pool.total := by
  have howner := (hcoherent.owner_iff frame pid page).mpr hframe
  rw [← hcoherent.owners_size]
  exact (Array.getElem?_eq_some_iff.mp howner).1

/-- A frame backs one page only. -/
theorem frame_inj (hcoherent : pager.Coherent loose) {otherPid otherPage : Nat}
    (hframe : (pager.tables.cell pid page).frame = some frame)
    (hother : (pager.tables.cell otherPid otherPage).frame = some frame) :
    pid = otherPid ∧ page = otherPage := by
  have howner := (hcoherent.owner_iff frame pid page).mpr hframe
  rw [(hcoherent.owner_iff frame otherPid otherPage).mpr hother] at howner
  simpa [eq_comm] using howner

/-- A frame without an owner backs no page. -/
theorem frame_ne_of_unowned (hcoherent : pager.Coherent loose)
    (hunowned : pager.owners[frame]? = some none) :
    (pager.tables.cell pid page).frame ≠ some frame := by
  intro hframe
  rw [(hcoherent.owner_iff frame pid page).mpr hframe] at hunowned
  exact absurd hunowned (by simp)

theorem tally (hcoherent : pager.Coherent loose) (update : Counters → Counters) :
    (pager.tally pid update).Coherent loose where
  pool_sound := hcoherent.pool_sound
  owners_size := hcoherent.owners_size
  counters_size := by
    change (pager.counters.modify pid update).size = pager.processes
    rw [Array.size_modify]
    exact hcoherent.counters_size
  valid_eq := hcoherent.valid_eq
  owner_iff := hcoherent.owner_iff
  unowned_iff := hcoherent.unowned_iff
  loose_not_free := hcoherent.loose_not_free

/-! ## Using a page -/

theorem touched (hcoherent : pager.Coherent none)
    (hframe : (pager.tables.cell pid page).frame = some frame) :
    (pager.touched pid page).Coherent none := by
  have hcell : ∀ q r, ((pager.touched pid page).tables.cell q r).frame =
        (pager.tables.cell q r).frame ∧
      ((pager.touched pid page).tables.cell q r).valid = (pager.tables.cell q r).valid := by
    intro q r
    simp only [Pager.touched,
      PageTables.cell_write (hcoherent.pid_lt hframe) (hcoherent.page_lt hframe)]
    split
    next heq =>
      obtain ⟨rfl, rfl⟩ := heq
      exact ⟨rfl, rfl⟩
    next => exact ⟨rfl, rfl⟩
  refine ⟨hcoherent.pool_sound, hcoherent.owners_size, ?_, ?_, ?_, hcoherent.unowned_iff,
    hcoherent.loose_not_free⟩
  · simpa [Pager.touched, processes] using hcoherent.counters_size
  · intro q r
    rw [(hcell q r).1, (hcell q r).2]
    exact hcoherent.valid_eq q r
  · intro other q r
    rw [(hcell q r).1]
    exact hcoherent.owner_iff other q r

/-! ## Frames in transit -/

theorem assign_eq (hcoherent : pager.Coherent (some frame)) (hpid : pid < pager.processes)
    (hpage : page < pager.tables.pages) :
    pager.assign pid page frame = .ok (pager.assigned pid page frame) := by
  have howner : pager.owners[frame]? = some none := (hcoherent.unowned_iff frame).mpr (.inr rfl)
  simp only [assign, howner, PageTables.load_of_lt hpid hpage]
  rfl

/-- A loose frame settles at a page that was not resident. -/
theorem assigned (hcoherent : pager.Coherent (some frame)) (hpid : pid < pager.processes)
    (hpage : page < pager.tables.pages) (hnot : (pager.tables.cell pid page).frame = none) :
    (pager.assigned pid page frame).Coherent none := by
  have howner : pager.owners[frame]? = some none := (hcoherent.unowned_iff frame).mpr (.inr rfl)
  have hinside : frame < pager.owners.size := (Array.getElem?_eq_some_iff.mp howner).1
  have hfree := hcoherent.loose_not_free frame rfl
  refine ⟨hcoherent.pool_sound, ?_, ?_, ?_, ?_, ?_, by simp⟩
  · simpa [Pager.assigned] using hcoherent.owners_size
  · simpa [Pager.assigned, processes] using hcoherent.counters_size
  · intro q r
    simp only [Pager.assigned, PageTables.cell_write hpid hpage]
    split
    next => rfl
    next => exact hcoherent.valid_eq q r
  · intro other q r
    have hold := hcoherent.owner_iff other q r
    simp only [Pager.assigned, PageTables.cell_write hpid hpage, Array.getElem?_setIfInBounds]
    by_cases hsame : frame = other
    · subst hsame
      -- The loose frame backed no page before, so it backs this one only.
      have hne : (pager.tables.cell q r).frame ≠ some frame :=
        hcoherent.frame_ne_of_unowned howner
      by_cases heq : q = pid ∧ r = page
      · simp [heq, hinside]
      · simp only [if_pos, hinside, if_neg heq, hne, iff_false]
        simpa [eq_comm] using heq
    · rw [if_neg hsame, hold]
      split
      next heq =>
        obtain ⟨rfl, rfl⟩ := heq
        simp [hnot, hsame]
      next => rfl
  · intro other
    simp only [Pager.assigned, Array.getElem?_setIfInBounds]
    by_cases hsame : frame = other
    · subst hsame
      simp [hinside, hfree]
    · simp [hsame, hcoherent.unowned_iff other]

theorem vacate_eq (hcoherent : pager.Coherent loose)
    (hframe : (pager.tables.cell pid page).frame = some frame) :
    pager.vacate pid page = .ok (frame, pager.vacated pid page frame) := by
  have howner := (hcoherent.owner_iff frame pid page).mpr hframe
  simp only [vacate, PageTables.unload_of_lt (hcoherent.pid_lt hframe) (hcoherent.page_lt hframe),
    hcoherent.residentFrame?_eq, hframe, MemoryFault.orFail, Except.mapError, bind, Except.bind,
    howner, if_true]
  rfl

/-- A page that gives up its frame leaves the frame loose. -/
theorem vacated (hcoherent : pager.Coherent none)
    (hframe : (pager.tables.cell pid page).frame = some frame) :
    (pager.vacated pid page frame).Coherent (some frame) := by
  have hpid := hcoherent.pid_lt hframe
  have hpage := hcoherent.page_lt hframe
  have howner := (hcoherent.owner_iff frame pid page).mpr hframe
  have hinside : frame < pager.owners.size := (Array.getElem?_eq_some_iff.mp howner).1
  refine ⟨hcoherent.pool_sound, ?_, ?_, ?_, ?_, ?_, ?_⟩
  · simpa [Pager.vacated] using hcoherent.owners_size
  · simpa [Pager.vacated, processes] using hcoherent.counters_size
  · intro q r
    simp only [Pager.vacated, PageTables.cell_write hpid hpage]
    split
    next => rfl
    next => exact hcoherent.valid_eq q r
  · intro other q r
    have hold := hcoherent.owner_iff other q r
    simp only [Pager.vacated, PageTables.cell_write hpid hpage, Array.getElem?_setIfInBounds]
    by_cases hsame : frame = other
    · subst hsame
      simp only [if_pos, hinside]
      split
      next => simp
      next hne =>
        simp only [Option.some.injEq, reduceCtorEq, false_iff]
        intro hother
        -- No other page can still be backed by the frame.
        obtain ⟨rfl, rfl⟩ := hcoherent.frame_inj hframe hother
        exact hne ⟨rfl, rfl⟩
    · rw [if_neg hsame, hold]
      split
      next heq =>
        obtain ⟨rfl, rfl⟩ := heq
        simp [hframe, hsame]
      next => rfl
  · intro other
    simp only [Pager.vacated, Array.getElem?_setIfInBounds, Option.some.injEq]
    by_cases hsame : frame = other
    · subst hsame
      simp [hinside]
    · simp [hsame, hcoherent.unowned_iff other]
  · intro other hother
    obtain rfl := Option.some.inj hother
    intro hfree
    rw [(hcoherent.unowned_iff frame).mpr (.inl hfree)] at howner
    exact absurd howner (by simp)

/-- The first free frame leaves the pool and is loose. -/
theorem take (hcoherent : pager.Coherent none) {rest : List Nat}
    (hcons : pager.pool.toList = frame :: rest) :
    ∃ pool, pager.pool.take? = some (frame, pool) ∧ pool.toList = rest ∧
      pool.total = pager.pool.total ∧ Coherent { pager with pool } (some frame) := by
  obtain ⟨pool, htake, hrest, htotal, hsound⟩ :=
    FramePool.take?_of_cons hcoherent.pool_sound hcons
  have hnodup := hcoherent.pool_sound.nodup
  rw [hcons, List.nodup_cons] at hnodup
  refine ⟨pool, htake, hrest, htotal, hsound, ?_, hcoherent.counters_size, hcoherent.valid_eq,
    hcoherent.owner_iff, ?_, ?_⟩
  · rw [htotal]
    exact hcoherent.owners_size
  · intro other
    rw [hcoherent.unowned_iff other, hcons, hrest]
    simp [or_comm, eq_comm]
  · intro other hother
    obtain rfl := Option.some.inj hother
    rw [hrest]
    exact hnodup.1

/-- A loose frame returns to the end of the pool. -/
theorem release (hcoherent : pager.Coherent (some frame)) :
    ∃ pool, pager.pool.giveBack frame = .ok pool ∧ pool.toList = pager.pool.toList ++ [frame] ∧
      pool.total = pager.pool.total ∧ Coherent { pager with pool } none := by
  have howner : pager.owners[frame]? = some none := (hcoherent.unowned_iff frame).mpr (.inr rfl)
  have hinside : frame < pager.pool.total := by
    rw [← hcoherent.owners_size]
    exact (Array.getElem?_eq_some_iff.mp howner).1
  obtain ⟨pool, hgive, hlist, htotal, hsound⟩ := FramePool.giveBack_of_not_mem
    hcoherent.pool_sound hinside (hcoherent.loose_not_free frame rfl)
  refine ⟨pool, hgive, hlist, htotal, hsound, ?_, hcoherent.counters_size, hcoherent.valid_eq,
    hcoherent.owner_iff, ?_, by simp⟩
  · rw [htotal]
    exact hcoherent.owners_size
  · intro other
    rw [hcoherent.unowned_iff other, hlist]
    simp [eq_comm]

end Coherent

end DemandPaging.Pager
