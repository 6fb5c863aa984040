import DemandPaging.Proofs.Pager.Conservation

/-!
# Custody of frames

A call for one process leaves the entries and the counters of all others as they are. A
process that holds a frame goes on to hold it, be it for another of its pages, until it is
evacuated.
-/

namespace DemandPaging.Pager

/-- The frame backs some page of the process. -/
def Holds (pager : Pager) (pid frame : Nat) : Prop := ∃ page, pager.Backs frame pid page

/-- Nothing has changed in the entries and the counters of processes other than `pid`. -/
structure Spares (pid : Nat) (pager next : Pager) : Prop where
  cell_eq : ∀ other, other ≠ pid → next.tables.cell other = pager.tables.cell other
  counters_eq : ∀ other, other ≠ pid → next.counters[other]? = pager.counters[other]?

variable {pager next : Pager} {pid other page frame : Nat} {bound : Int}
  {resolution : Resolution}

theorem Coherent.holds_iff (hcoherent : pager.Coherent none) :
    pager.Holds pid frame ↔ ∃ page, (pager.tables.cell pid page).frame = some frame :=
  exists_congr fun _ => hcoherent.backs_iff

/-- No frame is held by two processes. -/
theorem Coherent.holds_inj (hcoherent : pager.Coherent none) (hholds : pager.Holds pid frame)
    (hother : pager.Holds other frame) : pid = other := by
  obtain ⟨page, hpage⟩ := hcoherent.holds_iff.mp hholds
  obtain ⟨otherPage, hotherPage⟩ := hcoherent.holds_iff.mp hother
  exact (hcoherent.frame_inj hpage hotherPage).1

/-! ## Other processes -/

namespace Spares

theorem refl (pid : Nat) (pager : Pager) : Spares pid pager pager :=
  ⟨fun _ _ => rfl, fun _ _ => rfl⟩

theorem tally (hspares : Spares pid pager next) (update : Counters → Counters) :
    Spares pid pager (next.tally pid update) := by
  refine ⟨hspares.cell_eq, fun other hother => ?_⟩
  simp only [Pager.tally, Array.getElem?_modify, if_neg (Ne.symm hother)]
  exact hspares.counters_eq other hother

/-- The whole table of another process is the same. -/
theorem tableOf_eq (hspares : Spares pid pager next) (hshape : pager.SameShape next)
    (hne : other ≠ pid) : next.tables.tableOf other = pager.tables.tableOf other := by
  have hprocesses : next.tables.processes = pager.tables.processes := hshape.processes_eq
  by_cases hother : other < pager.tables.processes
  · rw [PageTables.tableOf_of_lt hother, PageTables.tableOf_of_lt (hprocesses ▸ hother),
      PageTables.row, PageTables.row, hshape.pages_eq, hspares.cell_eq other hne]
  · have hle := Nat.le_of_not_lt hother
    rw [PageTables.tableOf_of_le hle, PageTables.tableOf_of_le (hprocesses ▸ hle), hprocesses]

theorem holds (hspares : Spares pid pager next) (hcoherent : pager.Coherent none)
    (hnext : next.Coherent none) (hne : other ≠ pid) (hholds : pager.Holds other frame) :
    next.Holds other frame := by
  rw [hcoherent.holds_iff] at hholds
  rwa [hnext.holds_iff, hspares.cell_eq other hne]

end Spares

/-! ## References -/

theorem cell_replaced {victim : Nat} (hcoherent : pager.Coherent none)
    (hframe : (pager.tables.cell pid victim).frame = some frame)
    (hpage : page < pager.tables.pages) (otherPid otherPage : Nat) :
    ((pager.vacated pid victim frame).assigned pid page frame).tables.cell otherPid otherPage =
      if otherPid = pid ∧ otherPage = page then
        { frame := some frame, valid := true, lastUsed := pager.clock + 1 }
      else if otherPid = pid ∧ otherPage = victim then
        { pager.tables.cell pid victim with frame := none, valid := false }
      else pager.tables.cell otherPid otherPage := by
  have hpid : pid < (pager.vacated pid victim frame).processes := by
    simpa [processes, vacated] using hcoherent.pid_lt hframe
  have hpageAfter : page < (pager.vacated pid victim frame).tables.pages := by
    simpa [vacated] using hpage
  simp only [assigned, PageTables.cell_write hpid hpageAfter, cell_vacated hcoherent hframe]
  rfl

theorem page_ne_of_frame {old : Nat} (hnot : (pager.tables.cell pid page).frame = none)
    (hold : (pager.tables.cell pid old).frame = some frame) : old ≠ page := by
  rintro rfl
  exact absurd (hnot.symm.trans hold) (by simp)

namespace Resolves

theorem spares (hresolves : Resolves pager pid page next resolution)
    (hcoherent : pager.Coherent none) (hpid : pid < pager.processes)
    (hpage : page < pager.tables.pages) : Spares pid pager next := by
  cases hresolves with
  | hit | loaded =>
      exact ⟨fun _ hother => PageTables.cell_write_of_ne hpid hpage hother, fun _ _ => rfl⟩
  | replaced _ _ _ hframe =>
      refine ⟨fun other hother => ?_, fun _ _ => rfl⟩
      funext otherPage
      simp [cell_replaced hcoherent hframe hpage, hother]
  | starved => exact .refl pid pager

/-- The frame of the answer backs the page from then on. -/
theorem frame_eq (hresolves : Resolves pager pid page next resolution)
    (hcoherent : pager.Coherent none) (hpid : pid < pager.processes)
    (hpage : page < pager.tables.pages) (hframe : resolution.outcome = .frame frame) :
    (next.tables.cell pid page).frame = some frame := by
  cases hresolves with
  | hit hold =>
      obtain rfl := Outcome.frame.inj hframe
      simpa [touched, PageTables.cell_write hpid hpage] using hold
  | loaded =>
      obtain rfl := Outcome.frame.inj hframe
      simp [assigned, PageTables.cell_write hpid hpage]
  | replaced _ _ _ hold =>
      obtain rfl := Outcome.frame.inj hframe
      simp [cell_replaced hcoherent hold hpage]
  | starved => exact absurd hframe (by simp [Resolution.outcome])

/-- A frame that backs a page of the process stays there, or goes to the page that was
referred to. -/
theorem exists_frame_eq (hresolves : Resolves pager pid page next resolution)
    (hcoherent : pager.Coherent none) (hpid : pid < pager.processes)
    (hpage : page < pager.tables.pages) {old : Nat}
    (hold : (pager.tables.cell pid old).frame = some frame) :
    ∃ now, (next.tables.cell pid now).frame = some frame := by
  cases hresolves with
  | hit =>
      refine ⟨old, ?_⟩
      simp only [touched, PageTables.cell_write hpid hpage]
      split
      next heq => simpa [← heq.2] using hold
      next => exact hold
  | loaded hnot =>
      have hne := page_ne_of_frame hnot hold
      exact ⟨old, by simpa [assigned, PageTables.cell_write hpid hpage, hne] using hold⟩
  | @replaced taken victim hnot _ _ hvictim =>
      by_cases heq : old = victim
      · subst heq
        obtain rfl := Option.some.inj (hvictim.symm.trans hold)
        exact ⟨page, by simp [cell_replaced hcoherent hold hpage]⟩
      · have hne := page_ne_of_frame hnot hold
        exact ⟨old, by simpa [cell_replaced hcoherent hvictim hpage, heq, hne] using hold⟩
  | starved => exact ⟨old, hold⟩

end Resolves

/-- What a reference does with frames: the other processes keep all they have, the process
itself keeps its frames, and it holds the frame of the answer. -/
theorem access_custody (hcoherent : pager.Coherent none) {page : Int}
    (haccess : pager.access pid page bound = .ok (next, resolution)) :
    Spares pid pager next ∧ (∀ frame, pager.Holds pid frame → next.Holds pid frame) ∧
      ∀ frame, resolution.outcome = .frame frame → next.Holds pid frame := by
  have hnext := (coherent_of_access hcoherent haccess).1
  have hillegal : ∀ frame, Resolution.illegal.outcome ≠ .frame frame := by
    simp [Resolution.outcome]
  rcases access_eq hcoherent pid page bound with
    ⟨-, heq⟩ | ⟨-, -, heq⟩ | ⟨hpid, hwithin, after, found, hresolves, heq⟩
  · obtain ⟨rfl, rfl⟩ := Prod.mk.inj (Except.ok.inj (heq.symm.trans haccess))
    exact ⟨.refl pid pager, fun _ => id, fun frame houtcome => absurd houtcome (hillegal frame)⟩
  · obtain ⟨rfl, rfl⟩ := Prod.mk.inj (Except.ok.inj (heq.symm.trans haccess))
    exact ⟨(Spares.refl pid pager).tally _, fun _ => id,
      fun frame houtcome => absurd houtcome (hillegal frame)⟩
  · obtain ⟨rfl, rfl⟩ := Prod.mk.inj (Except.ok.inj (heq.symm.trans haccess))
    have hpage := toNat_lt_of_isWithin hwithin
    refine ⟨(hresolves.spares hcoherent hpid hpage).tally _, ?_, ?_⟩
    · intro frame hholds
      obtain ⟨old, hold⟩ := hcoherent.holds_iff.mp hholds
      exact hnext.holds_iff.mpr (hresolves.exists_frame_eq hcoherent hpid hpage hold)
    · intro frame houtcome
      exact hnext.holds_iff.mpr ⟨_, hresolves.frame_eq hcoherent hpid hpage houtcome⟩

/-! ## Evacuations -/

theorem Released.spares {pages : List (Nat × Nat)} (hreleased : pager.Released pid pages next) :
    Spares pid pager next := by
  refine ⟨fun other hother => ?_, fun _ _ => by rw [hreleased.counters_eq]⟩
  funext page
  simp [hreleased.cell_eq, hother]

theorem spares_of_evacuate (hcoherent : pager.Coherent none) {count : Nat}
    (hevacuate : pager.evacuate pid = .ok (next, count)) : Spares pid pager next :=
  (released_of_evacuate hcoherent hevacuate).2.2.2.spares

end DemandPaging.Pager
