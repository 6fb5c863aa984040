import DemandPaging.Proofs.Pager.Coherent

/-!
# What the operations of a pager do

`Resolves` lists the ways in which a reference to a legal page can go, each with
the pager afterwards; `Evacuated` says what is left when a process has given
back its frames. Both operations keep a pager coherent and its dimensions fixed.
-/

namespace DemandPaging

/-- The counters with one more reference that was resolved in the given way. -/
def Counters.record (counters : Counters) : Resolution → Counters
  | .illegal => { counters with illegal := counters.illegal + 1 }
  | .hit _ => { counters with hits := counters.hits + 1 }
  | .loaded _ => { counters with faults := counters.faults + 1 }
  | .replaced _ _ =>
    { counters with faults := counters.faults + 1, evictions := counters.evictions + 1 }
  | .starved => { counters with starved := counters.starved + 1 }

theorem signedWord_le (n : Nat) : signedWord n ≤ n := by
  unfold signedWord Int.bmod
  simp only [wordCount]
  omega

theorem isWithin_iff {page bound : Int} :
    isWithin page bound = true ↔ 0 ≤ page ∧ page < bound := by
  simp [isWithin]

namespace Pager

/-- The ways in which a reference to a legal page is resolved, with the pager
afterwards but for its counters. -/
inductive Resolves (pager : Pager) (pid page : Nat) : Pager → Resolution → Prop where
  | hit {frame : Nat} (hframe : (pager.tables.cell pid page).frame = some frame) :
      Resolves pager pid page (pager.touched pid page) (.hit frame)
  | loaded {frame : Nat} {pool : FramePool} (hnot : (pager.tables.cell pid page).frame = none)
      (hcons : pager.pool.toList = frame :: pool.toList)
      (htotal : pool.total = pager.pool.total)
      (hloose : Coherent { pager with pool } (some frame)) :
      Resolves pager pid page (assigned { pager with pool } pid page frame) (.loaded frame)
  | replaced {frame victim : Nat} (hnot : (pager.tables.cell pid page).frame = none)
      (hnil : pager.pool.toList = [])
      (hvictim : (pager.tables.row pid).leastRecent? = some victim)
      (hframe : (pager.tables.cell pid victim).frame = some frame) :
      Resolves pager pid page ((pager.vacated pid victim frame).assigned pid page frame)
        (.replaced frame victim)
  | starved (hnil : pager.pool.toList = [])
      (hnone : ∀ other, (pager.tables.cell pid other).frame = none) :
      Resolves pager pid page pager .starved

/-- Neither dimension of the tables nor the number of frames has changed. -/
structure SameShape (pager next : Pager) : Prop where
  processes_eq : next.processes = pager.processes
  pages_eq : next.tables.pages = pager.tables.pages
  frames_eq : next.pool.total = pager.pool.total

theorem SameShape.refl (pager : Pager) : pager.SameShape pager := ⟨rfl, rfl, rfl⟩

theorem SameShape.trans {pager next last : Pager} (hnext : pager.SameShape next)
    (hlast : next.SameShape last) : pager.SameShape last where
  processes_eq := hlast.processes_eq.trans hnext.processes_eq
  pages_eq := hlast.pages_eq.trans hnext.pages_eq
  frames_eq := hlast.frames_eq.trans hnext.frames_eq

variable {pager next : Pager} {pid page frame : Nat} {resolution : Resolution}

/-! ## Legal references -/

theorem cell_vacated (hcoherent : pager.Coherent none)
    (hframe : (pager.tables.cell pid page).frame = some frame) (otherPid otherPage : Nat) :
    (pager.vacated pid page frame).tables.cell otherPid otherPage =
      if otherPid = pid ∧ otherPage = page then
        { pager.tables.cell pid page with frame := none, valid := false }
      else pager.tables.cell otherPid otherPage :=
  PageTables.cell_write (hcoherent.pid_lt hframe) (hcoherent.page_lt hframe) _ _ _

/-- A legal reference is resolved in one of the four ways and never fails. -/
theorem accessLegal_eq (hcoherent : pager.Coherent none) (hpid : pid < pager.processes)
    (hpage : page < pager.tables.pages) :
    ∃ next resolution, Resolves pager pid page next resolution ∧
      pager.accessLegal pid page =
        .ok (next.tally pid (·.record resolution), resolution) := by
  have hvalid := hcoherent.valid_eq pid page
  have hentry : MemoryFault.orFail (pager.tables.entryAt pid page) =
      .ok (pager.tables.cell pid page) := by
    rw [PageTables.entryAt_of_lt hpid hpage]
    rfl
  cases hframe : (pager.tables.cell pid page).frame with
  | some frame =>
      refine ⟨_, _, .hit hframe, ?_⟩
      have htrue := hcoherent.valid_of_frame hframe
      simp only [accessLegal, hentry, bind, Except.bind, htrue, if_true, hframe, touched,
        PageTables.recordUse_of_valid hpid hpage htrue]
      rfl
  | none =>
      rw [hframe] at hvalid
      have hfalse : (pager.tables.cell pid page).valid = false := hvalid
      -- A fault: first the pool is asked for a frame, then the process itself.
      cases hpool : pager.pool.toList with
      | cons frame rest =>
          obtain ⟨pool, htake, rfl, htotal, hloose⟩ := hcoherent.take hpool
          refine ⟨_, _, .loaded hframe hpool htotal hloose, ?_⟩
          simp only [accessLegal, hentry, bind, Except.bind, hfalse, Bool.false_eq_true, if_false,
            htake, hloose.assign_eq hpid hpage]
          rfl
      | nil =>
          have hvictims : MemoryFault.orFail (pager.tables.leastRecent? pid) =
              .ok (pager.tables.row pid).leastRecent? := by
            rw [PageTables.leastRecent?_of_lt hpid]
            rfl
          cases hvictim : (pager.tables.row pid).leastRecent? with
          | none =>
              refine ⟨_, _, .starved hpool ?_, ?_⟩
              · intro other
                have hother := PageTables.leastRecent?_row_eq_none_iff.mp hvictim other
                rw [hcoherent.valid_eq] at hother
                simpa using hother
              · simp only [accessLegal, hentry, bind, Except.bind, hfalse, Bool.false_eq_true,
                  if_false, FramePool.take?_of_nil hpool, hvictims, hvictim]
                rfl
          | some victim =>
              have hused := (PageTables.valid_of_leastRecent?_row hvictim).1
              rw [hcoherent.valid_eq] at hused
              obtain ⟨frame, hvictimFrame⟩ := Option.isSome_iff_exists.mp hused
              refine ⟨_, _, .replaced hframe hpool hvictim hvictimFrame, ?_⟩
              -- The frame of the victim is loose between the two writes.
              have hpidAfter : pid < (pager.vacated pid victim frame).processes := by
                simpa [processes, vacated] using hpid
              have hpageAfter : page < (pager.vacated pid victim frame).tables.pages := by
                simpa [vacated] using hpage
              simp only [accessLegal, hentry, bind, Except.bind, hfalse, Bool.false_eq_true,
                if_false, FramePool.take?_of_nil hpool, hvictims, hvictim,
                hcoherent.vacate_eq hvictimFrame,
                (hcoherent.vacated hvictimFrame).assign_eq hpidAfter hpageAfter]
              rfl

namespace Resolves

theorem sameShape (hresolves : Resolves pager pid page next resolution) :
    pager.SameShape next := by
  cases hresolves with
  | hit => exact ⟨PageTables.processes_write _, PageTables.pages_write _, rfl⟩
  | loaded _ _ htotal =>
      exact ⟨PageTables.processes_write _, PageTables.pages_write _, htotal⟩
  | replaced =>
      exact ⟨(PageTables.processes_write _).trans (PageTables.processes_write _),
        (PageTables.pages_write _).trans (PageTables.pages_write _), rfl⟩
  | starved => exact .refl pager

theorem coherent (hresolves : Resolves pager pid page next resolution)
    (hcoherent : pager.Coherent none) (hpid : pid < pager.processes)
    (hpage : page < pager.tables.pages) : next.Coherent none := by
  cases hresolves with
  | hit hframe => exact hcoherent.touched hframe
  | loaded hnot _ _ hloose => exact hloose.assigned hpid hpage hnot
  | replaced hnot _ _ hframe =>
      apply (hcoherent.vacated hframe).assigned
      · simpa [processes, vacated] using hpid
      · simpa [vacated] using hpage
      · rw [cell_vacated hcoherent hframe]
        split
        next => rfl
        next => exact hnot
  | starved => exact hcoherent

end Resolves

/-! ## All references -/

theorem isWithin_limit_iff (hpages : pager.tables.pages < halfWordCount) {page bound : Int} :
    isWithin page (pager.limit bound) = true ↔
      0 ≤ page ∧ page < min bound pager.tables.pages := by
  rw [isWithin_iff, limit, signedWord_of_lt hpages]

/-- A page within the limit has an entry in the table. -/
theorem toNat_lt_of_isWithin {page bound : Int}
    (hwithin : isWithin page (pager.limit bound) = true) :
    page.toNat < pager.tables.pages := by
  have hword := signedWord_le pager.tables.pages
  rw [isWithin_iff, limit] at hwithin
  omega

/-- A reference is turned down, without effect if the process is unknown, or it
is resolved as a reference to a legal page. -/
theorem access_eq (hcoherent : pager.Coherent none) (pid : Nat) (page bound : Int) :
    (pager.processes ≤ pid ∧ pager.access pid page bound = .ok (pager, .illegal)) ∨
    (pid < pager.processes ∧ isWithin page (pager.limit bound) = false ∧
      pager.access pid page bound =
        .ok (pager.tally pid (·.record .illegal), .illegal)) ∨
    (pid < pager.processes ∧ isWithin page (pager.limit bound) = true ∧
      ∃ next resolution, Resolves pager pid page.toNat next resolution ∧
        pager.access pid page bound =
          .ok (next.tally pid (·.record resolution), resolution)) := by
  by_cases hpid : pid < pager.processes
  · cases hwithin : isWithin page (pager.limit bound) with
    | false =>
        refine .inr (.inl ⟨hpid, rfl, ?_⟩)
        simp only [access, hpid, if_true, hwithin, Bool.false_eq_true, if_false]
        rfl
    | true =>
        obtain ⟨next, resolution, hresolves, heq⟩ :=
          accessLegal_eq hcoherent hpid (toNat_lt_of_isWithin hwithin)
        refine .inr (.inr ⟨hpid, rfl, next, resolution, hresolves, ?_⟩)
        simp only [access, hpid, if_true, hwithin]
        exact heq
  · refine .inl ⟨Nat.le_of_not_lt hpid, ?_⟩
    simp only [access, hpid, if_false]

theorem sameShape_tally (update : Counters → Counters) :
    pager.SameShape (pager.tally pid update) := ⟨rfl, rfl, rfl⟩

/-- A reference to a coherent pager never fails and leaves a coherent pager. -/
theorem access_coherent (hcoherent : pager.Coherent none) (pid : Nat) (page bound : Int) :
    ∃ next resolution, pager.access pid page bound = .ok (next, resolution) ∧
      next.Coherent none ∧ pager.SameShape next := by
  rcases access_eq hcoherent pid page bound with
    ⟨-, heq⟩ | ⟨-, -, heq⟩ | ⟨hpid, hwithin, next, resolution, hresolves, heq⟩
  · exact ⟨_, _, heq, hcoherent, .refl pager⟩
  · exact ⟨_, _, heq, hcoherent.tally _, sameShape_tally _⟩
  · have hnext := hresolves.coherent hcoherent hpid (toNat_lt_of_isWithin hwithin)
    exact ⟨_, _, heq, hnext.tally _, hresolves.sameShape.trans (sameShape_tally _)⟩

theorem sameShape_of_access (hcoherent : pager.Coherent none) {page bound : Int}
    (haccess : pager.access pid page bound = .ok (next, resolution)) : pager.SameShape next := by
  obtain ⟨other, _, heq, -, hshape⟩ := access_coherent hcoherent pid page bound
  rw [heq] at haccess
  obtain ⟨rfl, -⟩ := Prod.mk.inj (Except.ok.inj haccess)
  exact hshape

end Pager

end DemandPaging
