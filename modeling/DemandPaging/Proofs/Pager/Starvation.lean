import DemandPaging.Proofs.Pager.Custody
import DemandPaging.Proofs.Pager.References

/-!
# Starvation

A legal reference starves exactly if the other processes hold all frames. As long as no
process is evacuated, a process that holds a frame goes on to hold it. So a process with a
frame never starves, and one that starves never gets a frame.
-/

namespace DemandPaging.Pager

/-- Each frame backs a page of some process other than `pid`. -/
def HeldByOthers (pager : Pager) (pid : Nat) : Prop :=
  ∀ frame, frame < pager.pool.total → ∃ other, other ≠ pid ∧ pager.Holds other frame

/-- The reference is one of a known process to a legal page. -/
def Admits (pager : Pager) (reference : Reference) : Prop :=
  reference.pid < pager.processes ∧
    isWithin reference.page (pager.limit reference.bound) = true

variable {pager next : Pager} {pid other frame : Nat} {page bound : Int}
  {reference : Reference} {resolution : Resolution}

/-! ## One reference -/

/-- No reference takes a frame from any process. -/
theorem holds_of_access (hcoherent : pager.Coherent none)
    (haccess : pager.access pid page bound = .ok (next, resolution))
    (hholds : pager.Holds other frame) : next.Holds other frame := by
  obtain ⟨hspares, hown, -⟩ := access_custody hcoherent haccess
  by_cases hsame : other = pid
  · subst hsame
    exact hown frame hholds
  · exact hspares.holds hcoherent (coherent_of_access hcoherent haccess).1 hsame hholds

theorem heldByOthers_of_access (hcoherent : pager.Coherent none)
    (haccess : pager.access pid page bound = .ok (next, resolution))
    (hothers : pager.HeldByOthers other) : next.HeldByOthers other := by
  intro frame hframe
  rw [(coherent_of_access hcoherent haccess).2.frames_eq] at hframe
  obtain ⟨holder, hne, hholds⟩ := hothers frame hframe
  exact ⟨holder, hne, holds_of_access hcoherent haccess hholds⟩

/-- When the others hold all frames, none is free and the process has none. -/
theorem Coherent.heldByOthers_iff (hcoherent : pager.Coherent none) :
    pager.HeldByOthers pid ↔
      pager.pool.toList = [] ∧ ∀ page, (pager.tables.cell pid page).frame = none := by
  constructor
  · intro hothers
    constructor
    · rw [List.eq_nil_iff_forall_not_mem]
      intro frame hfree
      obtain ⟨other, -, hholds⟩ := hothers frame (hcoherent.pool_sound.lt_total frame hfree)
      obtain ⟨page, hpage⟩ := hcoherent.holds_iff.mp hholds
      exact hcoherent.frame_ne_of_unowned ((hcoherent.unowned_iff frame).mpr (.inl hfree)) hpage
    · intro page
      rw [Option.eq_none_iff_forall_ne_some]
      intro frame hframe
      obtain ⟨other, hne, hholds⟩ := hothers frame (hcoherent.frame_lt hframe)
      exact hne (hcoherent.holds_inj hholds (hcoherent.holds_iff.mpr ⟨page, hframe⟩))
  · rintro ⟨hnil, hnone⟩ frame hframe
    rcases hcoherent.free_or_used hframe with ⟨⟨hcount, -⟩, -⟩ | ⟨⟨-, other, page, hbacks, -⟩, -⟩
    · rw [hnil] at hcount
      exact absurd hcount (by simp)
    · refine ⟨other, ?_, page, hbacks⟩
      rintro rfl
      rw [hcoherent.backs_iff, hnone] at hbacks
      exact absurd hbacks (by simp)

/-- A legal reference starves for want of a frame, free or of its own process. -/
theorem Resolves.starved_iff {page : Nat} (hresolves : Resolves pager pid page next resolution)
    (hcoherent : pager.Coherent none) : resolution = .starved ↔ pager.HeldByOthers pid := by
  rw [hcoherent.heldByOthers_iff]
  cases hresolves with
  | hit hframe => simpa using fun _ => ⟨page, by simp [hframe]⟩
  | loaded _ hcons => simp [hcons]
  | @replaced _ victim _ _ _ hframe => simpa using fun _ => ⟨victim, by simp [hframe]⟩
  | starved hnil hnone => exact iff_of_true rfl ⟨hnil, hnone⟩

theorem access_starved_iff (hcoherent : pager.Coherent none)
    (haccess : pager.access reference.pid reference.page reference.bound =
      .ok (next, resolution)) :
    resolution = .starved ↔ pager.Admits reference ∧ pager.HeldByOthers reference.pid := by
  rcases access_eq hcoherent reference.pid reference.page reference.bound with
    ⟨hpid, heq⟩ | ⟨-, hwithin, heq⟩ | ⟨hpid, hwithin, after, found, hresolves, heq⟩
  all_goals obtain ⟨rfl, rfl⟩ := Prod.mk.inj (Except.ok.inj (heq.symm.trans haccess))
  · simp [Admits, Nat.not_lt.mpr hpid]
  · simp [Admits, hwithin]
  · rw [hresolves.starved_iff hcoherent, Admits]
    simp [hpid, hwithin]

/-- One process alone never starves. -/
theorem not_heldByOthers_of_alone (hcoherent : pager.Coherent none) (halone : pager.processes = 1)
    (hpid : pid < pager.processes) : ¬pager.HeldByOthers pid := by
  intro hothers
  obtain ⟨other, hne, hholds⟩ := hothers 0 pager.pool.total_pos
  obtain ⟨page, hpage⟩ := hcoherent.holds_iff.mp hholds
  have hother := hcoherent.pid_lt hpage
  omega

/-! ## Many references -/

variable {references : List Reference} {log : List (Reference × Resolution)}

/-- A process that was told of a frame holds one from then on. -/
theorem exists_holds_of_accessAll (hcoherent : pager.Coherent none)
    (hrun : pager.accessAll references = .ok (next, log))
    (hmem : ∃ entry ∈ log, entry.1.pid = pid ∧ ∃ frame, entry.2.outcome = .frame frame) :
    ∃ frame, next.Holds pid frame := by
  refine accessAll_since (fun reference resolution =>
    reference.pid = pid ∧ ∃ frame, resolution.outcome = .frame frame)
    (fun state => ∃ frame, state.Holds pid frame) ?_ ?_ hcoherent hrun hmem
  · rintro before after reference resolution hbefore haccess ⟨rfl, frame, hframe⟩
    exact ⟨frame, (access_custody hbefore haccess).2.2 frame hframe⟩
  · rintro before after sender page bound resolution hbefore ⟨frame, hholds⟩ haccess
    exact ⟨frame, holds_of_access hbefore haccess hholds⟩

/-- From the time at which a process starves the others hold all frames. -/
theorem heldByOthers_of_accessAll (hcoherent : pager.Coherent none)
    (hrun : pager.accessAll references = .ok (next, log))
    (hmem : ∃ entry ∈ log, entry.1.pid = pid ∧ entry.2 = .starved) : next.HeldByOthers pid := by
  refine accessAll_since (fun reference resolution => reference.pid = pid ∧ resolution = .starved)
    (fun state => state.HeldByOthers pid) ?_ ?_ hcoherent hrun hmem
  · rintro before after reference resolution hbefore haccess ⟨rfl, hstarved⟩
    exact heldByOthers_of_access hbefore haccess
      ((access_starved_iff hbefore haccess).mp hstarved).2
  · intro before after sender page bound resolution hbefore hothers haccess
    exact heldByOthers_of_access hbefore haccess hothers

/-- After any references to a fresh pager: a further one starves exactly if it is legal and
the other processes hold all frames; it does not starve if its process was told of a frame
before; if its process has starved before, no frame is free, and it starves if it is legal;
and a process alone does not starve. -/
theorem starvation_is_for_good {processes pages frames : Nat} {start : Pager}
    (hfresh : fresh processes pages frames = .ok start) (earlier : List Reference)
    (reference : Reference) :
    ∃ pager log next resolution, start.accessAll earlier = .ok (pager, log) ∧
      pager.access reference.pid reference.page reference.bound = .ok (next, resolution) ∧
      pager.pool.total = frames ∧
      (resolution = .starved ↔ start.Admits reference ∧ pager.HeldByOthers reference.pid) ∧
      ((∃ entry ∈ log, entry.1.pid = reference.pid ∧ ∃ frame, entry.2.outcome = .frame frame) →
        resolution ≠ .starved) ∧
      ((∃ entry ∈ log, entry.1.pid = reference.pid ∧ entry.2 = .starved) →
        pager.pool.count = 0 ∧ (start.Admits reference → resolution = .starved)) ∧
      (processes = 1 → resolution ≠ .starved) := by
  have hstart := fresh_coherent hfresh
  obtain ⟨hprocesses, -, htotal, -⟩ := fresh_eq_ok hfresh
  obtain ⟨pager, log, hrun, hcoherent, hshape⟩ := exists_accessAll hstart earlier
  obtain ⟨next, resolution, haccess, -⟩ :=
    access_coherent hcoherent reference.pid reference.page reference.bound
  have hadmits : pager.Admits reference ↔ start.Admits reference := by
    rw [Admits, Admits, limit, limit, hshape.processes_eq, hshape.pages_eq]
  have hstarved := access_starved_iff hcoherent haccess
  rw [hadmits] at hstarved
  refine ⟨pager, log, next, resolution, hrun, haccess, hshape.frames_eq.trans htotal, hstarved,
    ?_, ?_, ?_⟩
  · intro htold hstarves
    obtain ⟨frame, hholds⟩ := exists_holds_of_accessAll hstart hrun htold
    obtain ⟨page, hpage⟩ := hcoherent.holds_iff.mp hholds
    have hothers := hcoherent.heldByOthers_iff.mp (hstarved.mp hstarves).2
    exact absurd ((hothers.2 page).symm.trans hpage) (by simp)
  · intro hbefore
    have hothers := heldByOthers_of_accessAll hstart hrun hbefore
    refine ⟨FramePool.toList_eq_nil_iff.mp (hcoherent.heldByOthers_iff.mp hothers).1, ?_⟩
    intro hlegal
    exact hstarved.mpr ⟨hlegal, hothers⟩
  · intro halone hstarves
    obtain ⟨⟨hpid, -⟩, hothers⟩ := hstarved.mp hstarves
    have hone : pager.processes = 1 := by rw [hshape.processes_eq, hprocesses, halone]
    exact not_heldByOthers_of_alone hcoherent hone (hshape.processes_eq ▸ hpid) hothers

/-- Of two processes the first one takes the only frame. The second one starves, and does so
again when the first one has turned to another page. -/
theorem second_process_starves_for_good :
    ∃ start, fresh 2 3 1 = .ok start ∧ ∃ pager log next,
      start.accessAll [⟨0, 0, 3⟩, ⟨1, 0, 3⟩, ⟨0, 1, 3⟩] = .ok (pager, log) ∧
        (⟨1, 0, 3⟩, .starved) ∈ log ∧ pager.access 1 2 3 = .ok (next, .starved) ∧
        pager.pool.count = 0 := by
  refine ⟨_, rfl, ?_⟩
  obtain ⟨pager, log, next, resolution, hrun, haccess, -, -, -, hagain, -⟩ :=
    starvation_is_for_good (show fresh 2 3 1 = .ok _ from rfl)
      [⟨0, 0, 3⟩, ⟨1, 0, 3⟩, ⟨0, 1, 3⟩] ⟨1, 2, 3⟩
  have hlog : [(⟨0, 0, 3⟩, .loaded 0), (⟨1, 0, 3⟩, .starved), (⟨0, 1, 3⟩, .replaced 0 0)] = log :=
    (Prod.mk.inj (Except.ok.inj hrun)).2
  have hmem : (⟨1, 0, 3⟩, .starved) ∈ log := by simp [← hlog]
  obtain ⟨hcount, hstarves⟩ := hagain ⟨_, hmem, rfl, rfl⟩
  obtain rfl := hstarves ⟨by decide, by decide⟩
  exact ⟨pager, log, next, hrun, hmem, haccess, hcount⟩

end DemandPaging.Pager
