import Mathlib.Data.List.Nodup
import DemandPaging.Pager.Audit
import DemandPaging.Proofs.Pager.Calls

/-!
# Conservation of frames

No call loses a frame or hands it out twice. Every frame of the memory is free
once, or backs one resident page that its owner record names, so the resident
pages and the free frames together are all frames, and the audit finds no flaw.
-/

namespace DemandPaging.Pager

/-- The entry of a page is valid and names the frame. -/
def Backs (pager : Pager) (frame pid page : Nat) : Prop :=
  ∃ entry, pager.tables.entryAt pid page = .ok entry ∧ entry.valid = true ∧
    entry.frame = some frame

/-- The frame is in the pool once, and nobody owns it. -/
def Free (pager : Pager) (frame : Nat) : Prop :=
  pager.pool.toList.count frame = 1 ∧ pager.owners[frame]? = some none

/-- The frame is not in the pool, it backs one page, and that page owns it. -/
def Used (pager : Pager) (frame : Nat) : Prop :=
  frame ∉ pager.pool.toList ∧ ∃ pid page, pager.Backs frame pid page ∧
    (∀ otherPid otherPage, pager.Backs frame otherPid otherPage →
      otherPid = pid ∧ otherPage = page) ∧
    pager.owners[frame]? = some (some ⟨pid, page⟩)

/-- Every frame is accounted for, in the tables, the pool and the owner records. -/
structure Conserved (pager : Pager) : Prop where
  free_or_used : ∀ frame, frame < pager.pool.total →
    pager.Free frame ∧ ¬pager.Used frame ∨ pager.Used frame ∧ ¬pager.Free frame
  valid_iff : ∀ pid page entry, pager.tables.entryAt pid page = .ok entry →
    (entry.valid = true ↔ entry.frame.isSome = true)
  frame_lt : ∀ pid page entry frame, pager.tables.entryAt pid page = .ok entry →
    entry.frame = some frame → frame < pager.pool.total
  count_eq : pager.resident.length + pager.pool.count = pager.pool.total
  audit_eq : pager.audit = .ok ()

variable {pager : Pager} {frame pid page : Nat}

/-! ## One frame -/

theorem entryAt_eq_ok_iff {entry : Entry} :
    pager.tables.entryAt pid page = .ok entry ↔
      pid < pager.processes ∧ page < pager.tables.pages ∧ pager.tables.cell pid page = entry := by
  by_cases hpid : pid < pager.tables.processes
  · by_cases hpage : page < pager.tables.pages
    · simp [PageTables.entryAt_of_lt hpid hpage, processes, hpid, hpage]
    · simp [PageTables.entryAt, PageTables.position, hpid, hpage, bind, Except.bind]
  · simp [PageTables.entryAt, PageTables.position, processes, hpid, bind, Except.bind]

namespace Coherent

theorem backs_iff (hcoherent : pager.Coherent none) :
    pager.Backs frame pid page ↔ (pager.tables.cell pid page).frame = some frame := by
  constructor
  · rintro ⟨entry, hentry, -, hframe⟩
    obtain ⟨-, -, rfl⟩ := entryAt_eq_ok_iff.mp hentry
    exact hframe
  · intro hframe
    have hentry := entryAt_eq_ok_iff.mpr ⟨hcoherent.pid_lt hframe, hcoherent.page_lt hframe, rfl⟩
    exact ⟨_, hentry, hcoherent.valid_of_frame hframe, hframe⟩

theorem free_of_unowned (hcoherent : pager.Coherent none)
    (howner : pager.owners[frame]? = some none) : pager.Free frame := by
  have hmem : frame ∈ pager.pool.toList := by
    simpa using (hcoherent.unowned_iff frame).mp howner
  exact ⟨List.count_eq_one_of_mem hcoherent.pool_sound.nodup hmem, howner⟩

theorem used_of_owner (hcoherent : pager.Coherent none)
    (howner : pager.owners[frame]? = some (some ⟨pid, page⟩)) : pager.Used frame := by
  have hframe := (hcoherent.owner_iff frame pid page).mp howner
  refine ⟨fun hmem => ?_, pid, page, hcoherent.backs_iff.mpr hframe, ?_, howner⟩
  · rw [(hcoherent.unowned_iff frame).mpr (.inl hmem)] at howner
    exact absurd howner (by simp)
  · intro otherPid otherPage hother
    exact hcoherent.frame_inj (hcoherent.backs_iff.mp hother) hframe

theorem free_or_used (hcoherent : pager.Coherent none) (hframe : frame < pager.pool.total) :
    pager.Free frame ∧ ¬pager.Used frame ∨ pager.Used frame ∧ ¬pager.Free frame := by
  have hexclusive : pager.Used frame → ¬pager.Free frame := by
    rintro ⟨hnot, -⟩ ⟨hcount, -⟩
    rw [List.count_eq_zero_of_not_mem hnot] at hcount
    exact absurd hcount (by simp)
  rw [← hcoherent.owners_size] at hframe
  cases howner : pager.owners[frame]? with
  | none => exact absurd (Array.getElem?_eq_none_iff.mp howner) (Nat.not_le.mpr hframe)
  | some owner =>
      cases owner with
      | none =>
          have hfree := hcoherent.free_of_unowned howner
          exact .inl ⟨hfree, fun hused => hexclusive hused hfree⟩
      | some owner =>
          have hused := hcoherent.used_of_owner howner
          exact .inr ⟨hused, hexclusive hused⟩

end Coherent

/-! ## All resident pages -/

theorem resident_eq : pager.resident =
    (List.range pager.processes).flatMap fun pid =>
      (pager.tables.row pid).resident.map fun (page, frame) => ⟨pid, page, frame⟩ := by
  rw [resident, PageTables.toTables_eq, PageTable.zipIdx_map_range, List.flatMap_map]
  rfl

namespace Coherent

theorem mem_resident (hcoherent : pager.Coherent none) (r : ResidentPage) :
    r ∈ pager.resident ↔ (pager.tables.cell r.pid r.page).frame = some r.frame := by
  rw [resident_eq]
  simp only [List.mem_flatMap, List.mem_range, List.mem_map, Prod.exists,
    PageTable.mem_resident_row, hcoherent.residentFrame?_eq]
  constructor
  · rintro ⟨pid, -, page, frame, hframe, rfl⟩
    exact hframe
  · intro hframe
    exact ⟨r.pid, hcoherent.pid_lt hframe, r.page, r.frame, hframe, rfl⟩

theorem nodup_resident (pager : Pager) : pager.resident.Nodup := by
  rw [resident_eq]
  refine List.nodup_flatMap.mpr ⟨fun pid _ => ?_, ?_⟩
  · refine List.Nodup.map ?_ (PageTable.resident_row_pairwise.imp ?_)
    · rintro ⟨page, frame⟩ ⟨otherPage, otherFrame⟩ heq
      simpa using heq
    · rintro earlier later hlt rfl
      exact Nat.lt_irrefl _ hlt
  · apply List.nodup_range.imp
    intro pid otherPid hne r hr hother
    obtain ⟨_, -, rfl⟩ := List.mem_map.mp hr
    obtain ⟨_, -, heq⟩ := List.mem_map.mp hother
    exact hne (congrArg ResidentPage.pid heq).symm

/-- The resident pages are listed by process, and by page within a process. -/
theorem resident_pairwise (pager : Pager) : pager.resident.Pairwise fun earlier later =>
    earlier.pid < later.pid ∨ earlier.pid = later.pid ∧ earlier.page < later.page := by
  rw [resident_eq, List.pairwise_flatMap]
  constructor
  · intro pid _
    exact List.pairwise_map.mpr
      (PageTable.resident_row_pairwise.imp fun hlt => .inr ⟨rfl, hlt⟩)
  · apply List.pairwise_lt_range.imp
    intro pid otherPid hlt earlier hearlier later hlater
    obtain ⟨_, -, rfl⟩ := List.mem_map.mp hearlier
    obtain ⟨_, -, rfl⟩ := List.mem_map.mp hlater
    exact .inl hlt

/-- No two resident pages share a frame. -/
theorem nodup_resident_frames (hcoherent : pager.Coherent none) :
    (pager.resident.map ResidentPage.frame).Nodup := by
  refine List.Nodup.map_on ?_ (nodup_resident pager)
  rintro ⟨pid, page, frame⟩ hr ⟨otherPid, otherPage, otherFrame⟩ hother heq
  simp only at heq
  subst heq
  have hframe := (hcoherent.mem_resident _).mp hr
  have hotherFrame := (hcoherent.mem_resident _).mp hother
  obtain ⟨hpid, hpage⟩ := hcoherent.frame_inj hframe hotherFrame
  simp_all

/-- The free frames and the frames of the resident pages are all frames, each once. -/
theorem perm_range (hcoherent : pager.Coherent none) :
    (pager.pool.toList ++ pager.resident.map ResidentPage.frame).Perm
      (List.range pager.pool.total) := by
  refine (List.perm_ext_iff_of_nodup ?_ List.nodup_range).mpr fun frame => ?_
  · refine List.nodup_append'.mpr
      ⟨hcoherent.pool_sound.nodup, hcoherent.nodup_resident_frames, ?_⟩
    intro frame hfree hused
    obtain ⟨r, hr, rfl⟩ := List.mem_map.mp hused
    have hunowned := (hcoherent.unowned_iff r.frame).mpr (.inl hfree)
    exact hcoherent.frame_ne_of_unowned hunowned ((hcoherent.mem_resident r).mp hr)
  · rw [List.mem_append, List.mem_range]
    constructor
    · rintro (hfree | hused)
      · exact hcoherent.pool_sound.lt_total frame hfree
      · obtain ⟨r, hr, rfl⟩ := List.mem_map.mp hused
        exact hcoherent.frame_lt ((hcoherent.mem_resident r).mp hr)
    · intro hframe
      rcases hcoherent.free_or_used hframe with ⟨⟨hcount, -⟩, -⟩ | ⟨hused, -⟩
      · refine .inl (List.count_pos_iff.mp ?_)
        rw [hcount]
        exact Nat.one_pos
      · obtain ⟨-, pid, page, hbacks, -⟩ := hused
        refine .inr (List.mem_map.mpr ⟨⟨pid, page, frame⟩, ?_, rfl⟩)
        exact (hcoherent.mem_resident _).mpr (hcoherent.backs_iff.mp hbacks)

end Coherent

/-! ## The audit -/

/-- Of the frames of a memory, those in the list are ticked off. -/
structure Ticked (total : Nat) (seen : Array Bool) (ticked : List Nat) : Prop where
  size_eq : seen.size = total
  iff_mem : ∀ frame, seen[frame]? = some true ↔ frame ∈ ticked

theorem ticked_nil (total : Nat) : Ticked total (Array.replicate total false) [] :=
  ⟨Array.size_replicate, by simp [Array.getElem?_replicate]⟩

theorem Ticked.tick {total : Nat} {seen : Array Bool} {ticked : List Nat}
    (hseen : Ticked total seen ticked) (hframe : frame < total) :
    Ticked total (seen.setIfInBounds frame true) (ticked ++ [frame]) := by
  refine ⟨by simpa using hseen.size_eq, fun other => ?_⟩
  rw [Array.getElem?_setIfInBounds, List.mem_append, ← hseen.iff_mem, List.mem_singleton]
  by_cases hsame : frame = other
  · subst hsame
    simp [hseen.size_eq, hframe]
  · simp [hsame, Ne.symm hsame]

/-- A walk that ticks off every item whose frame is not ticked off yet reaches
its end, if no frame occurs twice. -/
theorem foldlM_ticked {α : Type} {total : Nat} (frameOf : α → Nat)
    (tick : Array Bool → α → Except Failure (Array Bool)) (items : List α)
    (htick : ∀ seen, ∀ item ∈ items, seen[frameOf item]? ≠ some true →
      tick seen item = .ok (seen.setIfInBounds (frameOf item) true))
    (hlt : ∀ item ∈ items, frameOf item < total) {seen : Array Bool} {ticked : List Nat}
    (hseen : Ticked total seen ticked) (hnodup : (ticked ++ items.map frameOf).Nodup) :
    ∃ next, items.foldlM tick seen = .ok next ∧
      Ticked total next (ticked ++ items.map frameOf) := by
  induction items generalizing seen ticked with
  | nil => exact ⟨seen, rfl, by simpa using hseen⟩
  | cons item items ih =>
      have hsplit : ticked ++ (item :: items).map frameOf =
          (ticked ++ [frameOf item]) ++ items.map frameOf := by simp
      have hnew : seen[frameOf item]? ≠ some true := by
        intro htrue
        rw [hsplit, List.append_assoc, List.nodup_append'] at hnodup
        exact hnodup.2.2 ((hseen.iff_mem _).mp htrue) (by simp)
      have hstep := hseen.tick (hlt item List.mem_cons_self)
      rw [hsplit] at hnodup ⊢
      rw [List.foldlM_cons, htick seen item List.mem_cons_self hnew]
      exact ih (fun seen other hother => htick seen other (List.mem_cons_of_mem _ hother))
        (fun other hother => hlt other (List.mem_cons_of_mem _ hother)) hstep hnodup

namespace Coherent

theorem auditFree_eq (hcoherent : pager.Coherent none) {seen : Array Bool}
    (hframe : frame ∈ pager.pool.toList) (hnew : seen[frame]? ≠ some true) :
    pager.auditFree seen frame = .ok (seen.setIfInBounds frame true) := by
  have howner := (hcoherent.unowned_iff frame).mpr (.inl hframe)
  simp [auditFree, hnew, howner]

theorem auditResident_eq (hcoherent : pager.Coherent none) {seen : Array Bool}
    {r : ResidentPage} (hr : r ∈ pager.resident) (hnew : seen[r.frame]? ≠ some true) :
    pager.auditResident seen r = .ok (seen.setIfInBounds r.frame true) := by
  have hframe := (hcoherent.mem_resident r).mp hr
  have howner := (hcoherent.owner_iff r.frame r.pid r.page).mpr hframe
  simp [auditResident, Nat.not_le.mpr (hcoherent.frame_lt hframe), hnew, howner]

/-- The audit of a coherent pager finds no flaw. -/
theorem audit_eq (hcoherent : pager.Coherent none) : pager.audit = .ok () := by
  have hperm := hcoherent.perm_range
  have hnodup := hperm.nodup_iff.mpr List.nodup_range
  obtain ⟨free, hfree, hfreeTicked⟩ := foldlM_ticked id pager.auditFree
    pager.pool.toList (fun _ _ hframe hnew => hcoherent.auditFree_eq hframe hnew)
    hcoherent.pool_sound.lt_total (ticked_nil pager.pool.total)
    (by simpa using hcoherent.pool_sound.nodup)
  rw [List.map_id, List.nil_append] at hfreeTicked
  obtain ⟨all, hall, hallTicked⟩ := foldlM_ticked ResidentPage.frame
    pager.auditResident pager.resident (fun _ _ hr hnew => hcoherent.auditResident_eq hr hnew)
    (fun r hr => hcoherent.frame_lt ((hcoherent.mem_resident r).mp hr)) hfreeTicked hnodup
  -- Nothing is left over: what is ticked off are all frames, each once.
  have hnone : all.toList.findIdx? (!·) = none := by
    rw [List.findIdx?_eq_none_iff]
    intro ticked hticked
    obtain ⟨index, hindex, rfl⟩ := List.mem_iff_getElem.mp hticked
    have hmem : index ∈ List.range pager.pool.total := by
      rw [List.mem_range, ← hallTicked.size_eq]
      exact hindex
    have htrue := (hallTicked.iff_mem index).mpr (hperm.mem_iff.mpr hmem)
    rw [Array.length_toList] at hindex
    simpa [hindex] using htrue
  simp only [audit, hfree, hall, bind, Except.bind, hnone]
  rfl

theorem conserved (hcoherent : pager.Coherent none) : pager.Conserved where
  free_or_used := fun _ hframe => hcoherent.free_or_used hframe
  valid_iff := by
    intro pid page entry hentry
    obtain ⟨-, -, rfl⟩ := entryAt_eq_ok_iff.mp hentry
    rw [hcoherent.valid_eq]
  frame_lt := by
    intro pid page entry frame hentry hframe
    obtain ⟨-, -, rfl⟩ := entryAt_eq_ok_iff.mp hentry
    exact hcoherent.frame_lt hframe
  count_eq := by
    have hlength := hcoherent.perm_range.length_eq
    simp only [List.length_append, List.length_map, List.length_range,
      FramePool.length_toList] at hlength
    rw [Nat.add_comm]
    exact hlength
  audit_eq := hcoherent.audit_eq

end Coherent

/-- Whatever the calls, every frame of a pager stays accounted for. -/
theorem run_conserves_frames {processes pages frames : Nat}
    (hfresh : fresh processes pages frames = .ok pager) (calls : List Call) :
    (pager.run calls).1.pool.total = frames ∧ (pager.run calls).1.Conserved := by
  obtain ⟨hcoherent, hshape⟩ := run_coherent hfresh calls
  obtain ⟨-, -, htotal, -⟩ := fresh_eq_ok hfresh
  exact ⟨hshape.frames_eq.trans htotal, hcoherent.conserved⟩

/-- After an eviction and an evacuation, both frames are accounted for. -/
theorem run_conserves_two_frames :
    ∃ pager, fresh 2 3 2 = .ok pager ∧
      (pager.run [.access 0 2 3, .access 0 0 3, .access 0 1 3, .evacuate 0]).1.Conserved :=
  ⟨_, rfl, (run_conserves_frames (show fresh 2 3 2 = .ok _ from rfl) _).2⟩

end DemandPaging.Pager
