import DemandPaging.Proofs.Pager.Conservation
import DemandPaging.Proofs.Pager.Isolation
import DemandPaging.Proofs.Pager.LastUsed
import DemandPaging.Proofs.Pager.References

/-!
# Stack distance

A process that is alone has all frames in its reach, so each reference is resolved by the
history of the legal pages before it. The page is resident exactly if fewer other pages
than there are frames were used since its last use.
-/

namespace DemandPaging

/-! ## The distance of a page -/

/-- The history has a use of the page, and fewer than `frames` distinct pages were used
after the last one. -/
def UsedWithin (frames : Nat) (history : List Nat) (page : Nat) : Prop :=
  ∃ before after, history = before ++ page :: after ∧ page ∉ after ∧ after.toFinset.card < frames

section Distance

variable {history before after : List Nat} {page frames : Nat}

theorem idxOf_lastUsed (hlast : page ∉ after) :
    (lastUsed (before ++ page :: after)).idxOf page = after.toFinset.card := by
  have hnot : page ∉ after.reverse.eraseDups := by
    rwa [List.mem_eraseDups, List.mem_reverse]
  rw [lastUsed, List.reverse_append, List.reverse_cons, List.append_assoc,
    List.eraseDups_append, List.idxOf_append_of_notMem hnot, List.singleton_append,
    List.removeAll, List.filter_cons_of_pos (by simpa using hlast), List.eraseDups_cons,
    List.idxOf_cons_self, Nat.add_zero, ← length_lastUsed, lastUsed]

theorem exists_last_use (hmem : page ∈ history) :
    ∃ before after, history = before ++ page :: after ∧ page ∉ after := by
  obtain ⟨after, before, heq, hnot⟩ := List.eq_append_cons_of_mem (List.mem_reverse.mpr hmem)
  refine ⟨before.reverse, after.reverse, ?_, by simpa using hnot⟩
  rw [← List.reverse_reverse history, heq]
  simp

/-- The pages used within a distance are the first ones among those used last. -/
theorem mem_take_lastUsed :
    page ∈ (lastUsed history).take frames ↔ UsedWithin frames history page := by
  constructor
  · intro htake
    have hmem := List.mem_of_mem_take htake
    rw [List.mem_take_iff_idxOf_lt hmem] at htake
    have hused : page ∈ history := by simpa [lastUsed, List.mem_eraseDups] using hmem
    obtain ⟨before, after, rfl, hnot⟩ := exists_last_use hused
    exact ⟨before, after, rfl, hnot, idxOf_lastUsed hnot ▸ htake⟩
  · rintro ⟨before, after, rfl, hnot, hlt⟩
    rw [List.mem_take_iff_idxOf_lt (by simp [lastUsed, List.mem_eraseDups]), idxOf_lastUsed hnot]
    exact hlt

end Distance

/-! ## What the distance decides -/

/-- How a reference is resolved whose page has a known place in the history. Each page
that is resident occupies a frame. -/
inductive ResolvesByDistance (frames : Nat) (history : List Nat) (occupies : Nat → Nat → Prop)
    (page : Nat) : Resolution → Prop where
  | hit {frame : Nat} (hwithin : UsedWithin frames history page)
      (hframe : occupies page frame) : ResolvesByDistance frames history occupies page (.hit frame)
  /-- While there is a frame for each page used so far, the frames are taken in order. -/
  | loaded (hnot : ¬UsedWithin frames history page)
      (hroom : history.toFinset.card < frames) :
      ResolvesByDistance frames history occupies page (.loaded history.toFinset.card)
  /-- Otherwise the last of the pages that just have a frame makes room. -/
  | replaced {frame victim : Nat} (hnot : ¬UsedWithin frames history page)
      (hfull : frames ≤ history.toFinset.card)
      (hvictim : (lastUsed history)[frames - 1]? = some victim)
      (hframe : occupies victim frame) :
      ResolvesByDistance frames history occupies page (.replaced frame victim)

theorem ResolvesByDistance.ne_starved {frames page : Nat} {history : List Nat}
    {occupies : Nat → Nat → Prop} {resolution : Resolution}
    (hresolves : ResolvesByDistance frames history occupies page resolution) :
    resolution ≠ .starved := by
  cases hresolves <;> simp

theorem eq_of_cons_suffix_range {frame total : Nat} {rest : List Nat}
    (hsuffix : frame :: rest <:+ List.range total) : frame + rest.length + 1 = total := by
  obtain ⟨taken, heq⟩ := hsuffix
  have hlength := congrArg List.length heq
  simp only [List.length_append, List.length_cons, List.length_range] at hlength
  have hhead := congrArg (·[taken.length]?) heq
  simp only [List.getElem?_append_right (Nat.le_refl taken.length),
    Nat.sub_self, List.getElem?_cons_zero] at hhead
  rw [List.getElem?_range (by omega)] at hhead
  have hframe := Option.some.inj hhead
  omega

/-! ## One process -/

/-- The reference is one of process `pid` to a page that is legal below its bound, in a
table of `pages` pages. -/
def Reference.isLegal (reference : Reference) (pid pages : Nat) : Bool :=
  reference.pid == pid && isWithin reference.page (min reference.bound pages)

/-- The pages of the legal references of one process, in order. -/
def legalPagesOf (pid pages : Nat) (references : List Reference) : List Nat :=
  (references.filter (·.isLegal pid pages)).map (·.page.toNat)

theorem Reference.isLegal_iff {reference : Reference} {pid pages : Nat} :
    reference.isLegal pid pages = true ↔
      reference.pid = pid ∧ 0 ≤ reference.page ∧ reference.page < min reference.bound pages := by
  rw [isLegal, Bool.and_eq_true, beq_iff_eq, isWithin_iff]

theorem legalPagesOf_cons (pid pages : Nat) (reference : Reference)
    (references : List Reference) :
    legalPagesOf pid pages (reference :: references) =
      (if reference.isLegal pid pages then [reference.page.toNat] else []) ++
        legalPagesOf pid pages references := by
  rw [legalPagesOf, List.filter_cons]
  split <;> rfl

namespace ListPager

variable {lists : ListPager} {pid page pages frames : Nat} {history : List Nat}

theorem free_refer_suffix (lists : ListPager) (pid page : Nat) :
    (lists.refer pid page).1.free <:+ lists.free := by
  unfold refer
  split
  next => exact List.suffix_refl _
  next =>
    split
    next hcons =>
      rw [hcons]
      exact List.suffix_cons _ _
    next =>
      split
      next => exact List.suffix_refl _
      next => exact List.suffix_refl _

/-- The frames that are free after a reference were the last ones to be taken before it. -/
theorem free_access_suffix (lists : ListPager) (pid : Nat) (page bound : Int) :
    (lists.access pid page bound).1.free <:+ lists.free := by
  unfold access
  split
  next =>
    split
    next => exact free_refer_suffix lists pid page.toNat
    next => exact List.suffix_refl _
  next => exact List.suffix_refl _

/-- A process is alone with its frames: it holds the pages that it used last, and the
frames that it has not taken yet are the last ones. -/
structure Alone (lists : ListPager) (pages frames : Nat) (history : List Nat) : Prop extends
    lists.Keeps 0 frames history where
  processes_eq : lists.processes = 1
  pages_eq : lists.pages = pages
  free_suffix : lists.free <:+ List.range frames

namespace Alone

theorem fresh (pages frames : Nat) : (ListPager.fresh 1 pages frames).Alone pages frames [] := by
  have hkeeps : (ListPager.fresh 1 pages frames).Keeps 0 (List.range frames).length [] :=
    keeps_nil rfl
  rw [List.length_range] at hkeeps
  exact ⟨hkeeps, rfl, rfl, List.suffix_refl _⟩

theorem refer (halone : lists.Alone pages frames history) (hframes : 0 < frames) (page : Nat) :
    ResolvesByDistance frames history (fun page frame => (page, frame) ∈ lists.recent 0) page
      (lists.refer 0 page).2 := by
  have hpages := halone.pagesOf_eq
  have hlength := halone.length_pagesOf
  have hreach := halone.reach_eq
  have hwithin : page ∈ lists.pagesOf 0 ↔ UsedWithin frames history page := by
    rw [hpages, mem_take_lastUsed]
  cases hlookup : (lists.recent 0).lookup page with
  | some frame =>
      obtain ⟨newer, older, hrecent, -⟩ := List.lookup_eq_some_iff.mp hlookup
      have hmem : (page, frame) ∈ lists.recent 0 := by simp [hrecent]
      rw [refer_of_lookup hlookup]
      exact .hit (hwithin.mp (List.mem_map_of_mem hmem)) hmem
  | none =>
      have hnot := mt hwithin.mpr (lookup_eq_none_iff.mp hlookup)
      cases hfree : lists.free with
      | cons frame free =>
          -- With a frame free, each distinct page of the history still has its own.
          rw [hfree, List.length_cons] at hreach
          have hframe := eq_of_cons_suffix_range (hfree ▸ halone.free_suffix)
          obtain rfl : frame = history.toFinset.card := by omega
          rw [refer_of_cons hlookup hfree]
          exact .loaded hnot (by omega)
      | nil =>
          -- The list is full, so its last page is the one in place `frames - 1`.
          rw [hfree, List.length_nil, Nat.zero_add] at hreach
          have hlast : (lists.recent 0).getLast?.isSome := by
            rw [List.getLast?_isSome, ← List.length_pos_iff]
            simpa [pagesOf, ← hreach] using hframes
          obtain ⟨⟨victim, frame⟩, hvictim⟩ := Option.isSome_iff_exists.mp hlast
          rw [refer_of_getLast? hlookup hfree hvictim]
          refine .replaced hnot (by omega) ?_ (List.mem_of_getLast? hvictim)
          rw [← List.getElem?_take_of_lt (Nat.sub_lt hframes Nat.one_pos), ← hpages]
          rw [← hreach, ← List.getLast?_eq_getElem?, pagesOf, List.getLast?_map, hvictim]
          rfl

theorem access_of_illegal (halone : lists.Alone pages frames history) {reference : Reference}
    (hillegal : ¬reference.isLegal 0 pages = true) :
    ∃ counters, lists.access reference.pid reference.page reference.bound =
      ({ lists with counters }, .illegal) := by
  by_cases hpid : reference.pid < lists.processes
  · refine ⟨_, ListPager.access_of_illegal hpid fun hwithin => hillegal ?_⟩
    rw [halone.processes_eq, Nat.lt_one_iff] at hpid
    rw [halone.pages_eq] at hwithin
    exact Reference.isLegal_iff.mpr ⟨hpid, hwithin⟩
  · refine ⟨lists.counters, ?_⟩
    rw [ListPager.access, if_neg hpid]

theorem access (halone : lists.Alone pages frames history) (hframes : 0 < frames)
    (reference : Reference) :
    (lists.access reference.pid reference.page reference.bound).1.Alone pages frames
      (history ++ if reference.isLegal 0 pages then [reference.page.toNat] else []) := by
  have hsame := sameBut_access lists reference.pid reference.page reference.bound
  have hsuffix := free_access_suffix lists reference.pid reference.page reference.bound
  refine ⟨?_, hsame.processes_eq.trans halone.processes_eq, hsame.pages_eq.trans halone.pages_eq,
    hsuffix.trans halone.free_suffix⟩
  split
  next hlegal =>
    obtain ⟨hpid, hwithin⟩ := Reference.isLegal_iff.mp hlegal
    rw [← halone.pages_eq] at hwithin
    have hknown : 0 < lists.processes := halone.processes_eq ▸ Nat.one_pos
    obtain ⟨next, resolution, frame, heq, -, hnext, -⟩ :=
      halone.toKeeps.access hframes hknown (isWithin_iff.mpr hwithin)
    rw [hpid, heq]
    exact hnext
  next hillegal =>
    obtain ⟨counters, heq⟩ := halone.access_of_illegal hillegal
    rw [heq, List.append_nil]
    exact halone.toKeeps.recount counters

theorem resolves (halone : lists.Alone pages frames history) (hframes : 0 < frames)
    {reference : Reference} (hlegal : reference.isLegal 0 pages = true) :
    ResolvesByDistance frames history (fun page frame => (page, frame) ∈ lists.recent 0)
      reference.page.toNat (lists.access reference.pid reference.page reference.bound).2 := by
  obtain ⟨hpid, hwithin⟩ := Reference.isLegal_iff.mp hlegal
  rw [← halone.pages_eq] at hwithin
  rw [hpid, access_of_legal (halone.processes_eq ▸ Nat.one_pos) hwithin]
  exact halone.refer hframes reference.page.toNat

theorem accessAll (halone : lists.Alone pages frames history) (hframes : 0 < frames)
    (references : List Reference) :
    (lists.accessAll references).1.Alone pages frames
      (history ++ legalPagesOf 0 pages references) := by
  induction references generalizing lists history with
  | nil =>
      rw [legalPagesOf, List.filter_nil, List.map_nil, List.append_nil]
      exact halone
  | cons reference references ih =>
      rw [accessAll_cons, legalPagesOf_cons, ← List.append_assoc]
      exact ih (halone.access hframes reference)

end Alone

end ListPager

namespace Pager

/-- One process alone, after any references: the next one does not starve, and if it is
legal, the history of the legal pages before it says how it is resolved. -/
theorem resolves_by_stack_distance {pages frames : Nat} {start : Pager}
    (hfresh : fresh 1 pages frames = .ok start) (hpages : pages < halfWordCount)
    (earlier : List Reference) (reference : Reference) :
    ∃ pager log next resolution, start.accessAll earlier = .ok (pager, log) ∧
      pager.access reference.pid reference.page reference.bound = .ok (next, resolution) ∧
      resolution ≠ .starved ∧
      (reference.isLegal 0 pages = true →
        ResolvesByDistance frames (legalPagesOf 0 pages earlier)
          (fun page frame => pager.Backs frame 0 page) reference.page.toNat resolution) := by
  obtain ⟨-, hlength, htotal, -⟩ := fresh_eq_ok hfresh
  have hframes : 0 < frames := htotal ▸ start.pool.total_pos
  obtain ⟨pager, hrun, hfollows⟩ :=
    (Follows.fresh hfresh).accessAll (hlength ▸ hpages) earlier
  have halone := (ListPager.Alone.fresh pages frames).accessAll hframes earlier
  rw [List.nil_append] at halone
  have hfits : pager.tables.pages < halfWordCount := by
    rw [← hfollows.pages_eq, halone.pages_eq]
    exact hpages
  obtain ⟨next, after, resolution, haccess, hafter, -⟩ :=
    hfollows.access hfits reference.pid reference.page reference.bound
  -- The entries of the recency list are the frames that the tables give to the process.
  have hoccupies : (fun page frame => pager.Backs frame 0 page) = fun page frame =>
      (page, frame) ∈ ((ListPager.fresh 1 pages frames).accessAll earlier).1.recent 0 := by
    funext page frame
    rw [hfollows.coherent.backs_iff, (hfollows.order 0).mem_iff,
      hfollows.coherent.residentFrame?_eq]
  refine ⟨pager, _, next, resolution, hrun, haccess, ?_⟩
  by_cases hlegal : reference.isLegal 0 pages = true
  · have hresolves := halone.resolves hframes hlegal
    rw [hafter] at hresolves
    rw [hoccupies]
    exact ⟨hresolves.ne_starved, fun _ => hresolves⟩
  · obtain ⟨counters, heq⟩ := halone.access_of_illegal hlegal
    rw [hafter] at heq
    obtain rfl := (Prod.mk.inj heq).2
    exact ⟨by simp, fun hnever => absurd hnever hlegal⟩

/-- Of two frames the first one goes to page 0, which is used last before page 2 comes, so
page 1 makes room. -/
theorem third_page_replaces_the_second :
    ∃ start pager log next, fresh 1 3 2 = .ok start ∧ 3 < halfWordCount ∧
      start.accessAll [⟨0, 0, 3⟩, ⟨0, 1, 3⟩, ⟨0, 2, 2⟩, ⟨0, 0, 1⟩] = .ok (pager, log) ∧
      pager.access 0 2 3 = .ok (next, .replaced 1 1) ∧
      ResolvesByDistance 2 [0, 1, 0] (fun page frame => pager.Backs frame 0 page) 2
        (.replaced 1 1) := by
  obtain ⟨pager, log, next, resolution, hrun, haccess, -, hresolves⟩ :=
    resolves_by_stack_distance (show fresh 1 3 2 = .ok _ from rfl) (by decide)
      [⟨0, 0, 3⟩, ⟨0, 1, 3⟩, ⟨0, 2, 2⟩, ⟨0, 0, 1⟩] ⟨0, 2, 3⟩
  have hhistory : legalPagesOf 0 3 [⟨0, 0, 3⟩, ⟨0, 1, 3⟩, ⟨0, 2, 2⟩, ⟨0, 0, 1⟩] = [0, 1, 0] := by
    decide
  rw [hhistory] at hresolves
  have hnow : (pager.access 0 2 3).map Prod.snd = .ok (.replaced 1 1) := by
    rw [← (Prod.mk.inj (Except.ok.inj hrun)).1]
    decide +kernel
  rw [haccess] at hnow
  obtain rfl : resolution = .replaced 1 1 := Except.ok.inj hnow
  exact ⟨_, pager, log, next, rfl, by decide, hrun, haccess, hresolves (by decide)⟩

end Pager

end DemandPaging
