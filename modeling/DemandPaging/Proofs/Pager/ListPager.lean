import DemandPaging.Proofs.Pager.Calls
import DemandPaging.Proofs.Pager.Recency

/-!
# A pager made of lists

The list pager is what a pager comes to without its representation: one recency
list for each process, a queue of free frames, the clock and the counters. It has
no tables, no ring, no owner records and no times of use. Given the same calls,
the pager and the list pager give the same answers for ever.
-/

namespace DemandPaging

structure ListPager where
  processes : Nat
  pages : Nat
  /-- The resident pages of each process with their frames, the last used first. -/
  recent : Nat → List (Nat × Nat)
  /-- The free frames in the order in which they will be taken. -/
  free : List Nat
  clock : Nat
  counters : Nat → Counters

namespace ListPager

/-- A list pager in which no page is resident. -/
def fresh (processes pages frames : Nat) : ListPager where
  processes
  pages
  recent := fun _ => []
  free := List.range frames
  clock := 0
  counters := fun _ => {}

/-- Puts a page in front of the other pages of its process, at the next instant. -/
def use (lists : ListPager) (pid page frame : Nat) (others : List (Nat × Nat)) : ListPager :=
  { lists with
    recent := Function.update lists.recent pid ((page, frame) :: others)
    clock := lists.clock + 1 }

def tally (lists : ListPager) (pid : Nat) (resolution : Resolution) : ListPager :=
  { lists with
    counters := Function.update lists.counters pid ((lists.counters pid).record resolution) }

/-- Resolves a reference to a legal page of a known process. A page that is not
resident gets the free frame at the head of the queue, or else the frame of the
page at the end of the list of its process. -/
def refer (lists : ListPager) (pid page : Nat) : ListPager × Resolution :=
  match (lists.recent pid).lookup page with
  | some frame => (lists.use pid page frame (withoutPage page (lists.recent pid)), .hit frame)
  | none =>
    match lists.free with
    | frame :: free =>
      (use { lists with free } pid page frame (lists.recent pid), .loaded frame)
    | [] =>
      match (lists.recent pid).getLast? with
      | some (victim, frame) =>
        (lists.use pid page frame (lists.recent pid).dropLast, .replaced frame victim)
      | none => (lists, .starved)

/-- Resolves a reference of process `pid` to `page`, legal below `bound`. -/
def access (lists : ListPager) (pid : Nat) (page bound : Int) : ListPager × Resolution :=
  if pid < lists.processes then
    if 0 ≤ page ∧ page < min bound lists.pages then
      let (next, resolution) := lists.refer pid page.toNat
      (next.tally pid resolution, resolution)
    else (lists.tally pid .illegal, .illegal)
  else (lists, .illegal)

/-- Returns all frames of a process to the end of the queue, in the order of its
pages. The answer is their number. -/
def evacuate (lists : ListPager) (pid : Nat) : ListPager × Nat :=
  ({ lists with
      recent := Function.update lists.recent pid []
      free := lists.free ++ ((lists.recent pid).mergeSort byPage).map Prod.snd },
    (lists.recent pid).length)

/-- Makes one call. Only the evacuation of an unknown process fails. -/
def perform (lists : ListPager) : Pager.Call → Except Failure (ListPager × Pager.Response)
  | .access pid page bound =>
    let (next, resolution) := lists.access pid page bound
    .ok (next, .resolved resolution)
  | .evacuate pid =>
    if pid < lists.processes then
      let (next, count) := lists.evacuate pid
      .ok (next, .released count)
    else .error (.memory (.noSuchProcess pid lists.processes))

/-- The list pager after calls, and what they gave back. -/
def run (lists : ListPager) (calls : List Pager.Call) :
    ListPager × List (Except Failure Pager.Response) :=
  runCalls perform lists calls

end ListPager

namespace ListPager

variable {lists : ListPager} {pid page frame : Nat}

theorem refer_of_lookup (hlookup : (lists.recent pid).lookup page = some frame) :
    lists.refer pid page =
      (lists.use pid page frame (withoutPage page (lists.recent pid)), .hit frame) := by
  simp only [refer, hlookup]

theorem refer_of_cons {free : List Nat} (hlookup : (lists.recent pid).lookup page = none)
    (hfree : lists.free = frame :: free) :
    lists.refer pid page =
      (use { lists with free } pid page frame (lists.recent pid), .loaded frame) := by
  simp only [refer, hlookup, hfree]

theorem refer_of_getLast? {victim : Nat} (hlookup : (lists.recent pid).lookup page = none)
    (hfree : lists.free = []) (hlast : (lists.recent pid).getLast? = some (victim, frame)) :
    lists.refer pid page =
      (lists.use pid page frame (lists.recent pid).dropLast, .replaced frame victim) := by
  simp only [refer, hlookup, hfree, hlast]

theorem refer_of_nil (hfree : lists.free = []) (hnil : lists.recent pid = []) :
    lists.refer pid page = (lists, .starved) := by
  simp [refer, hfree, hnil]

variable {bound : Int}

theorem access_of_legal {page : Int} (hpid : pid < lists.processes)
    (hlegal : 0 ≤ page ∧ page < min bound lists.pages) :
    lists.access pid page bound =
      ((lists.refer pid page.toNat).1.tally pid (lists.refer pid page.toNat).2,
        (lists.refer pid page.toNat).2) := by
  rw [access, if_pos hpid, if_pos hlegal]

theorem access_of_illegal {page : Int} (hpid : pid < lists.processes)
    (hillegal : ¬(0 ≤ page ∧ page < min bound lists.pages)) :
    lists.access pid page bound = (lists.tally pid .illegal, .illegal) := by
  rw [access, if_pos hpid, if_neg hillegal]

end ListPager

/-! ## What the lists say of the tables -/

/-- The lists hold the resident pages of the tables in the order of their use,
and no resident page was used after `now`. -/
structure PageTables.Tracked (tables : PageTables) (now : Nat)
    (recent : Nat → List (Nat × Nat)) : Prop where
  order : ∀ pid, RecencyOrder (tables.cell pid) (recent pid)
  past : ∀ pid page, (tables.cell pid page).valid = true →
    (tables.cell pid page).lastUsed ≤ now

namespace PageTables.Tracked

variable {tables : PageTables} {now pid page frame : Nat} {recent : Nat → List (Nat × Nat)}

/-- The use of a page puts it in front. -/
theorem use (htracked : tables.Tracked now recent) (hpid : pid < tables.processes)
    (hpage : page < tables.pages) (entry : Entry) (hframe : entry.residentFrame? = some frame)
    (hnow : entry.lastUsed = now + 1) :
    (tables.write pid page entry).Tracked (now + 1)
      (Function.update recent pid ((page, frame) :: withoutPage page (recent pid))) := by
  constructor
  · intro other
    by_cases hsame : other = pid
    · subst hsame
      rw [cell_write_self hpid hpage, Function.update_self]
      refine (htracked.order other).use hframe fun otherPage hvalid => ?_
      rw [hnow]
      exact Nat.lt_succ_of_le (htracked.past other otherPage hvalid)
    · rw [cell_write_of_ne hpid hpage hsame, Function.update_of_ne hsame]
      exact htracked.order other
  · intro other otherPage hvalid
    rw [cell_write hpid hpage] at hvalid ⊢
    split
    next => exact Nat.le_of_eq hnow
    next hne =>
      rw [if_neg hne] at hvalid
      exact Nat.le_succ_of_le (htracked.past other otherPage hvalid)

/-- A page that is resident no longer leaves its list. -/
theorem remove (htracked : tables.Tracked now recent) (hpid : pid < tables.processes)
    (hpage : page < tables.pages) (entry : Entry) (hentry : entry.valid = false) :
    (tables.write pid page entry).Tracked now
      (Function.update recent pid (withoutPage page (recent pid))) := by
  constructor
  · intro other
    by_cases hsame : other = pid
    · subst hsame
      rw [cell_write_self hpid hpage, Function.update_self]
      exact (htracked.order other).remove (by simp [Entry.residentFrame?, hentry])
    · rw [cell_write_of_ne hpid hpage hsame, Function.update_of_ne hsame]
      exact htracked.order other
  · intro other otherPage hvalid
    rw [cell_write hpid hpage] at hvalid ⊢
    split
    next heq =>
      rw [if_pos heq, hentry] at hvalid
      exact absurd hvalid (by simp)
    next hne =>
      rw [if_neg hne] at hvalid
      exact htracked.past other otherPage hvalid

end PageTables.Tracked

/-- A process that gives back all its frames leaves an empty list behind. -/
theorem Pager.Released.tracked {pager next : Pager} {now pid : Nat}
    {recent : Nat → List (Nat × Nat)}
    (hreleased : pager.Released pid (pager.tables.row pid).resident next)
    (htracked : pager.tables.Tracked now recent) :
    next.tables.Tracked now (Function.update recent pid []) := by
  have hgone : ∀ page, (next.tables.cell pid page).residentFrame? = none := by
    intro page
    rw [hreleased.cell_eq]
    split
    next => rfl
    next hnot =>
      rw [Option.eq_none_iff_forall_ne_some]
      intro frame hframe
      have hmem := List.mem_map_of_mem (f := Prod.fst) (PageTable.mem_resident_row.mpr hframe)
      exact hnot ⟨rfl, hmem⟩
  constructor
  · intro other
    by_cases hsame : other = pid
    · subst hsame
      rw [Function.update_self]
      exact .clear hgone
    · have hcell : next.tables.cell other = pager.tables.cell other := by
        funext page
        simp [hreleased.cell_eq, hsame]
      rw [hcell, Function.update_of_ne hsame]
      exact htracked.order other
  · intro other page hvalid
    rw [hreleased.cell_eq] at hvalid ⊢
    split
    next heq => simp [heq] at hvalid
    next hne =>
      rw [if_neg hne] at hvalid
      exact htracked.past other page hvalid

/-! ## The list pager follows the pager -/

/-- The list pager holds what the pager holds. -/
structure Pager.Represents (pager : Pager) (lists : ListPager) : Prop where
  processes_eq : lists.processes = pager.processes
  pages_eq : lists.pages = pager.tables.pages
  order : ∀ pid, RecencyOrder (pager.tables.cell pid) (lists.recent pid)
  free_eq : lists.free = pager.pool.toList
  clock_eq : lists.clock = pager.clock
  counters_eq : ∀ pid, pid < pager.processes → pager.counters[pid]? = some (lists.counters pid)

/-- What ties a list pager to a coherent pager from one call to the next: the
times of use lie in the past. -/
structure Pager.Follows (pager : Pager) (lists : ListPager) : Prop extends
    pager.Represents lists where
  coherent : pager.Coherent none
  past : ∀ pid page, (pager.tables.cell pid page).valid = true →
    (pager.tables.cell pid page).lastUsed ≤ pager.clock

namespace Pager.Follows

variable {pager next : Pager} {lists : ListPager} {pid page frame : Nat}
  {resolution : Resolution}

theorem tracked (hfollows : pager.Follows lists) :
    pager.tables.Tracked pager.clock lists.recent :=
  ⟨hfollows.order, hfollows.past⟩

theorem fresh {processes pages frames : Nat}
    (hfresh : Pager.fresh processes pages frames = .ok pager) :
    pager.Follows (ListPager.fresh processes pages frames) := by
  obtain ⟨hprocesses, hpages, -, hlist, -, -, hclock, hcounters, hcells⟩ := fresh_eq_ok hfresh
  have hcell : ∀ pid, pager.tables.cell pid = fun _ => {} := fun pid => funext (hcells pid)
  refine ⟨⟨hprocesses.symm, hpages.symm, ?_, hlist.symm, hclock.symm, ?_⟩,
    fresh_coherent hfresh, ?_⟩
  · intro pid
    rw [hcell]
    exact .clear fun _ => rfl
  · intro pid hpid
    rw [hprocesses] at hpid
    simp [hcounters, ListPager.fresh, hpid]
  · intro pid page hvalid
    rw [hcells] at hvalid
    exact absurd hvalid (by simp)

theorem tally (hfollows : pager.Follows lists) (pid : Nat) (resolution : Resolution) :
    (pager.tally pid (·.record resolution)).Follows (lists.tally pid resolution) := by
  refine ⟨⟨hfollows.processes_eq, hfollows.pages_eq, hfollows.order, hfollows.free_eq,
    hfollows.clock_eq, ?_⟩, hfollows.coherent.tally _, hfollows.past⟩
  intro other hother
  have hcounters := hfollows.counters_eq other hother
  by_cases hsame : pid = other
  · subst hsame
    simp [Pager.tally, ListPager.tally, Array.getElem?_modify, hcounters]
  · simp [Pager.tally, ListPager.tally, Array.getElem?_modify, hcounters, hsame, Ne.symm hsame]

/-- Lists that track the tables of the next pager follow it, if nothing else differs. -/
theorem of_tracked (hfollows : pager.Follows lists) {after : ListPager}
    (hcoherent : next.Coherent none) (hshape : pager.SameShape next)
    (htracked : next.tables.Tracked next.clock after.recent)
    (hprocesses : after.processes = lists.processes) (hpages : after.pages = lists.pages)
    (hfree : after.free = next.pool.toList) (hclock : after.clock = next.clock)
    (hcounters : after.counters = lists.counters) (hsame : next.counters = pager.counters) :
    next.Follows after := by
  refine ⟨⟨?_, ?_, htracked.order, hfree, hclock, ?_⟩, hcoherent, htracked.past⟩
  · rw [hprocesses, hfollows.processes_eq, hshape.processes_eq]
  · rw [hpages, hfollows.pages_eq, hshape.pages_eq]
  · intro pid hpid
    rw [hcounters, hsame]
    exact hfollows.counters_eq pid (hshape.processes_eq ▸ hpid)

/-- Both resolve a reference to a legal page in the same way. -/
theorem refer (hfollows : pager.Follows lists)
    (hresolves : pager.Resolves pid page next resolution) (hpid : pid < pager.processes)
    (hpage : page < pager.tables.pages) :
    ∃ after, lists.refer pid page = (after, resolution) ∧ next.Follows after := by
  have hcoherent := hfollows.coherent
  have hnext := hresolves.coherent hcoherent hpid hpage
  have hlookup := (hfollows.order pid).lookup_eq page
  rw [hcoherent.residentFrame?_eq] at hlookup
  have hshape := hresolves.sameShape
  cases hresolves with
  | hit hframe =>
      rw [hframe] at hlookup
      refine ⟨_, ListPager.refer_of_lookup hlookup, hfollows.of_tracked hnext hshape ?_
        rfl rfl hfollows.free_eq (congrArg (· + 1) hfollows.clock_eq) rfl rfl⟩
      refine hfollows.tracked.use hpid hpage _ ?_ rfl
      simpa [Entry.residentFrame?, hcoherent.valid_of_frame hframe] using hframe
  | @loaded frame pool hnot hcons htotal hloose =>
      rw [hnot] at hlookup
      have hnotResident := hcoherent.residentFrame?_eq.trans hnot
      refine ⟨_, ListPager.refer_of_cons hlookup (hfollows.free_eq.trans hcons),
        hfollows.of_tracked hnext hshape ?_
          rfl rfl rfl (congrArg (· + 1) hfollows.clock_eq) rfl rfl⟩
      -- The page was in no list, so nothing leaves its list.
      have htracked := hfollows.tracked.use hpid hpage
        { frame := some frame, valid := true, lastUsed := pager.clock + 1 } rfl rfl
      rwa [(hfollows.order pid).withoutPage_eq_self hnotResident] at htracked
  | @replaced frame victim hnot hnil hvictim hframe =>
      rw [hnot] at hlookup
      have hlast : (lists.recent pid).getLast? = some (victim, frame) :=
        (hfollows.order pid).getLast?_eq (hcoherent.residentFrame?_eq.trans hframe)
          (PageTables.valid_of_leastRecent?_row hvictim).2
      refine ⟨_, ListPager.refer_of_getLast? hlookup (hfollows.free_eq.trans hnil) hlast,
        hfollows.of_tracked hnext hshape ?_
          rfl rfl (hfollows.free_eq.trans rfl) (congrArg (· + 1) hfollows.clock_eq) rfl rfl⟩
      -- The victim leaves the list first. The new page comes in front of what is left.
      have hvacated := hfollows.tracked.remove hpid (hcoherent.page_lt hframe)
        { pager.tables.cell pid victim with frame := none, valid := false } rfl
      have hused := hvacated.use (by simpa [processes] using hpid) (by simpa using hpage)
        { frame := some frame, valid := true, lastUsed := pager.clock + 1 } rfl rfl
      have hothers : withoutPage page (withoutPage victim (lists.recent pid)) =
          (lists.recent pid).dropLast := by
        have hself := (hfollows.order pid).withoutPage_eq_self
          (hcoherent.residentFrame?_eq.trans hnot)
        rw [(hfollows.order pid).dropLast_eq hlast]
        conv_rhs => rw [← hself]
        exact List.filter_comm _ _ _
      rw [Function.update_self, Function.update_idem, hothers] at hused
      exact hused
  | starved hnil hnone =>
      -- Without a resident page the list is empty, and there is no victim either.
      have hempty : lists.recent pid = [] := by
        rw [(hfollows.order pid).eq_nil_iff]
        intro other
        rw [hcoherent.residentFrame?_eq, hnone other]
      exact ⟨lists, ListPager.refer_of_nil (hfollows.free_eq.trans hnil) hempty, hfollows⟩

/-- Both resolve a reference in the same way, legal or not. -/
theorem access (hfollows : pager.Follows lists) (hpages : pager.tables.pages < halfWordCount)
    (pid : Nat) (page bound : Int) :
    ∃ next after resolution, pager.access pid page bound = .ok (next, resolution) ∧
      lists.access pid page bound = (after, resolution) ∧ next.Follows after := by
  rcases access_eq hfollows.coherent pid page bound with
    ⟨hpid, heq⟩ | ⟨hpid, hwithin, heq⟩ | ⟨hpid, hwithin, next, resolution, hresolves, heq⟩
  · rw [← hfollows.processes_eq] at hpid
    exact ⟨_, _, _, heq, by simp [ListPager.access, Nat.not_lt.mpr hpid], hfollows⟩
  · have hpage : ¬(0 ≤ page ∧ page < min bound lists.pages) := by
      rw [hfollows.pages_eq, ← isWithin_limit_iff hpages, hwithin]
      simp
    rw [← hfollows.processes_eq] at hpid
    exact ⟨_, _, _, heq, ListPager.access_of_illegal hpid hpage, hfollows.tally pid _⟩
  · have hpage : 0 ≤ page ∧ page < min bound lists.pages := by
      rw [hfollows.pages_eq]
      exact (isWithin_limit_iff hpages).mp hwithin
    obtain ⟨after, hrefer, hafter⟩ := hfollows.refer hresolves hpid (toNat_lt_of_isWithin hwithin)
    rw [← hfollows.processes_eq] at hpid
    exact ⟨_, _, _, heq, by rw [ListPager.access_of_legal hpid hpage, hrefer],
      hafter.tally pid _⟩

/-- Sorted by page, the list of a process is the list of its resident pages. -/
theorem mergeSort_recent (hfollows : pager.Follows lists) (pid : Nat) :
    (lists.recent pid).mergeSort byPage = (pager.tables.row pid).resident :=
  (hfollows.order pid).mergeSort_eq (fun _ _ => PageTable.mem_resident_row)
    PageTable.resident_row_pairwise

/-- Both give back the frames of a process in the same order. -/
theorem evacuate (hfollows : pager.Follows lists) (hpid : pid < pager.processes) :
    ∃ next, pager.evacuate pid = .ok (next, (lists.evacuate pid).2) ∧
      next.Follows (lists.evacuate pid).1 := by
  obtain ⟨next, heq, hnext, hreleased⟩ := evacuate_of_lt hfollows.coherent hpid
  have hsorted := hfollows.mergeSort_recent pid
  have hcount : (lists.recent pid).length = (pager.tables.row pid).resident.length := by
    rw [← hsorted, List.length_mergeSort]
  refine ⟨next, by rw [heq, ← hcount]; rfl, hfollows.of_tracked hnext hreleased.sameShape ?_
    rfl rfl ?_ (hfollows.clock_eq.trans hreleased.clock_eq.symm) rfl hreleased.counters_eq⟩
  · rw [hreleased.clock_eq]
    exact hreleased.tracked hfollows.tracked
  · rw [hreleased.toList_eq, ← hfollows.free_eq, ← hsorted]
    rfl

/-- Both give the same answer to a call. -/
theorem perform (hfollows : pager.Follows lists) (hpages : pager.tables.pages < halfWordCount)
    (call : Call) :
    (∃ next after response, pager.perform call = .ok (next, response) ∧
        lists.perform call = .ok (after, response) ∧ next.Follows after) ∨
      ∃ failure, pager.perform call = .error failure ∧ lists.perform call = .error failure := by
  cases call with
  | access pid page bound =>
      obtain ⟨next, after, resolution, heq, hafter, hnext⟩ := hfollows.access hpages pid page bound
      refine .inl ⟨next, after, .resolved resolution, ?_, ?_, hnext⟩
      · rw [Pager.perform, heq]
        rfl
      · simp only [ListPager.perform, hafter]
  | evacuate pid =>
      by_cases hpid : pid < pager.processes
      · obtain ⟨next, heq, hnext⟩ := hfollows.evacuate hpid
        refine .inl ⟨next, _, .released (lists.evacuate pid).2, ?_, ?_, hnext⟩
        · rw [Pager.perform, heq]
          rfl
        · rw [ListPager.perform, if_pos (hfollows.processes_eq ▸ hpid)]
      · have hle := Nat.le_of_not_lt hpid
        refine .inr ⟨.memory (.noSuchProcess pid pager.processes), ?_, ?_⟩
        · rw [Pager.perform, evacuate_of_le hle]
          rfl
        · rw [ListPager.perform, if_neg (hfollows.processes_eq ▸ hpid), hfollows.processes_eq]

theorem run (hfollows : pager.Follows lists) (hpages : pager.tables.pages < halfWordCount)
    (calls : List Call) :
    (pager.run calls).2 = (lists.run calls).2 ∧
      (pager.run calls).1.Follows (lists.run calls).1 := by
  obtain ⟨hanswers, hafter, -⟩ := runCalls_related
    (fun (pager : Pager) lists => pager.Follows lists ∧ pager.tables.pages < halfWordCount)
    (fun pager lists call ⟨hfollows, hpages⟩ => by
      rcases hfollows.perform hpages call with
        ⟨next, after, response, heq, hother, hnext⟩ | herror
      · obtain ⟨-, hshape⟩ := coherent_of_perform hfollows.coherent heq
        exact .inl ⟨next, after, response, heq, hother, hnext, hshape.pages_eq ▸ hpages⟩
      · exact .inr herror)
    calls ⟨hfollows, hpages⟩
  exact ⟨hanswers, hafter⟩

end Pager.Follows

namespace Pager

/-- Whatever the calls, a pager gives the same answers as the list pager of the
same dimensions, and holds what it holds. -/
theorem run_eq_listPager {processes pages frames : Nat} {pager : Pager}
    (hfresh : Pager.fresh processes pages frames = .ok pager) (hpages : pages < halfWordCount)
    (calls : List Call) :
    (pager.run calls).2 = ((ListPager.fresh processes pages frames).run calls).2 ∧
      (pager.run calls).1.Represents ((ListPager.fresh processes pages frames).run calls).1 := by
  have hfollows := Follows.fresh hfresh
  obtain ⟨hanswers, hafter⟩ := hfollows.run (hfollows.pages_eq ▸ hpages) calls
  exact ⟨hanswers, hafter.toRepresents⟩

/-- Two processes with two frames: a fault makes room at the cost of its own process. -/
theorem run_eq_listPager_two_frames :
    ∃ pager, Pager.fresh 2 3 2 = .ok pager ∧ 3 < halfWordCount ∧
      ((ListPager.fresh 2 3 2).run [.access 0 2 3, .access 0 0 3, .access 0 2 3, .access 0 1 3,
        .access 1 0 3, .evacuate 0, .access 1 0 3, .evacuate 7]).2 =
      [.ok (.resolved (.loaded 0)), .ok (.resolved (.loaded 1)), .ok (.resolved (.hit 0)),
        .ok (.resolved (.replaced 1 0)), .ok (.resolved .starved), .ok (.released 2),
        .ok (.resolved (.loaded 1)), .error (.memory (.noSuchProcess 7 2))] :=
  ⟨_, rfl, by decide, (run_eq_listPager rfl (by decide) _).1.symm.trans (by decide +kernel)⟩

end Pager

end DemandPaging
