import DemandPaging.Proofs.Pager.Conservation
import DemandPaging.Proofs.Pager.Inclusion
import DemandPaging.Proofs.Pager.Isolation
import DemandPaging.Proofs.Simulation.SequentialRun

/-!
# Visits of clients to a pager

A client visits a pager from its first reference to the end of its stream, and one
client after another has its visit. On the list pager the visits are a function, so
the report of a whole simulation is one too: a simulation that is accepted runs to
the report that its visits leave behind.
-/

namespace DemandPaging

namespace ListPager

/-- Resolves the references of a process up to the end marker, or up to the first
one whose outcome ends them. -/
def resolve (lists : ListPager) (pid : Nat) (bound : Int) :
    List Int → ListPager × List Resolution
  | [] => (lists, [])
  | page :: references =>
    if page = endMarker then (lists, [])
    else
      let (next, resolution) := lists.access pid page bound
      if resolution.outcome.endsReferences then (next, [resolution])
      else
        let (last, rest) := next.resolve pid bound references
        (last, resolution :: rest)

/-- A client has its references resolved, and leaves its frames behind if the pager
reclaims them. -/
def visit (lists : ListPager) (reclaims : Bool) (client : Client) :
    ListPager × List Resolution :=
  let (next, resolutions) := lists.resolve client.pid client.bound client.references
  (if reclaims then (next.evacuate client.pid).1 else next, resolutions)

/-- The visits of clients, one after another. -/
def visits (lists : ListPager) (reclaims : Bool) :
    List Client → ListPager × List (List Resolution)
  | [] => (lists, [])
  | client :: clients =>
    let (next, resolutions) := lists.visit reclaims client
    let (last, rest) := next.visits reclaims clients
    (last, resolutions :: rest)

/-- Every resident page, by process and page. -/
def resident (lists : ListPager) : List ResidentPage :=
  (List.range lists.processes).flatMap fun pid =>
    ((lists.recent pid).mergeSort byPage).map fun (page, frame) => ⟨pid, page, frame⟩

variable {lists next : ListPager} {pid : Nat} {page bound : Int} {references : List Int}
  {reclaims : Bool}

theorem resolve_of_end (hrequest : nextRequest bound references = .endOfStream) :
    lists.resolve pid bound references = (lists, []) := by
  cases references with
  | nil => rfl
  | cons page references =>
      rw [nextRequest, Request.ofReference_eq_endOfStream_iff] at hrequest
      rw [resolve, if_pos hrequest]

/-- One reference is resolved, and then those that its outcome leaves. -/
theorem resolve_cons (hpage : page ≠ endMarker) {resolution : Resolution}
    (haccess : lists.access pid page bound = (next, resolution)) :
    lists.resolve pid bound (page :: references) =
      (next.resolve pid bound (remaining (page :: references) resolution.outcome)).map id
        (resolution :: ·) := by
  simp only [resolve, hpage, if_false, haccess, remaining]
  split
  next => rfl
  next => rfl

theorem visit_of_end (hrequest : nextRequest bound references = .endOfStream) :
    lists.visit reclaims ⟨pid, bound, references⟩ =
      (if reclaims then (lists.evacuate pid).1 else lists, []) := by
  simp only [visit, resolve_of_end hrequest]

theorem visit_cons (hpage : page ≠ endMarker) {resolution : Resolution}
    (haccess : lists.access pid page bound = (next, resolution)) :
    lists.visit reclaims ⟨pid, bound, page :: references⟩ =
      (next.visit reclaims ⟨pid, bound, remaining (page :: references) resolution.outcome⟩).map id
        (resolution :: ·) := by
  simp only [visit, resolve_cons hpage haccess, Prod.map, id]

theorem filter_resident (hpid : pid < lists.processes) :
    lists.resident.filter (·.pid == pid) =
      ((lists.recent pid).mergeSort byPage).map fun (page, frame) => ⟨pid, page, frame⟩ := by
  -- Of the parts of the list, one for each process, only the part of `pid` is left.
  have hnone : ∀ others : List Nat, pid ∉ others →
      others.flatMap (fun other => (((lists.recent other).mergeSort byPage).map
        fun (page, frame) => (⟨other, page, frame⟩ : ResidentPage)).filter (·.pid == pid)) =
      [] := by
    intro others hnot
    rw [List.flatMap_eq_nil_iff]
    intro other hmem
    rw [List.filter_map]
    simp [Function.comp_def, ne_of_mem_of_not_mem hmem hnot]
  obtain ⟨before, after, hsplit⟩ := List.append_of_mem (List.mem_range.mpr hpid)
  have hnodup := hsplit ▸ List.nodup_range (n := lists.processes)
  obtain ⟨hbefore, hafter⟩ : pid ∉ before ∧ pid ∉ after := by
    rw [List.nodup_append', List.nodup_cons] at hnodup
    exact ⟨fun hmem => hnodup.2.2 hmem List.mem_cons_self, hnodup.2.1.1⟩
  rw [resident, List.filter_flatMap, hsplit, List.flatMap_append, List.flatMap_cons,
    hnone before hbefore, hnone after hafter, List.filter_map]
  simp [Function.comp_def]

/-- The pages that are resident for one process. -/
theorem perm_resident (hpid : pid < lists.processes) :
    ((lists.resident.filter (·.pid == pid)).map (·.page)).Perm (lists.pagesOf pid) := by
  rw [filter_resident hpid, List.map_map]
  exact (List.mergeSort_perm (lists.recent pid) byPage).map Prod.fst

/-! ## What a visit leaves alone -/

theorem sameBut_resolve (lists : ListPager) (pid : Nat) (bound : Int) (references : List Int) :
    SameBut pid lists (lists.resolve pid bound references).1 := by
  induction references generalizing lists with
  | nil => exact .refl pid lists
  | cons page references ih =>
      unfold resolve
      split
      next => exact .refl pid lists
      next =>
        have hstep := sameBut_access lists pid page bound
        dsimp only
        split
        next => exact hstep
        next => exact hstep.trans (ih _)

theorem sameBut_visit (lists : ListPager) (reclaims : Bool) (client : Client) :
    SameBut client.pid lists (lists.visit reclaims client).1 := by
  have hresolve := sameBut_resolve lists client.pid client.bound client.references
  cases reclaims with
  | false => exact hresolve
  | true => exact hresolve.trans (sameBut_evacuate _ client.pid)

theorem visits_processes (clients : List Client) :
    (lists.visits reclaims clients).1.processes = lists.processes := by
  induction clients generalizing lists with
  | nil => rfl
  | cons client clients ih => exact ih.trans (sameBut_visit lists reclaims client).processes_eq

/-- Later visits leave alone what a process without a visit holds and has counted. -/
theorem sameAt_visits (lists : ListPager) (reclaims : Bool) (clients : List Client)
    (hpid : ∀ client ∈ clients, client.pid ≠ pid) :
    (lists.visits reclaims clients).1.recent pid = lists.recent pid ∧
      (lists.visits reclaims clients).1.counters pid = lists.counters pid := by
  induction clients generalizing lists with
  | nil => exact ⟨rfl, rfl⟩
  | cons client clients ih =>
      obtain ⟨hhead, htail⟩ := List.forall_mem_cons.mp hpid
      have hvisit := sameBut_visit lists reclaims client
      obtain ⟨hrecent, hcounters⟩ := ih (lists.visit reclaims client).1 htail
      exact ⟨hrecent.trans (hvisit.recent_eq pid hhead.symm),
        hcounters.trans (hvisit.counters_eq pid hhead.symm)⟩

end ListPager

/-! ## The pager is visited in the same way -/

namespace Pager.Follows

variable {pager : Pager} {lists : ListPager}

theorem resident_eq (hfollows : pager.Follows lists) : pager.resident = lists.resident := by
  rw [Pager.resident_eq, ListPager.resident, hfollows.processes_eq]
  refine List.flatMap_congr fun pid _ => ?_
  rw [hfollows.mergeSort_recent]

theorem count_eq (hfollows : pager.Follows lists) : pager.pool.count = lists.free.length := by
  rw [hfollows.free_eq, FramePool.length_toList]

end Pager.Follows

variable {pid processes first : Nat} {bound : Int} {desk final : Desk} {references : List Int}
  {outcomes : List Outcome} {lists : ListPager}

theorem Talks.visit (htalks : Talks pid bound desk references final outcomes)
    (hworking : desk.service.Working processes pid) (hpid : pid < processes)
    (hfollows : desk.service.pager.Follows lists) (hpages : lists.pages < halfWordCount) :
    final.service.pager.Follows
        (lists.visit desk.service.reclaims ⟨pid, bound, references⟩).1 ∧
      outcomes = (lists.visit desk.service.reclaims ⟨pid, bound, references⟩).2.map
        Resolution.outcome ∧
      final.service.reclaims = desk.service.reclaims ∧
      desk.service.pager.SameShape final.service.pager := by
  induction htalks generalizing lists with
  | @last desk references served hrequest hserve =>
      have hfirst := hworking.isFirstEnd hpid
      rw [ListPager.visit_of_end hrequest]
      cases hreclaims : desk.service.reclaims with
      | false =>
          rw [PageService.serve_firstEnd_of_keeps hfirst hreclaims] at hserve
          obtain rfl := Except.ok.inj hserve
          exact ⟨hfollows, rfl, hreclaims, .refl _⟩
      | true =>
          have hknown : pid < desk.service.processes := hworking.processes_eq ▸ hpid
          obtain ⟨next, hevacuate, hnext⟩ := hfollows.evacuate hknown
          rw [PageService.serve_firstEnd_of_reclaims hfirst hreclaims hevacuate] at hserve
          obtain rfl := Except.ok.inj hserve
          exact ⟨hnext, rfl, hreclaims, Pager.sameShape_of_evacuate hfollows.coherent hevacuate⟩
  | @more desk final page references served outcomes hrequest hserve _ ih =>
      obtain ⟨_, heq, hworks, -⟩ := hworking.serve_access_eq_ok pid page bound
      obtain rfl := Except.ok.inj (hserve.symm.trans heq)
      obtain ⟨next, after, resolution, haccess, hafter, hnext⟩ :=
        hfollows.access (hfollows.pages_eq ▸ hpages) pid page bound
      rw [PageService.serve_access haccess] at hserve
      obtain rfl := Except.ok.inj hserve
      have hpage : page ≠ endMarker := by
        rintro rfl
        rw [nextRequest, Request.ofReference_eq_endOfStream_iff.mpr rfl] at hrequest
        exact absurd hrequest (by simp)
      have hsame := ListPager.sameBut_access lists pid page bound
      rw [hafter] at hsame
      obtain ⟨hfinal, houtcomes, hreclaims, hshape⟩ := ih hworks hnext (hsame.pages_eq ▸ hpages)
      rw [ListPager.visit_cons hpage hafter]
      exact ⟨hfinal, congrArg (resolution.outcome :: ·) houtcomes, hreclaims,
        (Pager.sameShape_of_access hfollows.coherent haccess).trans hshape⟩

theorem Performs.visits {clients : List Client} {rest : List (List Outcome)}
    (hperforms : Performs desk clients final rest)
    (hworking : desk.service.Working processes first) (hnumbered : Numbered first clients)
    (hlength : first + clients.length = processes)
    (hfollows : desk.service.pager.Follows lists) (hpages : lists.pages < halfWordCount) :
    final.service.pager.Follows (lists.visits desk.service.reclaims clients).1 ∧
      rest = (lists.visits desk.service.reclaims clients).2.map (·.map Resolution.outcome) ∧
      desk.service.pager.SameShape final.service.pager := by
  induction hperforms generalizing first lists with
  | nil => exact ⟨hfollows, rfl, .refl _⟩
  | @cons desk middle final client clients outcomes rest htalks _ ih =>
      rw [List.length_cons] at hlength
      have hpid : first < processes := by omega
      obtain rfl := hnumbered.head
      obtain ⟨hmiddle, houtcomes, hreclaims, hshape⟩ := htalks.visit hworking hpid hfollows hpages
      have hsame := ListPager.sameBut_visit lists desk.service.reclaims client
      obtain ⟨hfinal, hrest, hlastShape⟩ := ih (htalks.working hworking hpid) hnumbered.tail
        (by omega) hmiddle (hsame.pages_eq ▸ hpages)
      rw [hreclaims] at hfinal hrest
      exact ⟨hfinal, List.cons_eq_cons.mpr ⟨houtcomes, hrest⟩, hshape.trans hlastShape⟩

/-! ## The report of the visits -/

namespace Simulation

/-- The list pager after the visits of all processes, and how their references were
resolved. -/
def visits (simulation : Simulation) : ListPager × List (List Resolution) :=
  (ListPager.fresh simulation.settings.processes simulation.settings.pages
    simulation.settings.frames).visits simulation.settings.reclaims simulation.clients

/-- The report that the visits of all processes leave behind. -/
def listReport (simulation : Simulation) : Report where
  seed := simulation.seed
  admissionOrder := List.range simulation.settings.processes
  clients := List.zipWith (fun client resolutions => {
    pid := client.pid
    bound := client.bound
    outcomes := resolutions.map Resolution.outcome
    counters := simulation.visits.1.counters client.pid }) simulation.clients simulation.visits.2
  resident := simulation.visits.1.resident
  freeFrames := simulation.visits.1.free.length
  clock := simulation.visits.1.clock

variable {simulation : Simulation} {settings : Settings} {clients : List Client}
  {start : PageService}

/-- The report of a service whose pager the visits have left behind. -/
theorem reportOf_eq_listReport {last : PageService} (hnumbered : Numbered 0 simulation.clients)
    (hlength : simulation.clients.length = simulation.settings.processes)
    (hfollows : last.pager.Follows simulation.visits.1) :
    simulation.reportOf last (simulation.visits.2.map (·.map Resolution.outcome)) =
      simulation.listReport := by
  have hcounters : ∀ client ∈ simulation.clients,
      last.pager.counters[client.pid]?.getD {} = simulation.visits.1.counters client.pid := by
    intro client hmem
    obtain ⟨index, hindex, rfl⟩ := List.mem_iff_getElem.mp hmem
    have hpid := hnumbered index simulation.clients[index] (List.getElem?_eq_getElem hindex)
    have hknown : simulation.clients[index].pid < last.pager.processes := by
      rw [hpid, ← hfollows.processes_eq, visits, ListPager.visits_processes]
      show 0 + index < simulation.settings.processes
      omega
    rw [hfollows.counters_eq _ hknown]
    rfl
  simp only [reportOf, listReport, hfollows.resident_eq, hfollows.count_eq, ← hfollows.clock_eq]
  congr 1
  rw [List.zipWith_map_right, ← List.map_uncurry_zip_eq_zipWith,
    ← List.map_uncurry_zip_eq_zipWith]
  refine List.map_congr_left ?_
  rintro ⟨client, resolutions⟩ hmem
  simp only [Function.uncurry_apply_pair, hcounters client (List.of_mem_zip hmem).1]

/-- The pager of the service ends where the visits do. -/
theorem exists_performs_visits (hof : of settings clients = .ok simulation)
    (hstart : PageService.fresh settings = .ok start) (hpages : settings.pages < halfWordCount) :
    ∃ final, Performs ⟨start, #[]⟩ clients final
        (simulation.visits.2.map (·.map Resolution.outcome)) ∧
      final.service.pager.Follows simulation.visits.1 ∧
      final.service.pager.pool.total = settings.frames := by
  obtain ⟨final, outcomes, hperforms⟩ := exists_performs hof hstart
  obtain ⟨rfl, hlength, hnumbered⟩ := of_eq_ok hof
  obtain ⟨hpager, hreclaims, -, -⟩ := PageService.fresh_eq_ok hstart
  have hworking : (⟨start, #[]⟩ : Desk).service.Working settings.processes 0 :=
    PageService.fresh_working hstart
  have hclients : 0 + clients.length = settings.processes := by rw [Nat.zero_add, hlength]
  obtain ⟨hfollows, rfl, hshape⟩ := hperforms.visits hworking hnumbered hclients
    (Pager.Follows.fresh hpager) hpages
  obtain ⟨-, -, htotal, -⟩ := Pager.fresh_eq_ok hpager
  rw [hreclaims] at hfollows hperforms
  exact ⟨final, hperforms, hfollows, hshape.frames_eq.trans htotal⟩

/-- A simulation that is accepted, and whose service can be set up, runs to the
report that its visits leave behind. -/
theorem run_eq_listReport (hof : of settings clients = .ok simulation)
    (hstart : PageService.fresh settings = .ok start) (hpages : settings.pages < halfWordCount) :
    simulation.run = .ok simulation.listReport := by
  obtain ⟨final, hperforms, hfollows, -⟩ := exists_performs_visits hof hstart hpages
  obtain ⟨rfl, hlength, hnumbered⟩ := of_eq_ok hof
  rw [run_eq_ok hstart hnumbered hlength hperforms,
    reportOf_eq_listReport hnumbered hlength hfollows]

/-- After the visits, the free frames and the frames of the resident pages are all
frames, each once. -/
theorem visits_perm_range (hof : of settings clients = .ok simulation)
    (hstart : PageService.fresh settings = .ok start) (hpages : settings.pages < halfWordCount) :
    (simulation.visits.1.free ++ simulation.visits.1.resident.map ResidentPage.frame).Perm
      (List.range settings.frames) := by
  obtain ⟨final, -, hfollows, htotal⟩ := exists_performs_visits hof hstart hpages
  have hperm := hfollows.coherent.perm_range
  rwa [hfollows.resident_eq, ← hfollows.free_eq, htotal] at hperm

end Simulation

end DemandPaging
