import DemandPaging.Proofs.Pager.Conservation
import DemandPaging.Proofs.Pager.Inclusion
import DemandPaging.Proofs.Service.Serve

/-!
# More frames never hurt

Two services that differ in the number of frames only, and that receive the same
requests, hold resident pages of which one includes the other. First come, first
served replacement has no such law; replacement by recency has it, also when
several processes draw on one pool and give their frames back at their end.
-/

namespace DemandPaging.PageService

/-- The other service has fared at least as well, and will on the next reference. -/
structure Outdone (service other : PageService) : Prop where
  resident : ∀ pid page frame, ⟨pid, page, frame⟩ ∈ service.pager.resident →
    ∃ otherFrame, ⟨pid, page, otherFrame⟩ ∈ other.pager.resident
  hit : ∀ pid page bound next frame,
    service.pager.access pid page bound = .ok (next, .hit frame) →
    ∃ otherNext otherFrame,
      other.pager.access pid page bound = .ok (otherNext, .hit otherFrame)
  starved : ∀ pid page bound otherNext,
    other.pager.access pid page bound = .ok (otherNext, .starved) →
    ∃ next, service.pager.access pid page bound = .ok (next, .starved)
  counters : ∀ pid, pid < service.processes → ∃ counters otherCounters,
    service.pager.counters[pid]? = some counters ∧
    other.pager.counters[pid]? = some otherCounters ∧
    counters.hits ≤ otherCounters.hits ∧
    otherCounters.faults + otherCounters.starved ≤ counters.faults + counters.starved

/-- Two services whose pagers follow list pagers, one of them below the other. -/
structure Paired (service other : PageService) (lists otherLists : ListPager) : Prop where
  follows : service.pager.Follows lists
  otherFollows : other.pager.Follows otherLists
  below : lists.Below otherLists
  pages_lt : lists.pages < halfWordCount
  ended_eq : other.ended = service.ended
  reclaims_eq : other.reclaims = service.reclaims

namespace Paired

variable {service other : PageService} {lists otherLists : ListPager}

theorem service_pages_lt (hpaired : Paired service other lists otherLists) :
    service.pager.tables.pages < halfWordCount := by
  rw [← hpaired.follows.pages_eq]
  exact hpaired.pages_lt

theorem other_pages_lt (hpaired : Paired service other lists otherLists) :
    other.pager.tables.pages < halfWordCount := by
  rw [← hpaired.otherFollows.pages_eq, hpaired.below.pages_eq]
  exact hpaired.pages_lt

theorem isFirstEnd_eq (hpaired : Paired service other lists otherLists) (pid : Nat) :
    other.isFirstEnd pid = service.isFirstEnd pid := by
  have hprocesses : other.processes = service.processes :=
    hpaired.otherFollows.processes_eq.symm.trans
      (hpaired.below.processes_eq.trans hpaired.follows.processes_eq)
  rw [isFirstEnd, isFirstEnd, hprocesses, hpaired.ended_eq]

/-- Both pagers resolve a reference, and the larger one no worse. -/
theorem access (hpaired : Paired service other lists otherLists) (pid : Nat) (page bound : Int) :
    ∃ next otherNext resolution otherResolution,
      service.pager.access pid page bound = .ok (next, resolution) ∧
      other.pager.access pid page bound = .ok (otherNext, otherResolution) ∧
      resolution.NoBetter otherResolution ∧
      next.Follows (lists.access pid page bound).1 ∧
      otherNext.Follows (otherLists.access pid page bound).1 := by
  obtain ⟨next, after, resolution, haccess, hafter, hnext⟩ :=
    hpaired.follows.access hpaired.service_pages_lt pid page bound
  obtain ⟨otherNext, otherAfter, otherResolution, hotherAccess, hotherAfter, hotherNext⟩ :=
    hpaired.otherFollows.access hpaired.other_pages_lt pid page bound
  have hnoBetter := (hpaired.below.access pid page bound).2
  rw [hafter, hotherAfter] at hnoBetter
  refine ⟨next, otherNext, resolution, otherResolution, haccess, hotherAccess, hnoBetter, ?_, ?_⟩
  · rw [hafter]
    exact hnext
  · rw [hotherAfter]
    exact hotherNext

/-- Both serve a request, and stay paired. -/
theorem serve (hpaired : Paired service other lists otherLists) (pid : Nat) (request : Request) :
    ∃ served otherServed after otherAfter,
      service.serve pid request = .ok served ∧ other.serve pid request = .ok otherServed ∧
      Paired served.service otherServed.service after otherAfter := by
  cases request with
  | access page bound =>
      obtain ⟨next, otherNext, resolution, otherResolution, haccess, hotherAccess, -, hnext,
        hotherNext⟩ := hpaired.access pid page bound
      have hpages := (Pager.sameShape_of_access hpaired.follows.coherent haccess).pages_eq
      refine ⟨_, _, _, _, serve_access haccess, serve_access hotherAccess, hnext, hotherNext,
        (hpaired.below.access pid page bound).1, ?_, hpaired.ended_eq, hpaired.reclaims_eq⟩
      rw [hnext.pages_eq, hpages]
      exact hpaired.service_pages_lt
  | endOfStream =>
      -- The account of ended streams does not depend on the pager, so both count it or neither.
      have hotherFirst := hpaired.isFirstEnd_eq pid
      have hended := congrArg (· ++ [pid]) hpaired.ended_eq
      cases hfirst : service.isFirstEnd pid with
      | false =>
          exact ⟨_, _, _, _, serve_laterEnd hfirst, serve_laterEnd (hotherFirst.trans hfirst),
            hpaired⟩
      | true =>
          cases hreclaims : service.reclaims with
          | false =>
              exact ⟨_, _, lists, otherLists, serve_firstEnd_of_keeps hfirst hreclaims,
                serve_firstEnd_of_keeps (hotherFirst.trans hfirst)
                  (hpaired.reclaims_eq.trans hreclaims),
                hpaired.follows, hpaired.otherFollows, hpaired.below, hpaired.pages_lt, hended,
                hpaired.reclaims_eq⟩
          | true =>
              have hpid := (isFirstEnd_iff.mp hfirst).1
              have hotherPid := (isFirstEnd_iff.mp (hotherFirst.trans hfirst)).1
              obtain ⟨next, hevacuate, hnext⟩ := hpaired.follows.evacuate hpid
              obtain ⟨otherNext, hotherEvacuate, hotherNext⟩ :=
                hpaired.otherFollows.evacuate hotherPid
              exact ⟨_, _, _, _, serve_firstEnd_of_reclaims hfirst hreclaims hevacuate,
                serve_firstEnd_of_reclaims (hotherFirst.trans hfirst)
                  (hpaired.reclaims_eq.trans hreclaims) hotherEvacuate,
                hnext, hotherNext, hpaired.below.evacuate pid, hpaired.pages_lt, hended,
                hpaired.reclaims_eq⟩

theorem serveAll (hpaired : Paired service other lists otherLists)
    (requests : List (Nat × Request)) :
    ∃ last otherLast served otherServed after otherAfter,
      service.serveAll requests = .ok (last, served) ∧
      other.serveAll requests = .ok (otherLast, otherServed) ∧
      Paired last otherLast after otherAfter := by
  induction requests generalizing service other lists otherLists with
  | nil => exact ⟨service, other, [], [], lists, otherLists, rfl, rfl, hpaired⟩
  | cons item requests ih =>
      obtain ⟨served, otherServed, _, _, hserve, hotherServe, hnext⟩ :=
        hpaired.serve item.1 item.2
      obtain ⟨last, otherLast, _, _, after, otherAfter, hrest, hotherRest, hlast⟩ := ih hnext
      exact ⟨last, otherLast, _, _, after, otherAfter, serveAll_cons hserve hrest,
        serveAll_cons hotherServe hotherRest, hlast⟩

theorem fresh {settings : Settings} {frames : Nat} (hle : settings.frames ≤ frames)
    (hpages : settings.pages < halfWordCount)
    (hservice : PageService.fresh settings = .ok service)
    (hother : PageService.fresh { settings with frames } = .ok other) :
    Paired service other (.fresh settings.processes settings.pages settings.frames)
      (.fresh settings.processes settings.pages frames) := by
  obtain ⟨hpager, hreclaims, -, hended⟩ := fresh_eq_ok hservice
  obtain ⟨hotherPager, hotherReclaims, -, hotherEnded⟩ := fresh_eq_ok hother
  exact ⟨.fresh hpager, .fresh hotherPager, .fresh hle, hpages, hotherEnded.trans hended.symm,
    hotherReclaims.trans hreclaims.symm⟩

/-- Of two paired services the larger one has fared no worse. -/
theorem outdone (hpaired : Paired service other lists otherLists) : service.Outdone other where
  resident := by
    intro pid page frame hresident
    have hcell := (hpaired.follows.coherent.mem_resident _).mp hresident
    rw [← hpaired.follows.coherent.residentFrame?_eq] at hcell
    have hpage : page ∈ lists.pagesOf pid :=
      List.mem_map_of_mem (f := Prod.fst)
        (((hpaired.follows.order pid).mem_iff page frame).mpr hcell)
    obtain ⟨⟨_, otherFrame⟩, hmem, rfl⟩ :=
      List.mem_map.mp ((hpaired.below.pagesOf_initial pid).subset hpage)
    have hotherCell := ((hpaired.otherFollows.order pid).mem_iff _ otherFrame).mp hmem
    rw [hpaired.otherFollows.coherent.residentFrame?_eq] at hotherCell
    exact ⟨otherFrame, (hpaired.otherFollows.coherent.mem_resident _).mpr hotherCell⟩
  hit := by
    intro pid page bound next frame hhit
    obtain ⟨_, otherNext, resolution, otherResolution, haccess, hotherAccess, hnoBetter, -⟩ :=
      hpaired.access pid page bound
    rw [haccess] at hhit
    obtain ⟨-, rfl⟩ := Prod.mk.inj (Except.ok.inj hhit)
    have hotherHit := hnoBetter.hit rfl
    cases otherResolution with
    | hit otherFrame => exact ⟨otherNext, otherFrame, hotherAccess⟩
    | illegal | loaded | replaced | starved => exact absurd hotherHit (by simp [Resolution.isHit])
  starved := by
    intro pid page bound otherNext hstarved
    obtain ⟨next, _, resolution, otherResolution, haccess, hotherAccess, hnoBetter, -⟩ :=
      hpaired.access pid page bound
    rw [hotherAccess] at hstarved
    obtain ⟨-, rfl⟩ := Prod.mk.inj (Except.ok.inj hstarved)
    rw [hnoBetter.starved rfl] at haccess
    exact ⟨next, haccess⟩
  counters := by
    intro pid hpid
    have hotherPid : pid < other.pager.processes := by
      rw [← hpaired.otherFollows.processes_eq, hpaired.below.processes_eq,
        hpaired.follows.processes_eq]
      exact hpid
    exact ⟨_, _, hpaired.follows.counters_eq pid hpid,
      hpaired.otherFollows.counters_eq pid hotherPid, hpaired.below.hits_le pid,
      hpaired.below.misses_le pid⟩

end Paired

/-- Services that differ in their frames only answer any requests, and the one with
more frames has fared no worse afterwards. This covers every prefix of the
requests, as a prefix is a sequence of requests itself. -/
theorem more_frames_never_hurt (settings : Settings) (frames : Nat)
    (hle : settings.frames ≤ frames) (hpages : settings.pages < halfWordCount)
    {start otherStart : PageService} (hstart : PageService.fresh settings = .ok start)
    (hotherStart : PageService.fresh { settings with frames } = .ok otherStart)
    (requests : List (Nat × Request)) :
    ∃ last otherLast served otherServed,
      start.serveAll requests = .ok (last, served) ∧
      otherStart.serveAll requests = .ok (otherLast, otherServed) ∧ last.Outdone otherLast := by
  obtain ⟨last, otherLast, served, otherServed, _, _, hlast, hotherLast, hpaired⟩ :=
    (Paired.fresh hle hpages hstart hotherStart).serveAll requests
  exact ⟨last, otherLast, served, otherServed, hlast, hotherLast, hpaired.outdone⟩

/-- Two processes on one frame and on two frames, with an end of stream in between. -/
theorem two_frames_never_hurt :
    1 ≤ 2 ∧ 3 < halfWordCount ∧ ∃ start otherStart,
      PageService.fresh { processes := 2, pages := 3, frames := 1, reclaims := true } = .ok start ∧
      PageService.fresh { processes := 2, pages := 3, frames := 2, reclaims := true } =
        .ok otherStart ∧
      ∃ last otherLast served otherServed,
        start.serveAll [(0, .access 0 3), (0, .access 1 3), (1, .access 0 3), (0, .endOfStream),
          (0, .endOfStream), (1, .access 0 3), (5, .endOfStream)] = .ok (last, served) ∧
        otherStart.serveAll [(0, .access 0 3), (0, .access 1 3), (1, .access 0 3),
          (0, .endOfStream), (0, .endOfStream), (1, .access 0 3), (5, .endOfStream)] =
          .ok (otherLast, otherServed) ∧
        last.Outdone otherLast :=
  ⟨by decide, by decide, _, _, rfl, rfl, more_frames_never_hurt
    { processes := 2, pages := 3, frames := 1, reclaims := true } 2 (by decide) (by decide)
    rfl rfl _⟩

end DemandPaging.PageService
