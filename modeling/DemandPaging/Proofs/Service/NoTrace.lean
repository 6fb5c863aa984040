import DemandPaging.Proofs.Pager.Recounted
import DemandPaging.Proofs.Service.Account

/-!
# Requests in vain

A request of an unknown process, a reference that gets no frame and a repeated end of a
stream are in vain: they are answered, and nothing else comes of them but that illegal and
starved references are counted. Without them everything goes the same way.
-/

namespace DemandPaging

/-- The same number of hits, of faults and of evictions. -/
structure Counters.SameSuccesses (counters other : Counters) : Prop where
  hits_eq : other.hits = counters.hits
  faults_eq : other.faults = counters.faults
  evictions_eq : other.evictions = counters.evictions

namespace Counters.SameSuccesses

variable {counters other : Counters} {resolution : Resolution}

theorem refl (counters : Counters) : counters.SameSuccesses counters := ⟨rfl, rfl, rfl⟩

theorem record (hsame : counters.SameSuccesses other) (resolution : Resolution) :
    (counters.record resolution).SameSuccesses (other.record resolution) := by
  obtain ⟨hhits, hfaults, hevictions⟩ := hsame
  cases resolution <;> constructor <;> simp [Counters.record, hhits, hfaults, hevictions]

theorem of_endsReferences (counters : Counters)
    (hends : resolution.outcome.endsReferences = true) :
    counters.SameSuccesses (counters.record resolution) := by
  cases resolution with
  | illegal | starved => exact ⟨rfl, rfl, rfl⟩
  | hit | loaded | replaced => exact absurd hends Bool.false_ne_true

end Counters.SameSuccesses

namespace PageService

/-- Two services differ in the counts of illegal and of starved references only. -/
structure SameButMisses (service other : PageService) : Prop where
  tables_eq : other.pager.tables = service.pager.tables
  pool_eq : other.pager.pool = service.pager.pool
  owners_eq : other.pager.owners = service.pager.owners
  clock_eq : other.pager.clock = service.pager.clock
  successes : ∀ pid,
    (service.pager.countersOf pid).SameSuccesses (other.pager.countersOf pid)
  ended_eq : other.ended = service.ended
  reclaims_eq : other.reclaims = service.reclaims
  reportsHits_eq : other.reportsHits = service.reportsHits

/-- Whether a request is in vain: its process is unknown, its reference is illegal or
starves, or it ends a stream that an earlier request has ended. -/
def isVain (processes : Nat) (earlier : List (Nat × Request)) (item : Nat × Request)
    (served : Served) : Bool :=
  processes ≤ item.1 || (served.reply.outcome = .illegal ∨ served.reply.outcome = .starved) ||
    item.2 == .endOfStream && earlier.contains item

/-- The requests with their answers, but for those in vain. -/
def withoutVain (processes : Nat) (earlier : List (Nat × Request)) :
    List ((Nat × Request) × Served) → List ((Nat × Request) × Served)
  | [] => []
  | (item, served) :: rest =>
    if isVain processes earlier item served then withoutVain processes (item :: earlier) rest
    else (item, served) :: withoutVain processes (item :: earlier) rest

/-- The account of ended streams is the one that these requests make. -/
def EndedBy (service : PageService) (earlier : List (Nat × Request)) : Prop :=
  ∀ pid, pid ∈ service.ended ↔ (pid, .endOfStream) ∈ earlier ∧ pid < service.processes

variable {service other last : PageService} {pid : Nat} {request : Request} {served : Served}
  {requests earlier : List (Nat × Request)} {answers : List Served}

namespace SameButMisses

theorem refl (service : PageService) : service.SameButMisses service :=
  ⟨rfl, rfl, rfl, rfl, fun _ => .refl _, rfl, rfl, rfl⟩

/-- Two services that differ from a third one in this way differ from each other in it. -/
theorem of_common {third : PageService} (hother : service.SameButMisses other)
    (hthird : service.SameButMisses third) : other.SameButMisses third := by
  refine ⟨hthird.tables_eq.trans hother.tables_eq.symm, hthird.pool_eq.trans hother.pool_eq.symm,
    hthird.owners_eq.trans hother.owners_eq.symm, hthird.clock_eq.trans hother.clock_eq.symm,
    fun pid => ?_, hthird.ended_eq.trans hother.ended_eq.symm,
    hthird.reclaims_eq.trans hother.reclaims_eq.symm,
    hthird.reportsHits_eq.trans hother.reportsHits_eq.symm⟩
  obtain ⟨hhits, hfaults, hevictions⟩ := hother.successes pid
  obtain ⟨hthirdHits, hthirdFaults, hthirdEvictions⟩ := hthird.successes pid
  exact ⟨hthirdHits.trans hhits.symm, hthirdFaults.trans hfaults.symm,
    hthirdEvictions.trans hevictions.symm⟩

theorem processes_eq (hsame : service.SameButMisses other) :
    other.processes = service.processes := congrArg PageTables.processes hsame.tables_eq

theorem pager_eq (hsame : service.SameButMisses other) :
    other.pager = service.pager.recounted other.pager.counters := by
  obtain ⟨htables, hpool, howners, hclock, -⟩ := hsame
  rw [Pager.recounted, ← htables, ← hpool, ← howners, ← hclock]

/-! ## One request -/

theorem isFirstEnd_eq (hsame : service.SameButMisses other) (pid : Nat) :
    other.isFirstEnd pid = service.isFirstEnd pid := by
  rw [isFirstEnd, isFirstEnd, hsame.processes_eq, hsame.ended_eq]

theorem event?_eq (hsame : service.SameButMisses other) (resolution : Resolution) :
    other.event? resolution = service.event? resolution := by
  simp only [event?, hsame.reportsHits_eq]

/-- A reference is resolved the same way. -/
theorem access (hsame : service.SameButMisses other) (hsound : service.Sound)
    (hother : other.Sound) {page bound : Int} {pager : Pager} {resolution : Resolution}
    (haccess : service.pager.access pid page bound = .ok (pager, resolution)) :
    ∃ otherPager, other.pager.access pid page bound = .ok (otherPager, resolution) ∧
      SameButMisses { service with pager } { other with pager := otherPager } := by
  have hotherAccess := Pager.access_recounted service.pager other.pager.counters pid page bound
  rw [← hsame.pager_eq, haccess] at hotherAccess
  refine ⟨_, hotherAccess, rfl, rfl, rfl, rfl, ?_, hsame.ended_eq, hsame.reclaims_eq,
    hsame.reportsHits_eq⟩
  intro asked
  have hprocesses : other.pager.processes = service.pager.processes := hsame.processes_eq
  simp only
  rw [Pager.countersOf_access hsound.coherent haccess,
    Pager.countersOf_access hother.coherent hotherAccess, hprocesses]
  split
  next => exact (hsame.successes asked).record resolution
  next => exact hsame.successes asked

/-- The frames of a process are given back the same way. -/
theorem evacuate (hsame : service.SameButMisses other) (hsound : service.Sound)
    (hother : other.Sound) {pager : Pager} {count : Nat}
    (hevacuate : service.pager.evacuate pid = .ok (pager, count)) :
    ∃ otherPager, other.pager.evacuate pid = .ok (otherPager, count) ∧
      SameButMisses { service with pager, ended := service.ended ++ [pid] }
        { other with pager := otherPager, ended := other.ended ++ [pid] } := by
  have hotherEvacuate := Pager.evacuate_recounted service.pager other.pager.counters pid
  rw [← hsame.pager_eq, hevacuate] at hotherEvacuate
  refine ⟨_, hotherEvacuate, rfl, rfl, rfl, rfl, ?_, congrArg (· ++ [pid]) hsame.ended_eq,
    hsame.reclaims_eq, hsame.reportsHits_eq⟩
  intro asked
  simp only
  rw [Pager.countersOf_of_evacuate hsound.coherent hevacuate,
    Pager.countersOf_of_evacuate hother.coherent hotherEvacuate]
  exact hsame.successes asked

/-- A request goes the same way. -/
theorem serves (hsame : service.SameButMisses other) (hsound : service.Sound)
    (hother : other.Sound) (hserves : service.Serves pid request served) :
    ∃ otherServed, other.Serves pid request otherServed ∧
      otherServed.reply = served.reply ∧ otherServed.notice = served.notice ∧
      served.service.SameButMisses otherServed.service := by
  cases hserves with
  | access haccess =>
      obtain ⟨otherPager, hotherAccess, hnext⟩ := hsame.access hsound hother haccess
      refine ⟨_, .access hotherAccess, rfl, ?_, hnext⟩
      rw [hsame.event?_eq]
  | released hfirst hreclaims hevacuate =>
      obtain ⟨otherPager, hotherEvacuate, hnext⟩ := hsame.evacuate hsound hother hevacuate
      exact ⟨_, .released ((hsame.isFirstEnd_eq pid).trans hfirst)
        (hsame.reclaims_eq.trans hreclaims) hotherEvacuate, rfl, rfl, hnext⟩
  | kept hfirst hkeeps =>
      exact ⟨_, .kept ((hsame.isFirstEnd_eq pid).trans hfirst) (hsame.reclaims_eq.trans hkeeps),
        rfl, rfl, { hsame with ended_eq := congrArg (· ++ [pid]) hsame.ended_eq }⟩
  | repeated hlater =>
      exact ⟨_, .repeated ((hsame.isFirstEnd_eq pid).trans hlater), rfl, rfl, hsame⟩

end SameButMisses

/-- A reference that gets no frame leaves the pager as it was, but for the counts of
references of this kind. -/
theorem sameButMisses_of_access (hsound : service.Sound) {page bound : Int} {pager : Pager}
    {resolution : Resolution}
    (haccess : service.pager.access pid page bound = .ok (pager, resolution))
    (hends : resolution.outcome.endsReferences = true) :
    service.SameButMisses { service with pager } := by
  have hsuccesses : ∀ asked,
      (service.pager.countersOf asked).SameSuccesses (pager.countersOf asked) := by
    intro asked
    rw [Pager.countersOf_access hsound.coherent haccess]
    split
    next => exact .of_endsReferences _ hends
    next => exact .refl _
  rcases Pager.access_eq hsound.coherent pid page bound with
    ⟨-, heq⟩ | ⟨-, -, heq⟩ | ⟨-, -, after, found, hresolves, heq⟩
  all_goals obtain ⟨rfl, rfl⟩ := Prod.mk.inj (Except.ok.inj (heq.symm.trans haccess))
  · exact .refl service
  · exact ⟨rfl, rfl, rfl, rfl, hsuccesses, rfl, rfl, rfl⟩
  · cases hresolves with
    | hit | loaded | replaced => exact absurd hends Bool.false_ne_true
    | starved => exact ⟨rfl, rfl, rfl, rfl, hsuccesses, rfl, rfl, rfl⟩

/-- A request in vain leaves the service as it was, but for these counts. -/
theorem Serves.sameButMisses (hserves : service.Serves pid request served)
    (hsound : service.Sound) (hended : service.EndedBy earlier)
    (hvain : isVain service.processes earlier (pid, request) served = true) :
    service.SameButMisses served.service := by
  simp only [isVain, Bool.or_eq_true, Bool.and_eq_true, decide_eq_true_eq, beq_iff_eq,
    List.contains_iff_mem, ← Outcome.endsReferences_iff] at hvain
  -- A first end is never in vain, so the two cases of it do not arise.
  have hnotFirst : request = .endOfStream → served.reply.outcome = .endOfStream →
      service.isFirstEnd pid = false := by
    rintro rfl houtcome
    rw [← Bool.not_eq_true, isFirstEnd_iff, hended pid]
    rw [houtcome] at hvain
    rintro ⟨hpid, hnot⟩
    rcases hvain with (hunknown | hends) | ⟨-, hmem⟩
    · omega
    · exact absurd hends Bool.false_ne_true
    · exact hnot ⟨hmem, hpid⟩
  cases hserves with
  | @access page bound pager resolution haccess =>
      refine sameButMisses_of_access hsound haccess ?_
      rcases hvain with (hunknown | hends) | ⟨hend, -⟩
      · obtain ⟨-, ⟨hpid, -⟩ | ⟨-, -, rfl⟩⟩ :=
          Pager.countersOf_of_access hsound.coherent haccess
        · exact absurd hpid (Nat.not_lt.mpr hunknown)
        · rfl
      · exact hends
      · exact absurd hend (by simp)
  | released hfirst | kept hfirst =>
      exact absurd hfirst (by simp [hnotFirst rfl rfl])
  | repeated => exact .refl service

/-! ## Many requests -/

theorem Serves.endedBy (hserves : service.Serves pid request served) (hsound : service.Sound)
    (hended : service.EndedBy earlier) : served.service.EndedBy ((pid, request) :: earlier) := by
  intro asked
  rw [hserves.mem_ended_iff, hended asked, hserves.processes_eq hsound.coherent, List.mem_cons]
  tauto

/-- The requests that are not in vain are answered the same way without the others. -/
theorem ServesAll.sameButMisses (hserves : ServesAll service requests answers last)
    (hsame : service.SameButMisses other) (hsound : service.Sound) (hother : other.Sound)
    (hended : service.EndedBy earlier) :
    ∃ otherLast others,
      ServesAll other ((withoutVain service.processes earlier (requests.zip answers)).map Prod.fst)
        others otherLast ∧
      others.map (fun served => (served.reply, served.notice)) =
        (withoutVain service.processes earlier (requests.zip answers)).map
          (fun (_, served) => (served.reply, served.notice)) ∧
      last.SameButMisses otherLast := by
  induction hserves generalizing other earlier with
  | nil => exact ⟨other, [], .nil, rfl, hsame⟩
  | @cons service last pid request served requests answers hserves hrest ih =>
      have hsoundNext := hserves.sound hsound
      have hendedNext := hserves.endedBy hsound hended
      have hprocesses := hserves.processes_eq hsound.coherent
      rw [List.zip_cons_cons, withoutVain]
      -- A request in vain is a step of the one run only, all others are steps of both.
      cases hvain : isVain service.processes earlier (pid, request) served with
      | true =>
          have hsilent := hserves.sameButMisses hsound hended hvain
          have hnext := ih (hsilent.of_common hsame) hsoundNext hother hendedNext
          rw [hprocesses] at hnext
          exact hnext
      | false =>
          obtain ⟨otherServed, hotherServes, hreply, hnotice, hsameNext⟩ :=
            hsame.serves hsound hother hserves
          obtain ⟨otherLast, others, hotherRest, hothers, hlast⟩ :=
            ih hsameNext hsoundNext (hotherServes.sound hother) hendedNext
          rw [hprocesses] at hotherRest hothers
          refine ⟨otherLast, otherServed :: others, .cons hotherServes hotherRest, ?_, hlast⟩
          rw [if_neg Bool.false_ne_true, List.map_cons, List.map_cons, hothers, hreply, hnotice]

/-- Every request of a service is answered. The same requests but for those in vain, sent to
a service set up alike, get the same replies and notices, and leave the same tables, pool,
owners, clock, account of ended streams, hits, faults and evictions behind. -/
theorem requests_in_vain_leave_no_trace (settings : Settings)
    (hfresh : fresh settings = .ok service) (requests : List (Nat × Request)) :
    ∃ last answers otherLast others,
      service.serveAll requests = .ok (last, answers) ∧ answers.length = requests.length ∧
      service.serveAll
          ((withoutVain settings.processes [] (requests.zip answers)).map Prod.fst) =
        .ok (otherLast, others) ∧
      others.map (fun served => (served.reply, served.notice)) =
        (withoutVain settings.processes [] (requests.zip answers)).map
          (fun (_, served) => (served.reply, served.notice)) ∧
      last.SameButMisses otherLast := by
  obtain ⟨hsound, hprocesses, -, hnone⟩ := fresh_sound hfresh
  obtain ⟨last, answers, hserves⟩ := exists_servesAll hsound requests
  have hended : service.EndedBy [] := by simp [EndedBy, hnone]
  obtain ⟨otherLast, others, hothers, hsame, hlast⟩ :=
    hserves.sameButMisses (.refl service) hsound hsound hended
  rw [hprocesses] at hothers hsame
  exact ⟨last, answers, otherLast, others, hserves.serveAll_eq, hserves.length_eq,
    hothers.serveAll_eq, hsame, hlast⟩

/-- A starved reference, one of an unknown process, an illegal one and a repeated end, among
references that are resolved. -/
theorem four_requests_in_vain_leave_no_trace :
    ∃ service, fresh { processes := 2, pages := 2, frames := 1, reclaims := true } = .ok service ∧
      ∃ last answers otherLast others,
        service.serveAll [(0, .access 0 2), (1, .access 0 2), (7, .access 0 2), (0, .access 5 9),
          (0, .endOfStream), (0, .endOfStream), (1, .access 0 2)] = .ok (last, answers) ∧
        answers.length = 7 ∧
        service.serveAll ((withoutVain 2 [] (List.zip [(0, .access 0 2), (1, .access 0 2),
          (7, .access 0 2), (0, .access 5 9), (0, .endOfStream), (0, .endOfStream),
          (1, .access 0 2)] answers)).map Prod.fst) = .ok (otherLast, others) ∧
        others.map (fun served => (served.reply, served.notice)) =
          (withoutVain 2 [] (List.zip [(0, .access 0 2), (1, .access 0 2), (7, .access 0 2),
            (0, .access 5 9), (0, .endOfStream), (0, .endOfStream), (1, .access 0 2)]
            answers)).map (fun (_, served) => (served.reply, served.notice)) ∧
        last.SameButMisses otherLast :=
  ⟨_, rfl, requests_in_vain_leave_no_trace
    { processes := 2, pages := 2, frames := 1, reclaims := true } rfl _⟩

end PageService

end DemandPaging
