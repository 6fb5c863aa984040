import DemandPaging.Proofs.Pager.Calls
import DemandPaging.Service.Basic

/-!
# Serving requests

A service with a coherent pager answers every request, of whatever process. An
access leaves the account of ended streams alone; an end of stream counts once.
-/

namespace DemandPaging.PageService

/-- Serves requests one after another, of any processes in any order. -/
def serveAll (service : PageService) :
    List (Nat × Request) → Except Failure (PageService × List Served)
  | [] => .ok (service, [])
  | (pid, request) :: requests => do
    let served ← service.serve pid request
    let (last, rest) ← served.service.serveAll requests
    return (last, served :: rest)

variable {service : PageService} {pid : Nat}

theorem fresh_eq_ok {settings : Settings} (hfresh : fresh settings = .ok service) :
    Pager.fresh settings.processes settings.pages settings.frames = .ok service.pager ∧
      service.reclaims = settings.reclaims ∧ service.reportsHits = settings.reportsHits ∧
      service.ended = [] := by
  obtain ⟨pager, hpager, hresult⟩ := exists_of_bind_eq_ok hfresh
  obtain rfl := Except.ok.inj hresult
  exact ⟨eq_ok_of_mapError_eq_ok hpager, rfl, rfl, rfl⟩

/-- A service can be set up with at least one entry in its tables, not too many of them,
and a frame. -/
theorem exists_fresh_iff {settings : Settings} :
    (∃ service, fresh settings = .ok service) ↔
      0 < settings.processes * settings.pages ∧
        settings.processes * settings.pages < wordCount ∧ 0 < settings.frames := by
  rw [← Pager.exists_fresh_iff]
  constructor
  · rintro ⟨service, hfresh⟩
    exact ⟨service.pager, (fresh_eq_ok hfresh).1⟩
  · rintro ⟨pager, hpager⟩
    simp only [fresh, hpager, MemoryFault.orFail, Except.mapError, bind, Except.bind]
    exact ⟨_, rfl⟩

/-! ## One request -/

theorem serve_access {page bound : Int} {pager : Pager} {resolution : Resolution}
    (haccess : service.pager.access pid page bound = .ok (pager, resolution)) :
    service.serve pid (.access page bound) =
      .ok ⟨{ service with pager }, ⟨pid, resolution.outcome⟩,
        (service.event? resolution).map (⟨pid, ·⟩)⟩ := by
  simp only [serve, access, haccess, bind, Except.bind]
  rfl

theorem serve_firstEnd_of_reclaims {pager : Pager} {count : Nat}
    (hfirst : service.isFirstEnd pid = true) (hreclaims : service.reclaims = true)
    (hevacuate : service.pager.evacuate pid = .ok (pager, count)) :
    service.serve pid .endOfStream =
      .ok ⟨{ service with pager, ended := service.ended ++ [pid] }, ⟨pid, .endOfStream⟩,
        some ⟨pid, .ended⟩⟩ := by
  simp only [serve, endStream, hfirst, hreclaims, if_true, hevacuate, bind, Except.bind]
  rfl

theorem serve_firstEnd_of_keeps (hfirst : service.isFirstEnd pid = true)
    (hkeeps : service.reclaims = false) :
    service.serve pid .endOfStream =
      .ok ⟨{ service with ended := service.ended ++ [pid] }, ⟨pid, .endOfStream⟩,
        some ⟨pid, .ended⟩⟩ := by
  simp only [serve, endStream, hfirst, hkeeps, if_true, Bool.false_eq_true, if_false, bind,
    Except.bind]
  rfl

theorem serve_laterEnd (hlater : service.isFirstEnd pid = false) :
    service.serve pid .endOfStream = .ok ⟨service, ⟨pid, .endOfStream⟩, none⟩ := by
  simp only [serve, endStream, hlater, Bool.false_eq_true, if_false]
  rfl

theorem isFirstEnd_iff :
    service.isFirstEnd pid = true ↔ pid < service.processes ∧ pid ∉ service.ended := by
  simp [isFirstEnd]

theorem reply_of_endOfStream {served : Served}
    (hserve : service.serve pid .endOfStream = .ok served) :
    served.reply = ⟨pid, .endOfStream⟩ := by
  simp only [serve, endStream] at hserve
  split at hserve
  next =>
    split at hserve
    next =>
      cases hevacuate : service.pager.evacuate pid with
      | error failure =>
          rw [hevacuate] at hserve
          exact absurd hserve (by simp [bind, Except.bind, Functor.map, Except.map])
      | ok result =>
          rw [hevacuate] at hserve
          rw [← Except.ok.inj hserve]
    next =>
      rw [← Except.ok.inj hserve]
  next =>
    rw [← Except.ok.inj hserve]

/-! ## A service at work

In an orderly run the processes end their streams in the order of their numbers.
-/

/-- The first `count` processes have ended their streams, and the pager is coherent. -/
structure Working (service : PageService) (processes count : Nat) : Prop where
  coherent : service.pager.Coherent none
  processes_eq : service.processes = processes
  ended_eq : service.ended = List.range count

theorem allEnded_iff {processes count : Nat} (hworking : service.Working processes count) :
    service.allEnded = true ↔ processes ≤ count := by
  simp [allEnded, hworking.processes_eq, hworking.ended_eq]

theorem fresh_working {settings : Settings} (hfresh : fresh settings = .ok service) :
    service.Working settings.processes 0 := by
  obtain ⟨hpager, -, -, hended⟩ := fresh_eq_ok hfresh
  exact ⟨Pager.fresh_coherent hpager, (Pager.fresh_eq_ok hpager).1, hended⟩

namespace Working

variable {processes count : Nat}

/-- An access is served, and the dispatcher is not told of an end. -/
theorem serve_access_eq_ok (hworking : service.Working processes count) (pid : Nat)
    (page bound : Int) :
    ∃ served, service.serve pid (.access page bound) = .ok served ∧
      served.service.Working processes count ∧
      ∀ notice, served.notice = some notice → notice.pid = pid ∧ notice.event ≠ .ended := by
  obtain ⟨next, resolution, haccess, hnext, hshape⟩ :=
    Pager.access_coherent hworking.coherent pid page bound
  refine ⟨_, serve_access haccess, ⟨hnext, hshape.processes_eq.trans hworking.processes_eq,
    hworking.ended_eq⟩, ?_⟩
  intro notice hnotice
  obtain ⟨event, hevent, rfl⟩ := Option.map_eq_some_iff.mp hnotice
  refine ⟨rfl, ?_⟩
  unfold event? at hevent
  split at hevent
  next => simp [← Option.some.inj hevent]
  next => simp [← Option.some.inj hevent]
  next =>
    split at hevent
    next => simp [← Option.some.inj hevent]
    next => exact absurd hevent (by simp)
  next => exact absurd hevent (by simp)
  next => exact absurd hevent (by simp)

theorem isFirstEnd (hworking : service.Working processes pid) (hpid : pid < processes) :
    service.isFirstEnd pid = true := by
  rw [isFirstEnd_iff, hworking.processes_eq, hworking.ended_eq]
  exact ⟨hpid, by simp⟩

/-- The next end of a stream is served, and the dispatcher is told of it. -/
theorem serve_end_eq_ok (hworking : service.Working processes pid) (hpid : pid < processes) :
    ∃ served, service.serve pid .endOfStream = .ok served ∧
      served.service.Working processes (pid + 1) ∧ served.notice = some ⟨pid, .ended⟩ := by
  have hfirst := hworking.isFirstEnd hpid
  have hended : service.ended ++ [pid] = List.range (pid + 1) := by
    rw [hworking.ended_eq, List.range_succ]
  cases hreclaims : service.reclaims with
  | false =>
      exact ⟨_, serve_firstEnd_of_keeps hfirst hreclaims,
        ⟨hworking.coherent, hworking.processes_eq, hended⟩, rfl⟩
  | true =>
      have hknown : pid < service.pager.processes := by
        rw [← hworking.processes_eq] at hpid
        exact hpid
      obtain ⟨next, hevacuate, hnext, hreleased⟩ :=
        Pager.evacuate_of_lt hworking.coherent hknown
      exact ⟨_, serve_firstEnd_of_reclaims hfirst hreclaims hevacuate,
        ⟨hnext, hreleased.sameShape.processes_eq.trans hworking.processes_eq, hended⟩, rfl⟩

end Working

/-! ## Many requests -/

theorem serveAll_cons {served : Served} {request : Request} {requests : List (Nat × Request)}
    {last : PageService} {rest : List Served} (hserve : service.serve pid request = .ok served)
    (hrest : served.service.serveAll requests = .ok (last, rest)) :
    service.serveAll ((pid, request) :: requests) = .ok (last, served :: rest) := by
  simp only [serveAll, hserve, bind, Except.bind, hrest]
  rfl

theorem serveAll_append {middle last : PageService} {first second : List (Nat × Request)}
    {served rest : List Served} (hfirst : service.serveAll first = .ok (middle, served))
    (hsecond : middle.serveAll second = .ok (last, rest)) :
    service.serveAll (first ++ second) = .ok (last, served ++ rest) := by
  induction first generalizing service served with
  | nil =>
      obtain ⟨rfl, rfl⟩ := Prod.mk.inj (Except.ok.inj hfirst)
      exact hsecond
  | cons item first ih =>
      obtain ⟨pid, request⟩ := item
      obtain ⟨head, hserve, hlater⟩ := exists_of_bind_eq_ok hfirst
      obtain ⟨⟨tailLast, tailServed⟩, htail, hresult⟩ := exists_of_bind_eq_ok hlater
      obtain ⟨rfl, rfl⟩ := Prod.mk.inj (Except.ok.inj hresult)
      exact serveAll_cons hserve (ih htail)

end DemandPaging.PageService
