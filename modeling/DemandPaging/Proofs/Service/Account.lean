import Mathlib.Data.List.Perm.Subperm
import DemandPaging.Proofs.Service.Serve

/-!
# The account of ended streams

`Serves` lists the ways in which a request can go, each with the service afterwards, the
reply and the notice. A sound service goes one of these ways with every request and stays
sound, and its account of ended streams holds the known processes that have ended theirs.
-/

namespace DemandPaging.PageService

/-- The ways in which a request is served. -/
inductive Serves (service : PageService) (pid : Nat) : Request → Served → Prop where
  | access {page bound : Int} {pager : Pager} {resolution : Resolution}
      (haccess : service.pager.access pid page bound = .ok (pager, resolution)) :
      Serves service pid (.access page bound)
        ⟨{ service with pager }, ⟨pid, resolution.outcome⟩,
          (service.event? resolution).map (⟨pid, ·⟩)⟩
  | released {pager : Pager} {count : Nat} (hfirst : service.isFirstEnd pid = true)
      (hreclaims : service.reclaims = true)
      (hevacuate : service.pager.evacuate pid = .ok (pager, count)) :
      Serves service pid .endOfStream
        ⟨{ service with pager, ended := service.ended ++ [pid] }, ⟨pid, .endOfStream⟩,
          some ⟨pid, .ended⟩⟩
  | kept (hfirst : service.isFirstEnd pid = true) (hkeeps : service.reclaims = false) :
      Serves service pid .endOfStream
        ⟨{ service with ended := service.ended ++ [pid] }, ⟨pid, .endOfStream⟩,
          some ⟨pid, .ended⟩⟩
  | repeated (hlater : service.isFirstEnd pid = false) :
      Serves service pid .endOfStream ⟨service, ⟨pid, .endOfStream⟩, none⟩

/-- The pager is coherent, and the account of ended streams holds known processes, each
of them once. -/
structure Sound (service : PageService) : Prop where
  coherent : service.pager.Coherent none
  nodup_ended : service.ended.Nodup
  ended_lt : ∀ pid ∈ service.ended, pid < service.processes

variable {service last : PageService} {pid other : Nat} {request : Request} {served : Served}
  {requests : List (Nat × Request)} {answers : List Served}

theorem fresh_sound {settings : Settings} (hfresh : fresh settings = .ok service) :
    service.Sound ∧ service.processes = settings.processes ∧
      service.reclaims = settings.reclaims ∧ service.ended = [] := by
  obtain ⟨hpager, hreclaims, -, hended⟩ := fresh_eq_ok hfresh
  refine ⟨⟨Pager.fresh_coherent hpager, ?_, ?_⟩, (Pager.fresh_eq_ok hpager).1, hreclaims, hended⟩
  · rw [hended]
    exact List.nodup_nil
  · simp [hended]

/-- All streams have ended when every known process is on the account. -/
theorem Sound.allEnded_iff (hsound : service.Sound) :
    service.allEnded = true ↔ ∀ pid, pid < service.processes → pid ∈ service.ended := by
  have hsubset : service.ended ⊆ List.range service.processes := by
    intro pid hpid
    exact List.mem_range.mpr (hsound.ended_lt pid hpid)
  rw [allEnded, decide_eq_true_eq]
  constructor
  · intro hle pid hpid
    have hperm := (hsound.nodup_ended.subperm hsubset).perm_of_length_le
      (by rw [List.length_range]; exact hle)
    exact hperm.mem_iff.mpr (List.mem_range.mpr hpid)
  · intro hall
    have hlength := List.nodup_range.length_le_of_subset
      (fun pid hpid => hall pid (List.mem_range.mp hpid) :
        List.range service.processes ⊆ service.ended)
    rwa [List.length_range] at hlength

/-! ## One request -/

/-- A sound service serves every request, whoever it is from. -/
theorem exists_serves (hsound : service.Sound) (pid : Nat) (request : Request) :
    ∃ served, service.Serves pid request served := by
  cases request with
  | access page bound =>
      obtain ⟨next, resolution, haccess, -⟩ :=
        Pager.access_coherent hsound.coherent pid page bound
      exact ⟨_, .access haccess⟩
  | endOfStream =>
      cases hfirst : service.isFirstEnd pid with
      | false => exact ⟨_, .repeated hfirst⟩
      | true =>
          cases hreclaims : service.reclaims with
          | false => exact ⟨_, .kept hfirst hreclaims⟩
          | true =>
              obtain ⟨next, hevacuate, -⟩ :=
                Pager.evacuate_of_lt hsound.coherent (isFirstEnd_iff.mp hfirst).1
              exact ⟨_, .released hfirst hreclaims hevacuate⟩

theorem Serves.serve_eq (hserves : service.Serves pid request served) :
    service.serve pid request = .ok served := by
  cases hserves with
  | access haccess => exact serve_access haccess
  | released hfirst hreclaims hevacuate =>
      exact serve_firstEnd_of_reclaims hfirst hreclaims hevacuate
  | kept hfirst hkeeps => exact serve_firstEnd_of_keeps hfirst hkeeps
  | repeated hlater => exact serve_laterEnd hlater

/-- A request that is answered goes one of these ways, whatever the service is like. -/
theorem serves_of_eq_ok (hserve : service.serve pid request = .ok served) :
    service.Serves pid request served := by
  cases request with
  | access page bound =>
      obtain ⟨⟨pager, resolution⟩, haccess, hresult⟩ := exists_of_bind_eq_ok hserve
      obtain rfl := Except.ok.inj hresult
      exact .access haccess
  | endOfStream =>
      cases hfirst : service.isFirstEnd pid with
      | false =>
          rw [serve_laterEnd hfirst] at hserve
          obtain rfl := Except.ok.inj hserve
          exact .repeated hfirst
      | true =>
          cases hreclaims : service.reclaims with
          | false =>
              rw [serve_firstEnd_of_keeps hfirst hreclaims] at hserve
              obtain rfl := Except.ok.inj hserve
              exact .kept hfirst hreclaims
          | true =>
              cases hevacuate : service.pager.evacuate pid with
              | error failure =>
                  simp only [serve, endStream, hfirst, hreclaims, hevacuate, if_true, bind,
                    Except.bind] at hserve
                  exact absurd hserve (by simp)
              | ok result =>
                  rw [serve_firstEnd_of_reclaims hfirst hreclaims hevacuate] at hserve
                  obtain rfl := Except.ok.inj hserve
                  exact .released hfirst hreclaims hevacuate

namespace Serves

/-- A request keeps the pager coherent and its dimensions fixed. -/
theorem coherent (hserves : service.Serves pid request served)
    (hcoherent : service.pager.Coherent none) :
    served.service.pager.Coherent none ∧ service.pager.SameShape served.service.pager := by
  cases hserves with
  | access haccess => exact Pager.coherent_of_access hcoherent haccess
  | released _ _ hevacuate => exact Pager.coherent_of_evacuate hcoherent hevacuate
  | kept | repeated => exact ⟨hcoherent, .refl _⟩

theorem processes_eq (hserves : service.Serves pid request served)
    (hcoherent : service.pager.Coherent none) :
    served.service.processes = service.processes :=
  (hserves.coherent hcoherent).2.processes_eq

theorem reclaims_eq (hserves : service.Serves pid request served) :
    served.service.reclaims = service.reclaims := by
  cases hserves <;> rfl

/-- The first end of a known process goes on the account, and nothing else. -/
theorem ended_eq (hserves : service.Serves pid request served) :
    served.service.ended = service.ended ∨
      service.isFirstEnd pid = true ∧ request = .endOfStream ∧
        served.notice = some ⟨pid, .ended⟩ ∧ served.service.ended = service.ended ++ [pid] := by
  cases hserves with
  | access => exact .inl rfl
  | released hfirst => exact .inr ⟨hfirst, rfl, rfl, rfl⟩
  | kept hfirst => exact .inr ⟨hfirst, rfl, rfl, rfl⟩
  | repeated => exact .inl rfl

theorem sound (hserves : service.Serves pid request served) (hsound : service.Sound) :
    served.service.Sound := by
  have hprocesses := hserves.processes_eq hsound.coherent
  refine ⟨(hserves.coherent hsound.coherent).1, ?_, ?_⟩
  · rcases hserves.ended_eq with heq | ⟨hfirst, -, -, heq⟩
    · rw [heq]
      exact hsound.nodup_ended
    · rw [heq]
      exact List.nodup_append'.mpr ⟨hsound.nodup_ended, List.nodup_singleton pid,
        by simpa using (isFirstEnd_iff.mp hfirst).2⟩
  · intro other hother
    rw [hprocesses]
    rcases hserves.ended_eq with heq | ⟨hfirst, -, -, heq⟩
    · exact hsound.ended_lt other (heq ▸ hother)
    · rw [heq, List.mem_append, List.mem_singleton] at hother
      rcases hother with hold | rfl
      · exact hsound.ended_lt other hold
      · exact (isFirstEnd_iff.mp hfirst).1

/-- A process is on the account from its first end of stream on. -/
theorem mem_ended_iff (hserves : service.Serves pid request served) :
    other ∈ served.service.ended ↔
      other ∈ service.ended ∨
        (other, .endOfStream) = (pid, request) ∧ other < service.processes := by
  cases hserves with
  | access => simp
  | released hfirst | kept hfirst =>
      obtain ⟨hpid, -⟩ := isFirstEnd_iff.mp hfirst
      simp only [List.mem_append, List.mem_singleton, Prod.mk.injEq, and_true]
      exact or_congr_right ⟨fun heq => ⟨heq, heq ▸ hpid⟩, And.left⟩
  | repeated hlater =>
      have hknown : pid < service.processes → pid ∈ service.ended := by
        simpa [isFirstEnd] using hlater
      simp only [Prod.mk.injEq, and_true]
      refine ⟨.inl, ?_⟩
      rintro (hmem | ⟨rfl, hpid⟩)
      · exact hmem
      · exact hknown hpid

end Serves

/-! ## Many requests -/

/-- The requests are served one after another, each in one of the ways. -/
inductive ServesAll : PageService → List (Nat × Request) → List Served → PageService → Prop where
  | nil {service : PageService} : ServesAll service [] [] service
  | cons {service last : PageService} {pid : Nat} {request : Request} {served : Served}
      {requests : List (Nat × Request)} {answers : List Served}
      (hserves : service.Serves pid request served)
      (hrest : ServesAll served.service requests answers last) :
      ServesAll service ((pid, request) :: requests) (served :: answers) last

theorem exists_servesAll (hsound : service.Sound) (requests : List (Nat × Request)) :
    ∃ last answers, ServesAll service requests answers last := by
  induction requests generalizing service with
  | nil => exact ⟨service, [], .nil⟩
  | cons item requests ih =>
      obtain ⟨served, hserves⟩ := exists_serves hsound item.1 item.2
      obtain ⟨last, answers, hrest⟩ := ih (hserves.sound hsound)
      exact ⟨last, served :: answers, .cons hserves hrest⟩

theorem ServesAll.serveAll_eq (hserves : ServesAll service requests answers last) :
    service.serveAll requests = .ok (last, answers) := by
  induction hserves with
  | nil => rfl
  | cons hserves _ ih => exact serveAll_cons hserves.serve_eq ih

theorem Sound.servesAll (hsound : service.Sound)
    (hserveAll : service.serveAll requests = .ok (last, answers)) :
    ServesAll service requests answers last := by
  obtain ⟨found, foundAnswers, hserves⟩ := exists_servesAll hsound requests
  obtain ⟨rfl, rfl⟩ := Prod.mk.inj (Except.ok.inj (hserveAll.symm.trans hserves.serveAll_eq))
  exact hserves

namespace ServesAll

theorem length_eq (hserves : ServesAll service requests answers last) :
    answers.length = requests.length := by
  induction hserves with
  | nil => rfl
  | cons _ _ ih => rw [List.length_cons, List.length_cons, ih]

theorem append {middle : PageService} {later : List (Nat × Request)} {rest : List Served}
    (hfirst : ServesAll service requests answers middle)
    (hlater : ServesAll middle later rest last) :
    ServesAll service (requests ++ later) (answers ++ rest) last := by
  induction hfirst with
  | nil => exact hlater
  | cons hserves _ ih => exact .cons hserves (ih hlater)

theorem sound (hserves : ServesAll service requests answers last) (hsound : service.Sound) :
    last.Sound ∧ service.pager.SameShape last.pager := by
  induction hserves with
  | nil => exact ⟨hsound, .refl _⟩
  | cons hserves _ ih =>
      obtain ⟨hlast, hshape⟩ := ih (hserves.sound hsound)
      exact ⟨hlast, (hserves.coherent hsound.coherent).2.trans hshape⟩

theorem reclaims_eq (hserves : ServesAll service requests answers last) :
    last.reclaims = service.reclaims := by
  induction hserves with
  | nil => rfl
  | cons hserves _ ih => exact ih.trans hserves.reclaims_eq

/-- The account holds the known processes with an end of stream among the requests. -/
theorem mem_ended_iff (hserves : ServesAll service requests answers last)
    (hsound : service.Sound) :
    pid ∈ last.ended ↔
      pid ∈ service.ended ∨ (pid, .endOfStream) ∈ requests ∧ pid < service.processes := by
  induction hserves with
  | nil => simp
  | cons hserves _ ih =>
      rw [ih (hserves.sound hsound), hserves.mem_ended_iff,
        hserves.processes_eq hsound.coherent, List.mem_cons, or_assoc, or_and_right]

end ServesAll

end DemandPaging.PageService
