import DemandPaging.Proofs.Pager.Reliable
import DemandPaging.Proofs.Service.Account
import DemandPaging.Service.Audited

/-!
# Services that never fail

A sound service serves whatever it is asked for, and stays sound. Its pager passes every
audit, so that a run under audit is the same run.
-/

namespace DemandPaging.PageService

variable {service : PageService}

theorem Serves.serveAudited_eq {pid : Nat} {request : Request} {served : Served}
    (hserves : service.Serves pid request served) (hsound : service.Sound) :
    service.serveAudited pid request = .ok served := by
  simp only [serveAudited, hserves.serve_eq, (hserves.sound hsound).coherent.audit_eq, bind,
    Except.bind]
  rfl

/-- No audit finds a flaw, in whatever order the requests come. -/
theorem runAudited_eq_run (hsound : service.Sound) (heard : Bool) (queue : List Letter) :
    service.runAudited heard queue = service.run heard queue := by
  induction queue generalizing service with
  | nil => rfl
  | cons letter queue ih =>
      obtain ⟨served, hserves⟩ := exists_serves hsound letter.pid letter.request
      simp only [runAudited, run, hserves.serveAudited_eq hsound, hserves.serve_eq,
        ih (hserves.sound hsound)]

/-- Nothing can break in a pager, whatever calls it has had, nor in a service, whatever
requests it has served; and an audit after each request makes no difference to a run. -/
theorem nothing_breaks :
    (∀ (processes pages frames : Nat) (pager : Pager),
      Pager.fresh processes pages frames = .ok pager →
      ∀ calls, (pager.run calls).1.Reliable processes frames calls.length) ∧
    ∀ (settings : Settings) (start : PageService), fresh settings = .ok start →
      (∀ requests, ∃ last answers, start.serveAll requests = .ok (last, answers)) ∧
      ∀ heard queue, start.runAudited heard queue = start.run heard queue := by
  refine ⟨fun _ _ _ _ hfresh => Pager.run_reliable hfresh, fun settings start hstart => ?_⟩
  obtain ⟨hsound, -⟩ := fresh_sound hstart
  constructor
  · intro requests
    obtain ⟨last, answers, hserves⟩ := exists_servesAll hsound requests
    exact ⟨last, answers, hserves.serveAll_eq⟩
  · exact runAudited_eq_run hsound

/-- Two processes on one frame, with an unknown process in between. -/
theorem nothing_breaks_on_one_frame :
    (∃ pager, Pager.fresh 2 2 1 = .ok pager ∧
      (pager.run [.access 0 0 2, .access 1 0 2, .evacuate 5, .access 0 1 2]).1.Reliable 2 1 4) ∧
    ∃ start, fresh { processes := 2, pages := 2, frames := 1, reclaims := true } = .ok start ∧
      (∃ last answers, start.serveAll
        [(0, .access 0 2), (5, .access 0 2), (0, .endOfStream), (1, .access 1 2)] =
          .ok (last, answers)) ∧
      start.runAudited true
          [⟨0, .access 0 2, true⟩, ⟨0, .endOfStream, true⟩, ⟨1, .access 1 2, false⟩] =
        start.run true
          [⟨0, .access 0 2, true⟩, ⟨0, .endOfStream, true⟩, ⟨1, .access 1 2, false⟩] :=
  ⟨⟨_, rfl, nothing_breaks.1 2 2 1 _ rfl _⟩, _, rfl,
    (nothing_breaks.2 { processes := 2, pages := 2, frames := 1, reclaims := true } _ rfl).1 _,
    (nothing_breaks.2 { processes := 2, pages := 2, frames := 1, reclaims := true } _ rfl).2 _ _⟩

end DemandPaging.PageService
