import DemandPaging.Pager.Audit
import DemandPaging.Service.Run

/-!
# Serving a queue of requests under audit

A service under test audits its pager after each request, before it replies. A flaw that
the audit finds ends the run.
-/

namespace DemandPaging.PageService

/-- Handles one request of the process `pid` and audits the pager afterwards. -/
def serveAudited (service : PageService) (pid : Nat) (request : Request) :
    Except Failure Served := do
  let served ← service.serve pid request
  served.service.pager.audit
  return served

/-- Serves the queue under audit. `heard` says whether the dispatcher takes notices. -/
def runAudited (heard : Bool) (service : PageService) : List Letter → ServiceRun
  | [] => ⟨[], service, [], if service.allEnded then .allFinished else .noRequest⟩
  | letter :: queue =>
    if service.allEnded then ⟨[], service, letter :: queue, .allFinished⟩
    else
      match service.serveAudited letter.pid letter.request with
      | .error failure => ⟨[], service, queue, .broken failure⟩
      | .ok served =>
        let step : ServiceStep := ⟨service, letter, served⟩
        if served.notice.isSome && !heard then ⟨[step], served.service, queue, .unheard⟩
        else
          let rest := runAudited heard served.service queue
          { rest with steps := step :: rest.steps }

end DemandPaging.PageService
