import DemandPaging.Pager.Log
import DemandPaging.Service.Run

/-!
# What the paging service reports
-/

namespace DemandPaging

namespace PageService

/-- The reports on an end of stream. -/
def endRecords (service : PageService) (pid : Nat) : List Log.Record :=
  if service.isFirstEnd pid then
    ⟨.info, .memory, s!"pid={pid} end-of-ref"⟩ ::
      if service.reclaims then
        match service.pager.evacuate pid with
        | .ok (_, released) => [⟨.debug, .memory, s!"pid={pid} released {released} frames"⟩]
        | .error _ => []
      else []
  else if pid < service.processes then
    [⟨.warn, .memory, s!"duplicate end-of-ref from pid={pid}"⟩]
  else [⟨.warn, .memory, s!"end-of-ref from unknown pid={pid}"⟩]

/-- The reports on one request, from the service before it. -/
def serveRecords (service : PageService) (pid : Nat) : Request → List Log.Record
  | .access page bound => service.pager.accessRecords pid page bound
  | .endOfStream => service.endRecords pid

end PageService

/-- The reports on one request of a run. -/
def ServiceStep.records (step : ServiceStep) : List Log.Record :=
  let pid := step.letter.pid
  ⟨.trace, .memory, s!"recv pid={pid} {step.letter.request.text}"⟩ ::
    step.before.serveRecords pid step.letter.request ++
    if step.letter.awaited then [] else [⟨.warn, .memory, s!"pid={pid} left before its reply"⟩]

/-- All reports of a run of the given service. -/
def ServiceRun.records (start : PageService) (run : ServiceRun) : List Log.Record :=
  let tables := start.pager.tables
  [⟨.info, .memory,
      s!"started: k={tables.processes} m={tables.pages} f={start.pager.pool.total}"⟩] ++
    run.steps.flatMap ServiceStep.records ++
    if run.stop = .allFinished then
      [⟨.info, .memory,
        s!"all {run.service.ended.length} processes finished, shutting down"⟩]
    else []

end DemandPaging
