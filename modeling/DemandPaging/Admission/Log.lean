import DemandPaging.Admission.Dispatch
import DemandPaging.Log

/-!
# What admission reports
-/

namespace DemandPaging

/-- A running process, or none, as the reports spell it. -/
def runningText : Option Nat → String
  | none => "None"
  | some pid => s!"Some({pid})"

/-- The report that a process has finished. -/
def finishRecord (pid : Nat) : Log.Record := ⟨.info, .scheduler, s!"process {pid} finished"⟩

/-- The reports on one operation, from the table before it. -/
def Admissions.records (table : Admissions) : Admissions.Call → List Log.Record
  | .enrol registration =>
    if (table.enrol registration).2 then
      [⟨.debug, .scheduler, s!"process {registration.pid} ready"⟩]
    else [⟨.warn, .scheduler, s!"process {registration.pid} registered twice, ignoring"⟩]
  | .start => []
  | .hear ⟨pid, .fault⟩ =>
    [⟨.debug, .scheduler, s!"process {pid}: page fault handled"⟩]
  | .hear ⟨pid, .hit⟩ => [⟨.trace, .scheduler, s!"process {pid}: access without fault"⟩]
  | .hear ⟨pid, .ended⟩ =>
    if table.running = some pid then [finishRecord pid]
    else
      [⟨.warn, .scheduler,
        s!"finish notice for process {pid} while {runningText table.running} is running"⟩]
  | .settle pid => if (table.settle pid).2 then [finishRecord pid] else []

/-- The reports on one operation of a dispatcher, which also tells whom it admits. -/
def DispatchStep.records (step : DispatchStep) : List Log.Record :=
  step.before.records step.call ++
    match step.call, step.before.start? with
    | .start, some (registration, _) =>
      [⟨.info, .scheduler, s!"picked process {registration.pid} from ready queue"⟩]
    | _, _ => []

/-- All reports of a run that expects `expected` processes. -/
def DispatchRun.records (expected : Nat) (run : DispatchRun) : List Log.Record :=
  [⟨.info, .scheduler, s!"started (FCFS), expecting {expected} processes"⟩] ++
    run.steps.flatMap DispatchStep.records ++
    if run.stop = .allFinished then
      [⟨.info, .scheduler, s!"all {expected} processes finished, exiting"⟩]
    else []

end DemandPaging
