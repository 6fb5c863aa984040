import DemandPaging.Channel
import DemandPaging.Service.Basic

/-!
# Serving a queue of requests

A service takes requests from a queue until every process has ended its stream.
It answers each request before it tells the dispatcher of it, and stops early
when the queue gives out or the dispatcher no longer listens.
-/

namespace DemandPaging

/-- A request in the queue. -/
structure Letter where
  pid : Nat
  request : Request
  /-- Whether the sender still waits for the reply. -/
  awaited : Bool := true
  deriving DecidableEq, Repr

/-- What a service leaves behind when all processes have ended. -/
structure MemoryReport where
  resident : List ResidentPage
  freeFrames : Nat
  clock : Nat
  counters : List Counters
  deriving DecidableEq, Repr

/-- One handled request: the service before it, the request, and the result. -/
structure ServiceStep where
  before : PageService
  letter : Letter
  served : Served
  deriving DecidableEq, Repr

/-- Why a service stops. -/
inductive ServiceStop where
  | allFinished
  /-- The queue is empty. -/
  | noRequest
  /-- Nobody took the last notice. -/
  | unheard
  | broken (failure : Failure)
  deriving DecidableEq, Repr

/-- A run: the handled requests in order, the service at the end, the requests
left in the queue, and why the run ended. -/
structure ServiceRun where
  steps : List ServiceStep
  service : PageService
  unread : List Letter
  stop : ServiceStop
  deriving DecidableEq, Repr

namespace PageService

def report (service : PageService) : MemoryReport where
  resident := service.pager.resident
  freeFrames := service.pager.pool.count
  clock := service.pager.clock
  counters := service.pager.counters.toList

/-- Serves the queue. `heard` says whether the dispatcher takes notices. -/
def run (heard : Bool) (service : PageService) : List Letter → ServiceRun
  | [] => ⟨[], service, [], if service.allEnded then .allFinished else .noRequest⟩
  | letter :: queue =>
    if service.allEnded then ⟨[], service, letter :: queue, .allFinished⟩
    else
      match service.serve letter.pid letter.request with
      | .error failure => ⟨[], service, queue, .broken failure⟩
      | .ok served =>
        let step : ServiceStep := ⟨service, letter, served⟩
        if served.notice.isSome && !heard then ⟨[step], served.service, queue, .unheard⟩
        else
          let rest := run heard served.service queue
          { rest with steps := step :: rest.steps }

end PageService

namespace ServiceRun

/-- The replies that reached a process, in order. -/
def replies (run : ServiceRun) : List Reply :=
  run.steps.filterMap fun step =>
    if step.letter.awaited then some step.served.reply else none

/-- The notices of the handled requests, in order. -/
def notices (run : ServiceRun) : List Notice :=
  run.steps.filterMap (·.served.notice)

/-- The result of the run. An empty queue that `hasSender` may still fill is
waited for as long as `patience` allows; no answer means a wait without end. -/
def result? (run : ServiceRun) (hasSender : Bool) (patience : Option Nat) :
    Option (Except Failure MemoryReport) :=
  match run.stop with
  | .allFinished => some (.ok run.service.report)
  | .noRequest => (Channel.emptyFailure? "MMU request" hasSender patience).map .error
  | .unheard => some (.error (.disconnected "scheduler notification"))
  | .broken failure => some (.error failure)

end ServiceRun

end DemandPaging
