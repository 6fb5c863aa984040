import DemandPaging.Pager.Basic
import DemandPaging.Settings

/-!
# The paging service

The service answers requests one at a time: it hands references to the pager,
keeps account of the processes that have ended their streams, and decides which
events the dispatcher hears of.
-/

namespace DemandPaging

structure PageService where
  pager : Pager
  reclaims : Bool
  reportsHits : Bool
  /-- The processes that have ended their streams, each once. -/
  ended : List Nat
  deriving DecidableEq, Repr

/-- The result of a request: the service afterwards, the reply to the process,
and the notice to the dispatcher if there is one. -/
structure Served where
  service : PageService
  reply : Reply
  notice : Option Notice
  deriving DecidableEq, Repr

namespace PageService

/-- A service before its first request. -/
def fresh (settings : Settings) : Except Failure PageService := do
  let pager ← MemoryFault.orFail (Pager.fresh settings.processes settings.pages settings.frames)
  return {
    pager
    reclaims := settings.reclaims
    reportsHits := settings.reportsHits
    ended := [] }

def processes (service : PageService) : Nat := service.pager.processes

/-- Whether every process has ended its stream. -/
def allEnded (service : PageService) : Bool := service.processes ≤ service.ended.length

/-- The event that a resolved reference is to the dispatcher. -/
def event? (service : PageService) (resolution : Resolution) : Option Event :=
  match resolution with
  | .loaded _ | .replaced _ _ => some .fault
  | .hit _ => if service.reportsHits then some .hit else none
  | .illegal | .starved => none

def access (service : PageService) (pid : Nat) (page bound : Int) : Except Failure Served := do
  let (pager, resolution) ← service.pager.access pid page bound
  return {
    service := { service with pager }
    reply := ⟨pid, resolution.outcome⟩
    notice := (service.event? resolution).map (⟨pid, ·⟩) }

/-- Whether an end of stream is the first one of a known process. All others are
acknowledged and change nothing. -/
def isFirstEnd (service : PageService) (pid : Nat) : Bool :=
  pid < service.processes && !service.ended.contains pid

def endStream (service : PageService) (pid : Nat) : Except Failure Served := do
  let reply : Reply := ⟨pid, .endOfStream⟩
  if service.isFirstEnd pid then
    let pager ← if service.reclaims then Prod.fst <$> service.pager.evacuate pid
      else pure service.pager
    return {
      service := { service with pager, ended := service.ended ++ [pid] }
      reply
      notice := some ⟨pid, .ended⟩ }
  else return { service, reply, notice := none }

/-- Handles one request of the process `pid`. -/
def serve (service : PageService) (pid : Nat) : Request → Except Failure Served
  | .access page bound => service.access pid page bound
  | .endOfStream => service.endStream pid

end PageService

end DemandPaging
