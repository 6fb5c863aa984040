import DemandPaging.Admission.Dispatch
import DemandPaging.Client.Generation
import DemandPaging.Service.Run
import DemandPaging.Simulation.Report

/-!
# Simulations

A simulation runs its processes against one paging service, each of them from
its admission to the end of its stream before the next one is resumed. The
dispatcher sees the registrations in the order of the processes and the notices
in the order in which the service sends them.
-/

namespace DemandPaging

/-- Settings with the processes to run: process `i` has the number `i`. -/
structure Simulation where
  settings : Settings
  clients : List Client
  /-- The seed of generated references. -/
  seed : Option Nat := none
  deriving DecidableEq, Repr

/-- Why no simulation could be generated. -/
inductive GenerationFault where
  | settings (fault : SettingsFault)
  | draw (fault : Random.DrawFault)
  deriving DecidableEq, Repr

/-- A service at work, and the requests that it has handled so far. -/
structure Desk where
  service : PageService
  steps : Array ServiceStep

/-- The service handles a request of `pid` and replies. -/
def Desk.ask (pid : Nat) (desk : Desk) (request : Request) : Except Failure (Desk × Answer) := do
  let served ← desk.service.serve pid request
  return (⟨served.service, desk.steps.push ⟨desk.service, ⟨pid, request, true⟩, served⟩⟩,
    .reply served.reply.pid served.reply.outcome)

/-- What a process did in a simulation. -/
structure Performance where
  client : Client
  exchanges : List Exchange
  result : Except Failure (List Outcome)

/-- Everything that happened in a simulation. -/
structure SimulationRun where
  start : PageService
  desk : Desk
  performances : List Performance
  dispatch : DispatchRun

namespace Simulation

/-- Checks the settings, the number of processes, and their own numbers. -/
def of (settings : Settings) (clients : List Client) : Except SettingsFault Simulation := do
  settings.check
  if clients.length ≠ settings.processes then
    throw (.processCount settings.processes clients.length)
  match clients.zipIdx.find? fun (client, index) => client.pid != index with
  | some (client, index) => throw (.misnumbered index client.pid)
  | none => return { settings, clients }

/-- A simulation of random reference strings. -/
def random (settings : Settings) (seed : UInt64) : Except GenerationFault Simulation := do
  settings.check.mapError .settings
  let clients ← (Client.generate settings seed).mapError .draw
  let simulation ← (of settings clients).mapError .settings
  return { simulation with seed := some seed.toNat }

/-- Runs the processes one after another at a desk. -/
def perform (desk : Desk) : List Client → Except Failure (Desk × List Performance)
  | [] => .ok (desk, [])
  | client :: clients => do
    let talk ← client.run (Desk.ask client.pid) .opened desk
    let (desk, performances) ← perform talk.peer clients
    return (desk, ⟨client, talk.exchanges, talk.result⟩ :: performances)

def play (simulation : Simulation) : Except Failure SimulationRun := do
  let start ← PageService.fresh simulation.settings
  let (desk, performances) ← perform ⟨start, #[]⟩ simulation.clients
  let registrations := simulation.clients.map fun client => ⟨client.pid, client.pid⟩
  let notices := desk.steps.toList.filterMap (·.served.notice)
  return {
    start, desk, performances
    dispatch :=
      DemandPaging.dispatch (fun _ => true) simulation.settings.processes registrations notices }

end Simulation

namespace SimulationRun

/-- The run as the service saw it. -/
def serviceRun (run : SimulationRun) : ServiceRun where
  steps := run.desk.steps.toList
  service := run.desk.service
  unread := []
  stop := if run.desk.service.allEnded then .allFinished else .noRequest

/-- The report of a process, with the counters that the service kept for it. -/
def clientReport (run : SimulationRun) (performance : Performance) :
    Except Failure ClientReport := do
  let outcomes ← performance.result
  let pid := performance.client.pid
  return {
    pid, outcomes
    bound := performance.client.bound
    counters := run.desk.service.pager.counters[pid]?.getD {} }

/-- The order of admission. Once all processes are registered no further
registration can come. -/
def admissionOrder (run : SimulationRun) : Except Failure (List Nat) :=
  (run.dispatch.result? false none).getD (.error (.disconnected "registration"))

end SimulationRun

/-- Runs a simulation to its end. -/
def Simulation.run (simulation : Simulation) : Except Failure Report := do
  let run ← simulation.play
  let admissionOrder ← run.admissionOrder
  let clients ← run.performances.mapM run.clientReport
  let memory := run.desk.service.report
  return {
    seed := simulation.seed
    admissionOrder, clients
    resident := memory.resident
    freeFrames := memory.freeFrames
    clock := memory.clock }

end DemandPaging
