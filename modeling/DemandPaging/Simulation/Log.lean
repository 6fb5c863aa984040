import DemandPaging.Admission.Log
import DemandPaging.Client.Log
import DemandPaging.Service.Log
import DemandPaging.Simulation.Basic

/-!
# What a simulation reports
-/

namespace DemandPaging

/-- The report that references are about to be generated. -/
def Settings.seedRecord (seed : UInt64) : Log.Record :=
  ⟨.info, .master, s!"reference seed {seed.toNat}"⟩

/-- The reports before the references of a simulation are generated: there are
none if the settings are refused. -/
def Settings.generationRecords (settings : Settings) (seed : UInt64) : List Log.Record :=
  match settings.check with
  | .ok () => [seedRecord seed]
  | .error _ => []

/-- All reports of the parts of a run. -/
def SimulationRun.records (run : SimulationRun) (processes : Nat) : List Log.Record :=
  run.dispatch.records processes ++ run.serviceRun.records run.start ++
    run.performances.flatMap fun performance =>
      performance.client.records .opened performance.exchanges

/-- All reports of a simulation, the parts one after another. -/
def Simulation.records (simulation : Simulation) : List Log.Record :=
  let settings := simulation.settings
  ⟨.info, .master,
      s!"starting: k={settings.processes} m={settings.pages} f={settings.frames}"⟩ ::
    match simulation.play with
    | .error _ => []
    | .ok run =>
      run.records settings.processes ++ [⟨.info, .master, "all threads joined"⟩]

end DemandPaging
