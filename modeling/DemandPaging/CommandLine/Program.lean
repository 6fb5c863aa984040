import DemandPaging.CommandLine.Complaint
import DemandPaging.CommandLine.Files
import DemandPaging.CommandLine.Options
import DemandPaging.Duration
import DemandPaging.OutcomeFile
import DemandPaging.ReferenceFile
import DemandPaging.Simulation.Log

/-!
# The program behind the command line

The program reads a reference file if one is named, runs the simulation, prints
the report and writes the outcomes if a file is named for them. Files are
reached through `Files`, so that the program runs in any monad.
-/

namespace DemandPaging.CommandLine

/-- What a run of the program leaves behind. -/
structure Execution where
  exitCode : Nat
  stdout : String := ""
  stderr : String := ""
  /-- The reports of the parts at work. -/
  records : List Log.Record := []

/-- Why there is no report. -/
inductive Trouble where
  | complaint (complaint : Complaint)
  /-- No references can be generated for this number of pages. -/
  | generation (fault : Random.DrawFault)

def versionText : String := "vm-paging-sim 0.1.0\n"

def usageText : String :=
  "Usage: vm-paging-sim [OPTIONS] <PROCESSES> <PAGES> <FRAMES> [REF_LEN]\n"

/-- The settings for the given number of processes. -/
def Options.settings (options : Options) (processes : Nat) : Except SettingsFault Settings := do
  let settings ← Settings.ofDimensions processes options.pages options.frames
  let settings := { settings with
    referenceCount := options.referenceCount.getD settings.referenceCount }
  let settings ← settings.setIllegalRate options.illegalRate
  let settings := { settings with
    reclaims := options.reclaim
    reportsHits := options.notifyHits
    seed := options.seed }
  match options.timeoutMilliseconds with
  | some timeout => settings.setTimeout (Duration.ofMilliseconds timeout)
  | none => return settings

/-- A failure that ends the given activities. -/
def complain {α : Type} (activities : List String) : Except Failure α → Except Trouble α :=
  Except.mapError fun failure => .complaint ⟨activities, failure⟩

/-- The simulation of the given processes, or of generated ones. The number of
processes given in a file overrides the one on the command line. -/
def Options.simulation (options : Options) (entropy : UInt64) (given : Option (List Client)) :
    Except Trouble Simulation := do
  let processes := (given.map List.length).getD options.processes
  let settings ← complain ["invalid configuration"]
    (SettingsFault.orFail (options.settings processes))
  match given with
  | some clients => complain [] (SettingsFault.orFail (Simulation.of settings clients))
  | none =>
    let seed := (settings.seed.map UInt64.ofNat).getD entropy
    match Simulation.random settings seed with
    | .ok simulation => return simulation
    | .error (.settings fault) => complain [] (.error (.settings fault))
    | .error (.draw fault) => throw (.generation fault)

/-- The reports up to the end of the simulation. -/
def Options.records (options : Options) (entropy : UInt64) (given : Option (List Client)) :
    List Log.Record :=
  match options.simulation entropy given with
  | .error _ => []
  | .ok simulation =>
    (simulation.seed.map fun seed => Settings.seedRecord (UInt64.ofNat seed)).toList ++
      simulation.records

/-- The program ends because of trouble; something may be printed by then. -/
def Trouble.execution (stdout : String) (records : List Log.Record) : Trouble → Execution
  | .complaint reason => { exitCode := 1, stdout, stderr := reason.text, records }
  | .generation _ =>
    { exitCode := 101, stdout, stderr := "cannot draw references from this many pages\n", records }

section

variable {m : Type → Type} [Monad m] (files : Files m)

/-- Reads the processes from the reference file, if there is one. -/
def readReferences (options : Options) : m (Except Trouble (Option (List Client))) := do
  match options.references with
  | none => return .ok none
  | some path =>
    let clients : Except Failure (List Client) :=
      match ← files.read path with
      | .ok bytes => ReferenceFile.ofBytes path bytes
      | .error reason => .error (.file path reason)
    return complain [s!"failed to load references from {path}"] (clients.map some)

/-- Prints the report and writes the outcomes. -/
def publish (options : Options) (records : List Log.Record) (report : Report) : m Execution := do
  let stdout := report.text ++ "\n"
  match options.output with
  | none => return { exitCode := 0, stdout, records }
  | some path =>
    match ← files.write path (OutcomeFile.contents (report.clients.map (·.outcomes))) with
    | .ok () =>
      let written : Log.Record := ⟨.info, .master, s!"outcomes written to {path}"⟩
      return { exitCode := 0, stdout, records := records ++ [written] }
    | .error reason =>
      return Trouble.execution stdout records (.complaint ⟨[], .file path reason⟩)

/-- Carries out the options. `entropy` is the seed if none is given. -/
def Options.execute (options : Options) (entropy : UInt64) : m Execution := do
  match ← readReferences files options with
  | .error trouble => return trouble.execution "" []
  | .ok given =>
    let records := options.records entropy given
    let report := do
      complain ["simulation failed"] (← options.simulation entropy given).run
    match report with
    | .error trouble => return trouble.execution "" records
    | .ok report => publish files options records report

/-- Carries out a command line, without the name of the program. -/
def execute (arguments : List String) (entropy : UInt64) : m Execution := do
  match Options.ofArguments arguments with
  | .ok options => options.execute files entropy
  | .error .version => return { exitCode := 0, stdout := versionText }
  | .error .help => return { exitCode := 0, stdout := usageText }
  | .error (.usage reason) =>
    return { exitCode := 2, stderr := s!"error: {reason}\n\n{usageText}" }

end

end DemandPaging.CommandLine
