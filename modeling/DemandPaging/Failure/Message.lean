import DemandPaging.Duration
import DemandPaging.Failure.Basic
import DemandPaging.Number.Shortest
import DemandPaging.Text.Quoted

/-!
# Texts of failures

Each cause has one text. A failure may rest on another one; `Failure.causes`
lists the texts of those, the nearest first.
-/

namespace DemandPaging

def MemoryFault.message : MemoryFault → String
  | .badDimensions processes pages =>
    s!"invalid dimensions: {processes} processes x {pages} pages"
  | .noFrames => "free frame list needs at least one frame"
  | .noSuchProcess pid processes => s!"process {pid} out of range ({processes} processes)"
  | .noSuchPage page pages => s!"page {page} out of range for a table of {pages} entries"
  | .notResident pid page => s!"page {page} of process {pid} is not resident"
  | .noSuchFrame frame frames => s!"frame {frame} outside pool of {frames} frames"
  | .poolFull frame => s!"free frame list already full, cannot release frame {frame}"
  | .alreadyFree frame => s!"frame {frame} is already free"

def SettingsFault.message : SettingsFault → String
  | .notPositive what => s!"{what} must be positive"
  | .badRate rate => s!"illegal reference rate {rate.text} outside [0, 1]"
  | .zeroTimeout => "timeout must be non-zero"
  | .noReferences => "reference file has no processes"
  | .processCount expected got => s!"expected {expected} workloads, got {got}"
  | .misnumbered index pid =>
    s!"workload {index} has pid {pid}, pids must be 0..k in order"

def Failure.message : Failure → String
  | .settings fault => fault.message
  | .memory fault => s!"internal invariant violated: {fault.message}"
  | .frameTaken frame pid page ownerPid ownerPage =>
    s!"frame {frame} mapped to process {pid} page {page} is already owned by " ++
      s!"process {ownerPid} page {ownerPage}"
  | .accounting detail => s!"frame accounting broken: {detail}"
  | .disconnected channel => s!"{channel} channel disconnected"
  | .timedOut waitingFor after => s!"timed out after {Duration.text after} waiting for {waitingFor}"
  | .threadRefused _ => "failed to spawn thread"
  | .threadCrashed thread => s!"{thread} thread panicked"
  | .file path reason => s!"{path}: {reason}"
  | .badInteger line token => s!"line {line}: invalid integer {Text.quoted token}"

/-- Texts of the causes behind a failure. A settings fault is itself the
failure; a memory fault, a refused thread and a file error lie behind one. -/
def Failure.causes : Failure → List String
  | .memory fault => [fault.message]
  | .threadRefused reason => [reason]
  | .file _ reason => [reason]
  | _ => []

end DemandPaging
