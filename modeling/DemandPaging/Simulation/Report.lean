import DemandPaging.Pager.Basic
import DemandPaging.Text.Column

/-!
# The report of a simulation
-/

namespace DemandPaging

/-- How one process fared. -/
structure ClientReport where
  pid : Nat
  bound : Int
  outcomes : List Outcome
  counters : Counters
  deriving DecidableEq, Repr

structure Report where
  /-- The seed of generated references, none when they were given. -/
  seed : Option Nat
  admissionOrder : List Nat
  clients : List ClientReport
  resident : List ResidentPage
  freeFrames : Nat
  clock : Nat
  deriving DecidableEq, Repr

namespace Report

def columnWidths : List Nat := [4, 6, 6, 6, 7, 9, 8, 13]

def header : String :=
  Text.row columnWidths
    ["pid", "bound", "refs", "hits", "faults", "evictions", "invalid", "unresolvable"]

def clientRow (client : ClientReport) : String :=
  Text.row columnWidths
    [toString client.pid, toString client.bound, toString client.outcomes.length,
      toString client.counters.hits, toString client.counters.faults,
      toString client.counters.evictions, toString client.counters.illegal,
      toString client.counters.starved]

/-- The lines of the printed summary. -/
def lines (report : Report) : List String :=
  let order := " ".intercalate (report.admissionOrder.map toString)
  ["=== Summary ==="] ++
    (report.seed.map fun seed => s!"Seed:            {seed}").toList ++
    [s!"Admission order: {order}",
      s!"Logical clock:   {report.clock}",
      s!"Free frames:     {report.freeFrames}",
      "", header] ++
    report.clients.map clientRow ++
    ["", s!"Resident pages:  {report.resident.length}"] ++
    report.resident.map fun page => s!"  {page.text}"

/-- The printed summary; every line is ended. -/
def text (report : Report) : String := String.join (report.lines.map (· ++ "\n"))

end Report

end DemandPaging
