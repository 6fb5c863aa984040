import DemandPaging.Failure.Basic
import DemandPaging.Number.Power
import DemandPaging.PageTable.Entry

/-!
# The page tables of all processes

The tables lie back to back in one array: the entry of page `page` of process
`pid` is the one at `pid * pages + page`. Every operation that names a process
or a page checks the process first and the page second.
-/

namespace DemandPaging

/-- Page tables of `processes` processes with `pages` entries each. -/
structure PageTables where
  entries : Array Entry
  processes : Nat
  pages : Nat
  size_eq : entries.size = processes * pages
  deriving DecidableEq, Repr

/-- The first `count` rows of `width` items each. -/
def rows {α : Type} (width : Nat) : Nat → List α → List (List α)
  | 0, _ => []
  | count + 1, items => items.take width :: rows width count (items.drop width)

namespace PageTables

/-- Tables without any resident page. There has to be at least one entry, and
their number has to fit a 64-bit word. -/
def blank (processes pages : Nat) : Except MemoryFault PageTables :=
  if 0 < processes * pages ∧ processes * pages < wordCount then
    .ok { entries := Array.replicate (processes * pages) {}, processes, pages,
          size_eq := Array.size_replicate }
  else .error (.badDimensions processes pages)

theorem position_lt (tables : PageTables) {pid page : Nat} (hpid : pid < tables.processes)
    (hpage : page < tables.pages) : pid * tables.pages + page < tables.entries.size := by
  rw [tables.size_eq]
  calc
    pid * tables.pages + page < (pid + 1) * tables.pages := by rw [Nat.succ_mul]; omega
    _ ≤ tables.processes * tables.pages := Nat.mul_le_mul_right _ hpid

/-- Place of the entry of a page. -/
def position (tables : PageTables) (pid page : Nat) :
    Except MemoryFault (Fin tables.entries.size) :=
  if hpid : pid < tables.processes then
    if hpage : page < tables.pages then
      .ok ⟨pid * tables.pages + page, tables.position_lt hpid hpage⟩
    else .error (.noSuchPage page tables.pages)
  else .error (.noSuchProcess pid tables.processes)

/-- The table of one process. -/
def tableOf (tables : PageTables) (pid : Nat) : Except MemoryFault PageTable :=
  if pid < tables.processes then
    let start := pid * tables.pages
    .ok (tables.entries.extract start (start + tables.pages)).toList
  else .error (.noSuchProcess pid tables.processes)

/-- Every table, by process. -/
def toTables (tables : PageTables) : List PageTable :=
  rows tables.pages tables.processes tables.entries.toList

def entryAt (tables : PageTables) (pid page : Nat) : Except MemoryFault Entry := do
  let place ← tables.position pid page
  return tables.entries[place]

/-- Replaces the entry at one place. -/
def put (tables : PageTables) (place : Fin tables.entries.size) (entry : Entry) : PageTables :=
  { tables with
    entries := tables.entries.set place entry
    size_eq := by simpa using tables.size_eq }

/-- Makes a page resident in a frame, used at the given time. -/
def load (tables : PageTables) (pid page frame time : Nat) : Except MemoryFault PageTables := do
  let place ← tables.position pid page
  return tables.put place { frame := some frame, valid := true, lastUsed := time }

/-- Ends the residency of a page. The answer is the frame that it occupied, none
if the page was not valid; the time of its last use stays on record. -/
def unload (tables : PageTables) (pid page : Nat) :
    Except MemoryFault (Option Nat × PageTables) := do
  let place ← tables.position pid page
  let entry := tables.entries[place]
  return (entry.residentFrame?, tables.put place { entry with frame := none, valid := false })

/-- Records a use of a valid page. -/
def recordUse (tables : PageTables) (pid page time : Nat) : Except MemoryFault PageTables := do
  let place ← tables.position pid page
  let entry := tables.entries[place]
  if entry.valid then return tables.put place { entry with lastUsed := time }
  else throw (.notResident pid page)

/-- The resident pages of one process with their frames. -/
def residentPages (tables : PageTables) (pid : Nat) : Except MemoryFault (List (Nat × Nat)) :=
  (tables.tableOf pid).map PageTable.resident

/-- The page of a process that makes room for another of its pages. -/
def leastRecent? (tables : PageTables) (pid : Nat) : Except MemoryFault (Option Nat) :=
  (tables.tableOf pid).map PageTable.leastRecent?

end PageTables

end DemandPaging
