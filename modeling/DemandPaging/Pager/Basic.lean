import DemandPaging.Frame.Pool
import DemandPaging.Message
import DemandPaging.PageTable.Tables

/-!
# The pager

The pager holds the page tables, the pool of free frames, a record of who owns
each frame, and a logical clock. It resolves one reference at a time. A page
that is not resident gets a free frame, or else the frame of the page that its
own process used longest ago; no process ever loses a frame to another one.
-/

namespace DemandPaging

/-- The page that a frame backs. -/
structure Owner where
  pid : Nat
  page : Nat
  deriving DecidableEq, Repr

/-- A page and the frame that it occupies. -/
structure ResidentPage where
  pid : Nat
  page : Nat
  frame : Nat
  deriving DecidableEq, Repr

def ResidentPage.text (r : ResidentPage) : String :=
  s!"pid {r.pid} page {r.page} -> frame {r.frame}"

/-- How often the references of one process went which way. -/
structure Counters where
  hits : Nat := 0
  faults : Nat := 0
  evictions : Nat := 0
  illegal : Nat := 0
  starved : Nat := 0
  deriving DecidableEq, Repr

/-- How one reference was resolved. -/
inductive Resolution where
  | illegal
  | hit (frame : Nat)
  /-- A fault that took a free frame. -/
  | loaded (frame : Nat)
  /-- A fault that took the frame of `victim`, a page of the same process. -/
  | replaced (frame victim : Nat)
  | starved
  deriving DecidableEq, Repr

namespace Resolution

def isFault : Resolution → Bool
  | .loaded _ | .replaced _ _ => true
  | .illegal | .hit _ | .starved => false

def outcome : Resolution → Outcome
  | .illegal => .illegal
  | .hit frame | .loaded frame | .replaced frame _ => .frame frame
  | .starved => .starved

end Resolution

structure Pager where
  tables : PageTables
  pool : FramePool
  /-- The page that each frame backs, none for a free frame. -/
  owners : Array (Option Owner)
  /-- Logical time: the number of references resolved to a frame so far. -/
  clock : Nat
  counters : Array Counters
  deriving DecidableEq, Repr

namespace Pager

/-- A pager in which no page is resident. -/
def fresh (processes pages frames : Nat) : Except MemoryFault Pager := do
  let tables ← PageTables.blank processes pages
  let pool ← FramePool.full frames
  return {
    tables, pool
    owners := Array.replicate frames none
    clock := 0
    counters := Array.replicate processes {} }

def processes (pager : Pager) : Nat := pager.tables.processes

/-- The page numbers legal for a request with the given bound lie below this
limit. The table length enters as a signed 64-bit word. -/
def limit (pager : Pager) (bound : Int) : Int :=
  min bound (signedWord pager.tables.pages)

/-- Updates the counters of one process. -/
def tally (pager : Pager) (pid : Nat) (update : Counters → Counters) : Pager :=
  { pager with counters := pager.counters.modify pid update }

/-- Gives a frame that nobody owns to a page, at the next instant of the clock. -/
def assign (pager : Pager) (pid page frame : Nat) : Except Failure Pager :=
  match pager.owners[frame]? with
  | none => .error (.memory (.noSuchFrame frame pager.owners.size))
  | some (some owner) => .error (.frameTaken frame pid page owner.pid owner.page)
  | some none => do
    let now := pager.clock + 1
    let tables ← MemoryFault.orFail (pager.tables.load pid page frame now)
    return { pager with
      tables
      owners := pager.owners.setIfInBounds frame (some ⟨pid, page⟩)
      clock := now }

/-- Takes the frame away from a resident page. Nobody owns the frame then. -/
def vacate (pager : Pager) (pid page : Nat) : Except Failure (Nat × Pager) := do
  let (frame?, tables) ← MemoryFault.orFail (pager.tables.unload pid page)
  match frame? with
  | none => throw (.memory (.notResident pid page))
  | some frame =>
    if pager.owners[frame]? = some (some ⟨pid, page⟩) then
      return (frame, { pager with tables, owners := pager.owners.setIfInBounds frame none })
    else
      throw (.accounting s!"frame {frame} backing pid {pid} page {page} has another owner")

/-- Resolves a reference to a legal page of a known process. -/
def accessLegal (pager : Pager) (pid page : Nat) : Except Failure (Pager × Resolution) := do
  let entry ← MemoryFault.orFail (pager.tables.entryAt pid page)
  if entry.valid then
    match entry.frame with
    | none => throw (.accounting s!"pid {pid} page {page} valid without a frame")
    | some frame =>
      let now := pager.clock + 1
      let tables ← MemoryFault.orFail (pager.tables.recordUse pid page now)
      let pager := { pager with tables, clock := now }
      return (pager.tally pid fun c => { c with hits := c.hits + 1 }, .hit frame)
  else
    match pager.pool.take? with
    | some (frame, pool) =>
      let pager ← assign { pager with pool } pid page frame
      return (pager.tally pid fun c => { c with faults := c.faults + 1 }, .loaded frame)
    | none =>
      match ← MemoryFault.orFail (pager.tables.leastRecent? pid) with
      | some victim =>
        let (frame, pager) ← pager.vacate pid victim
        let pager ← pager.assign pid page frame
        return (pager.tally pid fun c =>
          { c with faults := c.faults + 1, evictions := c.evictions + 1 }, .replaced frame victim)
      | none => return (pager.tally pid fun c => { c with starved := c.starved + 1 }, .starved)

/-- Resolves a reference of process `pid` to `page`, legal below `bound`. A
failure is a broken invariant, never a mistake of the process. -/
def access (pager : Pager) (pid : Nat) (page bound : Int) :
    Except Failure (Pager × Resolution) :=
  if pid < pager.processes then
    if isWithin page (pager.limit bound) then pager.accessLegal pid page.toNat
    else .ok (pager.tally pid fun c => { c with illegal := c.illegal + 1 }, .illegal)
  else .ok (pager, .illegal)

/-- Takes the frame away from a resident page and returns it to the pool. -/
def giveBack (pager : Pager) (pid page : Nat) : Except Failure Pager := do
  let (frame, pager) ← pager.vacate pid page
  let pool ← MemoryFault.orFail (pager.pool.giveBack frame)
  return { pager with pool }

/-- Returns all frames of a process to the pool, in the order of its pages. The
answer is their number. -/
def evacuate (pager : Pager) (pid : Nat) : Except Failure (Pager × Nat) := do
  let resident ← MemoryFault.orFail (pager.tables.residentPages pid)
  let pager ← resident.foldlM (fun pager (page, _) => pager.giveBack pid page) pager
  return (pager, resident.length)

/-- Every resident page, by process and page. -/
def resident (pager : Pager) : List ResidentPage :=
  pager.tables.toTables.zipIdx.flatMap fun (table, pid) =>
    PageTable.resident table |>.map fun (page, frame) => ⟨pid, page, frame⟩

end Pager

end DemandPaging
