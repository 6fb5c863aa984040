/-!
# One page table

An entry says where a page is and when it was last used. A page is resident
when its entry is valid and names a frame.
-/

namespace DemandPaging

/-- The entry of one page of one process. -/
structure Entry where
  frame : Option Nat := none
  valid : Bool := false
  /-- Logical time of the last use. It means nothing once the entry is invalid. -/
  lastUsed : Nat := 0
  deriving DecidableEq, Repr

/-- The frame that a resident page occupies. -/
def Entry.residentFrame? (entry : Entry) : Option Nat :=
  if entry.valid then entry.frame else none

theorem Entry.residentFrame?_eq_some_iff {entry : Entry} {frame : Nat} :
    entry.residentFrame? = some frame ↔ entry.valid = true ∧ entry.frame = some frame := by
  simp [residentFrame?]

/-- The entries of one process, by page number. -/
abbrev PageTable := List Entry

namespace PageTable

/-- The resident pages with their frames, by page number. -/
def resident (table : PageTable) : List (Nat × Nat) :=
  table.zipIdx.filterMap fun (entry, page) => entry.residentFrame?.map fun frame => (page, frame)

/-- Keeps the older of a candidate and the valid page at hand; of two pages of
the same age the candidate stays. -/
def older (candidate : Option (Nat × Nat)) (entry : Entry) (page : Nat) : Option (Nat × Nat) :=
  if entry.valid then
    match candidate with
    | some (victim, oldest) =>
      if oldest ≤ entry.lastUsed then some (victim, oldest) else some (page, entry.lastUsed)
    | none => some (page, entry.lastUsed)
  else candidate

/-- The valid page that was used longest ago, the one with the lowest number if
there are several. A table without a valid page has none. -/
def leastRecent? (table : PageTable) : Option Nat :=
  (table.zipIdx.foldl (fun candidate (entry, page) => older candidate entry page) none).map
    Prod.fst

end PageTable

end DemandPaging
