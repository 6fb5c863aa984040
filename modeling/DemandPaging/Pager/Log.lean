import DemandPaging.Log
import DemandPaging.Pager.Basic

/-!
# What a pager reports
-/

namespace DemandPaging.Pager

/-- The report on a reference, from the pager before it, the pager after it and
the way in which it was resolved. -/
def resolutionRecord (before after : Pager) (pid : Nat) (page bound : Int) :
    Resolution → Log.Record
  | .illegal =>
    if pid < before.processes then
      ⟨.debug, .memory, s!"pid={pid} illegal page={page} (limit={before.limit bound})"⟩
    else ⟨.warn, .memory, s!"request from unknown pid={pid}"⟩
  | .hit frame =>
    ⟨.debug, .memory, s!"pid={pid} hit page={page} -> frame={frame} (ts={after.clock})"⟩
  | .loaded frame =>
    ⟨.debug, .memory,
      s!"pid={pid} fault page={page} allocated frame={frame} (ts={after.clock})"⟩
  | .replaced frame victim =>
    ⟨.debug, .memory,
      s!"pid={pid} fault page={page} evicted page={victim} -> frame={frame} (ts={after.clock})"⟩
  | .starved =>
    ⟨.warn, .memory,
      s!"pid={pid} cannot handle fault on page={page}: no free frame and no local victim"⟩

/-- What a pager reports on a reference. -/
def accessRecords (pager : Pager) (pid : Nat) (page bound : Int) : List Log.Record :=
  match pager.access pid page bound with
  | .ok (after, resolution) => [pager.resolutionRecord after pid page bound resolution]
  | .error _ => []

end DemandPaging.Pager
