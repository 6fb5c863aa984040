import DemandPaging.Pager.Basic

/-!
# Audit of a pager

Every frame has to be free exactly once, or else to back exactly one resident
page whose owner record agrees. The audit walks over the free frames and then
over the resident pages, ticks off each frame, and looks for one left over.
-/

namespace DemandPaging.Pager

/-- Ticks off a free frame. -/
def auditFree (pager : Pager) (seen : Array Bool) (frame : Nat) : Except Failure (Array Bool) :=
  if seen[frame]? = some true then .error (.accounting s!"frame {frame} free twice")
  else if (pager.owners[frame]?.getD none).isSome then
    .error (.accounting s!"frame {frame} is free but has an owner")
  else .ok (seen.setIfInBounds frame true)

/-- Ticks off the frame of a resident page. -/
def auditResident (pager : Pager) (seen : Array Bool) (r : ResidentPage) :
    Except Failure (Array Bool) :=
  if pager.pool.total ≤ r.frame then
    .error (.memory (.noSuchFrame r.frame pager.pool.total))
  else if seen[r.frame]? = some true then
    .error (.accounting
      s!"frame {r.frame} of pid {r.pid} page {r.page} is also free or mapped elsewhere")
  else if pager.owners[r.frame]? = some (some ⟨r.pid, r.page⟩) then
    .ok (seen.setIfInBounds r.frame true)
  else
    .error (.accounting
      s!"owner record of frame {r.frame} does not match pid {r.pid} page {r.page}")

/-- Succeeds when every frame is accounted for; otherwise tells the first flaw. -/
def audit (pager : Pager) : Except Failure Unit := do
  let seen ← pager.pool.toList.foldlM pager.auditFree (Array.replicate pager.pool.total false)
  let seen ← pager.resident.foldlM pager.auditResident seen
  match seen.toList.findIdx? (!·) with
  | some frame => throw (.accounting s!"frame {frame} orphaned")
  | none => return ()

end DemandPaging.Pager
