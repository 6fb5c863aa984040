import DemandPaging.Failure.Basic

/-!
# Settings of a simulation
-/

namespace DemandPaging

structure Settings where
  /-- Number of processes. -/
  processes : Nat
  /-- Length of every page table. -/
  pages : Nat
  /-- Number of physical frames. -/
  frames : Nat
  /-- Number of references to generate for each process. -/
  referenceCount : Nat := 16
  /-- Seed for generated references. -/
  seed : Option Nat := none
  /-- Probability that a generated reference is illegal. -/
  illegalRate : Binary64 := .zero
  /-- The longest wait, in nanoseconds; none waits forever. -/
  timeout : Option Nat := none
  /-- Whether a process that ends gives its frames back to the pool. -/
  reclaims : Bool := false
  /-- Whether the dispatcher hears of references without a fault. -/
  reportsHits : Bool := false
  deriving DecidableEq, Repr

namespace Settings

/-- Accepts positive dimensions, a rate that is a probability, and a timeout that
is not zero. The faults are looked for in this order. -/
def check (settings : Settings) : Except SettingsFault Unit :=
  if settings.processes = 0 then .error (.notPositive "process count")
  else if settings.pages = 0 then .error (.notPositive "pages per process")
  else if settings.frames = 0 then .error (.notPositive "frame count")
  else if !settings.illegalRate.isProbability then .error (.badRate settings.illegalRate)
  else if settings.timeout = some 0 then .error .zeroTimeout
  else .ok ()

/-- Settings with the given dimensions and nothing else chosen. -/
def ofDimensions (processes pages frames : Nat) : Except SettingsFault Settings := do
  let settings : Settings := { processes, pages, frames }
  settings.check
  return settings

def setIllegalRate (settings : Settings) (rate : Binary64) : Except SettingsFault Settings :=
  if rate.isProbability then .ok { settings with illegalRate := rate }
  else .error (.badRate rate)

def setTimeout (settings : Settings) (timeout : Nat) : Except SettingsFault Settings :=
  if timeout = 0 then .error .zeroTimeout else .ok { settings with timeout := some timeout }

end Settings

end DemandPaging
