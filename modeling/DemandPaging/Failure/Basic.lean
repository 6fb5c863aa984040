import DemandPaging.Number.Binary64

/-!
# What can go wrong

Failures are told apart by their cause. A memory fault is a precondition that
the page tables or the frame pool refuse; a settings fault is a choice that no
simulation accepts; a failure is anything that ends a run.
-/

namespace DemandPaging

/-- A precondition of the page tables or of the frame pool that does not hold. -/
inductive MemoryFault where
  | badDimensions (processes pages : Nat)
  | noFrames
  | noSuchProcess (pid processes : Nat)
  | noSuchPage (page pages : Nat)
  | notResident (pid page : Nat)
  | noSuchFrame (frame frames : Nat)
  | poolFull (frame : Nat)
  | alreadyFree (frame : Nat)
  deriving DecidableEq, Repr

/-- A choice of settings or of processes that cannot be simulated. -/
inductive SettingsFault where
  | notPositive (what : String)
  | badRate (rate : Binary64)
  | zeroTimeout
  | noReferences
  | processCount (expected got : Nat)
  | misnumbered (index pid : Nat)
  deriving DecidableEq, Repr

/-- A cause that ends a run. Durations are in nanoseconds. -/
inductive Failure where
  | settings (fault : SettingsFault)
  | memory (fault : MemoryFault)
  | frameTaken (frame pid page ownerPid ownerPage : Nat)
  | accounting (detail : String)
  | disconnected (channel : String)
  | timedOut (waitingFor : String) (after : Nat)
  | threadRefused (reason : String)
  | threadCrashed (thread : String)
  | file (path reason : String)
  | badInteger (line : Nat) (token : String)
  deriving DecidableEq, Repr

/-- Inside a run a memory fault is a broken invariant and ends the run. -/
def MemoryFault.orFail {α : Type} : Except MemoryFault α → Except Failure α :=
  Except.mapError .memory

/-- A settings fault ends a run before it starts. -/
def SettingsFault.orFail {α : Type} : Except SettingsFault α → Except Failure α :=
  Except.mapError .settings

end DemandPaging
