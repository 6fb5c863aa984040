import DemandPaging.Message

/-!
# Admission of processes

Processes register, are admitted one at a time in the order of registration,
and count as finished when the service says so. A notice that a process has
finished may come before the process is admitted; it is kept until then.
-/

namespace DemandPaging

/-- A process that asks to be admitted. -/
structure Registration where
  pid : Nat
  /-- The line on which the process waits to be resumed. -/
  line : Nat := 0
  deriving DecidableEq, Repr

/-- How far a registered process has come. -/
inductive Stage where
  | ready
  | running
  | finished
  deriving DecidableEq, Repr

structure Admissions where
  /-- Registered processes that were not admitted yet, the oldest first. -/
  ready : List Registration := []
  /-- Stages of the processes, the latest word first. -/
  stages : List (Nat × Stage) := []
  running : Option Nat := none
  /-- Processes with a finish notice that is not used up. -/
  early : List Nat := []
  /-- Number of processes that have finished. -/
  finished : Nat := 0
  /-- The processes admitted so far, in order. -/
  order : List Nat := []
  deriving DecidableEq, Repr

namespace Admissions

/-- How far a process has come; a process that never registered has no stage. -/
def stage? (table : Admissions) (pid : Nat) : Option Stage := table.stages.lookup pid

/-- Queues a registration. The answer says whether the process was unknown; a
process that is known already is not queued again. -/
def enrol (table : Admissions) (registration : Registration) : Admissions × Bool :=
  if (table.stage? registration.pid).isSome then (table, false)
  else
    ({ table with
        stages := (registration.pid, .ready) :: table.stages
        ready := table.ready ++ [registration] }, true)

/-- Admits the process that has been ready longest, unless one is running. -/
def start? (table : Admissions) : Option (Registration × Admissions) :=
  match table.running, table.ready with
  | none, registration :: ready =>
    some (registration, { table with
      ready
      stages := (registration.pid, .running) :: table.stages
      running := some registration.pid
      order := table.order ++ [registration.pid] })
  | _, _ => none

/-- The running process has finished. -/
def conclude (table : Admissions) (pid : Nat) : Admissions :=
  { table with
    stages := (pid, .finished) :: table.stages
    running := none
    finished := table.finished + 1 }

/-- Takes note of an event. The answer is the process that has just finished. -/
def hear (table : Admissions) (notice : Notice) : Admissions × Option Nat :=
  match notice.event with
  | .fault | .hit => (table, none)
  | .ended =>
    if table.running = some notice.pid then (table.conclude notice.pid, some notice.pid)
    else ({ table with early := table.early.insert notice.pid }, none)

/-- Finishes the running process at once if its notice came early. The answer
says whether it did. -/
def settle (table : Admissions) (pid : Nat) : Admissions × Bool :=
  if table.running = some pid ∧ pid ∈ table.early then
    ({ table with early := table.early.erase pid }.conclude pid, true)
  else (table, false)

/-- An operation on the table. -/
inductive Call where
  | enrol (registration : Registration)
  | start
  | hear (notice : Notice)
  | settle (pid : Nat)
  deriving DecidableEq, Repr

/-- The table after an operation. -/
def after (table : Admissions) : Call → Admissions
  | .enrol registration => (table.enrol registration).1
  | .start => (table.start?.map Prod.snd).getD table
  | .hear notice => (table.hear notice).1
  | .settle pid => (table.settle pid).1

end Admissions

end DemandPaging
