import DemandPaging.Admission.Basic
import DemandPaging.Channel

/-!
# Dispatching processes first come, first served

The dispatcher takes all registrations that are there, admits the oldest ready
process, resumes it, and reads notices until the service reports that this
process has finished; then it turns to the next one. It stops when as many
processes as expected have finished.
-/

namespace DemandPaging

/-- One operation of a dispatcher on its table. -/
structure DispatchStep where
  before : Admissions
  call : Admissions.Call
  deriving DecidableEq, Repr

/-- Why a dispatcher stops. -/
inductive DispatchStop where
  | allFinished
  /-- No process is ready and nobody registers. -/
  | noRegistration
  /-- The process that was admitted no longer waits to be resumed. -/
  | notResumed
  /-- The service sends no more notices. -/
  | noNotice
  deriving DecidableEq, Repr

/-- A run: the operations in order, the table at the end, the lines on which a
process was resumed, what was left unread, and why the run ended. -/
structure DispatchRun where
  steps : List DispatchStep
  table : Admissions
  resumed : List Nat
  unreadRegistrations : List Registration
  unreadNotices : List Notice
  stop : DispatchStop
  deriving DecidableEq, Repr

namespace Admissions

/-- Puts registrations into the table, one after another. -/
def enrolAll (table : Admissions) (registrations : List Registration) : Admissions :=
  registrations.foldl (fun table r => (table.enrol r).1) table

/-- The operations of `enrolAll`. -/
def enrolSteps (table : Admissions) : List Registration → List DispatchStep
  | [] => []
  | r :: rest => ⟨table, .enrol r⟩ :: (table.enrol r).1.enrolSteps rest

/-- A wait for the end of a process: the notices read, the table afterwards, the
notices left, and whether the process has finished. -/
structure Wait where
  steps : List DispatchStep
  table : Admissions
  unread : List Notice
  finished : Bool

/-- Reads notices until `pid` is reported finished. -/
def awaitFinish (pid : Nat) (table : Admissions) : List Notice → Wait
  | [] => ⟨[], table, [], false⟩
  | notice :: notices =>
    let step : DispatchStep := ⟨table, .hear notice⟩
    let (next, ended) := table.hear notice
    if ended = some pid then ⟨[step], next, notices, true⟩
    else
      let wait := awaitFinish pid next notices
      { wait with steps := step :: wait.steps }

theorem hear_ready (table : Admissions) (notice : Notice) :
    (table.hear notice).1.ready = table.ready := by
  unfold hear conclude
  split <;> (try split) <;> rfl

theorem settle_ready (table : Admissions) (pid : Nat) :
    (table.settle pid).1.ready = table.ready := by
  unfold settle conclude
  split <;> rfl

theorem awaitFinish_ready (pid : Nat) (table : Admissions) (notices : List Notice) :
    (table.awaitFinish pid notices).table.ready = table.ready := by
  induction notices generalizing table with
  | nil => rfl
  | cons notice notices ih =>
      simp only [awaitFinish]
      split
      · exact table.hear_ready notice
      · rw [ih, hear_ready]

theorem ready_of_start? {table next : Admissions} {registration : Registration}
    (hnext : table.start? = some (registration, next)) :
    table.ready = registration :: next.ready := by
  unfold start? at hnext
  split at hnext
  next _ready hrunning hready =>
    obtain ⟨rfl, rfl⟩ := Prod.mk.inj (Option.some.inj hnext)
    exact hready
  next => exact absurd hnext (by simp)

/-- Admits and awaits ready processes until `expected` of them have finished.
`waiting` tells the lines on which somebody still waits. -/
def dispatch (waiting : Nat → Bool) (expected : Nat) (table : Admissions)
    (notices : List Notice) : DispatchRun :=
  if expected ≤ table.finished then ⟨[], table, [], [], notices, .allFinished⟩
  else
    match _hnext : table.start? with
    | none => ⟨[], table, [], [], notices, .noRegistration⟩
    | some (registration, admitted) =>
      let admission : DispatchStep := ⟨table, .start⟩
      if !waiting registration.line then ⟨[admission], admitted, [], [], notices, .notResumed⟩
      else
        let check : DispatchStep := ⟨admitted, .settle registration.pid⟩
        let early := admitted.settle registration.pid
        if early.2 then
          let rest := dispatch waiting expected early.1 notices
          { rest with
            steps := admission :: check :: rest.steps
            resumed := registration.line :: rest.resumed }
        else
          let wait := awaitFinish registration.pid early.1 notices
          if wait.finished then
            let rest := dispatch waiting expected wait.table wait.unread
            { rest with
              steps := admission :: check :: wait.steps ++ rest.steps
              resumed := registration.line :: rest.resumed }
          else
            ⟨admission :: check :: wait.steps, wait.table, [registration.line], [], wait.unread,
              .noNotice⟩
termination_by table.ready.length
decreasing_by
  · rw [ready_of_start? _hnext]
    simp only [settle_ready, List.length_cons, Nat.lt_succ_self]
  · rw [ready_of_start? _hnext]
    simp only [awaitFinish_ready, settle_ready, List.length_cons, Nat.lt_succ_self]

end Admissions

/-- The run of a dispatcher that expects `expected` processes, when all
registrations and notices are queued before it starts. -/
def dispatch (waiting : Nat → Bool) (expected : Nat) (registrations : List Registration)
    (notices : List Notice) : DispatchRun :=
  if expected = 0 then ⟨[], {}, [], registrations, notices, .allFinished⟩
  else
    let run := (({} : Admissions).enrolAll registrations).dispatch waiting expected notices
    { run with steps := ({} : Admissions).enrolSteps registrations ++ run.steps }

/-- The result of the run: the order of admission. A registration that
`hasSender` may still bring is waited for as long as `patience` allows; no
answer means a wait without end. -/
def DispatchRun.result? (run : DispatchRun) (hasSender : Bool) (patience : Option Nat) :
    Option (Except Failure (List Nat)) :=
  match run.stop with
  | .allFinished => some (.ok run.table.order)
  | .noRegistration => (Channel.emptyFailure? "registration" hasSender patience).map .error
  | .notResumed => some (.error (.disconnected "resume"))
  | .noNotice => some (.error (.disconnected "scheduler notification"))

end DemandPaging
