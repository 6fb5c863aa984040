import Mathlib.Data.List.Induction
import Mathlib.Data.List.Nodup
import DemandPaging.Admission.Basic

/-!
# The lifecycle of a process in the table

Whatever the calls on a table of admissions, in whatever order and with whatever
arguments, each process that registers goes its way once: it is ready, then
running, then finished. `Effect` lists what one call can do; the accounts that the
table keeps agree with each other after any number of calls.
-/

namespace DemandPaging

/-- The ways in which the stage of a process can change at one call. -/
inductive Stage.Advances : Option Stage → Option Stage → Prop where
  | stay (stage : Option Stage) : Advances stage stage
  | enrol : Advances none (some .ready)
  | start : Advances (some .ready) (some .running)
  | finish : Advances (some .running) (some .finished)

namespace Admissions

/-- The process that a call makes known to the table. -/
def enrolledBy? (table : Admissions) : Call → Option Nat
  | .enrol registration => if (table.enrol registration).2 then some registration.pid else none
  | .start | .hear _ | .settle _ => none

/-- The process that a call reports finished. -/
def reportedBy? (table : Admissions) : Call → Option Nat
  | .hear notice => (table.hear notice).2
  | .settle pid => if (table.settle pid).2 then some pid else none
  | .enrol _ | .start => none

/-- A table, the processes that became known to it, and those that it reported
finished, each list in the order of the calls. -/
structure History where
  table : Admissions := {}
  enrolled : List Nat := []
  reported : List Nat := []
  deriving DecidableEq, Repr

def History.extend (history : History) (call : Call) : History where
  table := history.table.after call
  enrolled := history.enrolled ++ (history.table.enrolledBy? call).toList
  reported := history.reported ++ (history.table.reportedBy? call).toList

/-- The history of calls on a new table. -/
def History.ofCalls (calls : List Call) : History := calls.foldl History.extend {}

/-- The table with a registration of an unknown process. -/
def enrolling (table : Admissions) (registration : Registration) : Admissions :=
  { table with
    stages := (registration.pid, .ready) :: table.stages
    ready := table.ready ++ [registration] }

/-- The table with its first ready process running and the others still ready. -/
def starting (table : Admissions) (registration : Registration) (ready : List Registration) :
    Admissions :=
  { table with
    ready
    stages := (registration.pid, .running) :: table.stages
    running := some registration.pid
    order := table.order ++ [registration.pid] }

/-- What a call can do: the table afterwards, the process that becomes known, and
the process that is reported finished. Early notices may come and go in passing. -/
inductive Effect (table : Admissions) : Admissions → Option Nat → Option Nat → Prop where
  | idle (early : List Nat) : Effect table { table with early } none none
  | enrolled {registration : Registration} (hunknown : table.stage? registration.pid = none) :
      Effect table (table.enrolling registration) (some registration.pid) none
  | started {registration : Registration} {ready : List Registration}
      (hidle : table.running = none) (hready : table.ready = registration :: ready) :
      Effect table (table.starting registration ready) none none
  | finished {pid : Nat} (early : List Nat) (hrunning : table.running = some pid) :
      Effect table ({ table with early }.conclude pid) none (some pid)

variable {table next : Admissions} {pid : Nat}

theorem effect_enrol (table : Admissions) (registration : Registration) :
    table.Effect (table.after (.enrol registration)) (table.enrolledBy? (.enrol registration))
      none := by
  simp only [after, enrolledBy?, enrol]
  split
  next => exact .idle table.early
  next hunknown => exact .enrolled (Option.not_isSome_iff_eq_none.mp hunknown)

theorem effect_start (table : Admissions) : table.Effect (table.after .start) none none := by
  simp only [after, start?]
  split
  next registration ready hidle hready => exact .started hidle hready
  next => exact .idle table.early

theorem effect_hear (table : Admissions) (notice : Notice) :
    table.Effect (table.after (.hear notice)) none (table.reportedBy? (.hear notice)) := by
  simp only [after, reportedBy?, hear]
  split
  next => exact .idle table.early
  next => exact .idle table.early
  next =>
    split
    next hrunning => exact .finished table.early hrunning
    next => exact .idle _

theorem effect_settle (table : Admissions) (pid : Nat) :
    table.Effect (table.after (.settle pid)) none (table.reportedBy? (.settle pid)) := by
  simp only [after, reportedBy?, settle]
  split
  next hready => exact .finished _ hready.1
  next => exact .idle table.early

/-- Every call has one of the effects. -/
theorem effect (table : Admissions) (call : Call) :
    table.Effect (table.after call) (table.enrolledBy? call) (table.reportedBy? call) := by
  cases call with
  | enrol registration => exact effect_enrol table registration
  | start => exact effect_start table
  | hear notice => exact effect_hear table notice
  | settle pid => exact effect_settle table pid

theorem lookup_stage_cons (stages : List (Nat × Stage)) (stage : Stage) (other : Nat) :
    List.lookup other ((pid, stage) :: stages) =
      if other = pid then some stage else stages.lookup other := by
  rw [List.lookup_cons]
  by_cases hsame : other = pid
  · simp [hsame]
  · simp [hsame, beq_false_of_ne hsame]

theorem stage?_enrolling (registration : Registration) (other : Nat) :
    (table.enrolling registration).stage? other =
      if other = registration.pid then some .ready else table.stage? other :=
  lookup_stage_cons _ _ _

theorem stage?_starting (registration : Registration) (ready : List Registration) (other : Nat) :
    (table.starting registration ready).stage? other =
      if other = registration.pid then some .running else table.stage? other :=
  lookup_stage_cons _ _ _

theorem stage?_conclude (pid other : Nat) :
    (table.conclude pid).stage? other =
      if other = pid then some .finished else table.stage? other :=
  lookup_stage_cons _ _ _

/-- The accounts of the table agree, with each other and with the processes that
were enrolled and reported. -/
structure Agrees (table : Admissions) (enrolled reported : List Nat) : Prop where
  nodup : enrolled.Nodup
  order_append_ready : table.order ++ table.ready.map (·.pid) = enrolled
  order_eq : table.order = reported ++ table.running.toList
  finished_eq : table.finished = reported.length
  stage_ready_iff : ∀ pid, table.stage? pid = some .ready ↔ pid ∈ table.ready.map (·.pid)
  stage_running_iff : ∀ pid, table.stage? pid = some .running ↔ table.running = some pid
  stage_finished_iff : ∀ pid, table.stage? pid = some .finished ↔ pid ∈ reported

namespace Agrees

variable {enrolled reported : List Nat}

theorem blank : ({} : Admissions).Agrees [] [] where
  nodup := .nil
  order_append_ready := rfl
  order_eq := rfl
  finished_eq := rfl
  stage_ready_iff := by simp [stage?]
  stage_running_iff := by simp [stage?]
  stage_finished_iff := by simp [stage?]

theorem mem_enrolled_iff (hagrees : table.Agrees enrolled reported) :
    pid ∈ enrolled ↔
      pid ∈ reported ∨ table.running = some pid ∨ pid ∈ table.ready.map (·.pid) := by
  rw [← hagrees.order_append_ready, hagrees.order_eq]
  simp only [List.mem_append, Option.mem_toList, or_assoc]

/-- A process has a stage exactly if it is enrolled. -/
theorem stage_none_iff (hagrees : table.Agrees enrolled reported) :
    table.stage? pid = none ↔ pid ∉ enrolled := by
  rw [hagrees.mem_enrolled_iff, ← hagrees.stage_ready_iff, ← hagrees.stage_running_iff,
    ← hagrees.stage_finished_iff]
  cases table.stage? pid with
  | none => simp
  | some stage => cases stage <;> simp

theorem mem_order_iff (hagrees : table.Agrees enrolled reported) :
    pid ∈ table.order ↔ pid ∈ reported ∨ table.running = some pid := by
  simp [hagrees.order_eq]

/-- No process is ready after its admission. -/
theorem not_ready_of_mem_order (hagrees : table.Agrees enrolled reported)
    (hmem : pid ∈ table.order) : pid ∉ table.ready.map (·.pid) := by
  have hnodup := hagrees.nodup
  rw [← hagrees.order_append_ready, List.nodup_append] at hnodup
  exact fun hready => hnodup.2.2 pid hmem pid hready rfl

theorem nodup_order (hagrees : table.Agrees enrolled reported) : table.order.Nodup := by
  have hnodup := hagrees.nodup
  rw [← hagrees.order_append_ready] at hnodup
  exact hnodup.of_append_left

theorem not_reported_of_running (hagrees : table.Agrees enrolled reported)
    (hrunning : table.running = some pid) : pid ∉ reported := by
  have hnodup := hagrees.nodup_order
  rw [hagrees.order_eq, hrunning, List.nodup_append] at hnodup
  exact fun hmem => hnodup.2.2 pid hmem pid (by simp) rfl

theorem idle (hagrees : table.Agrees enrolled reported) (early : List Nat) :
    Agrees { table with early } enrolled reported :=
  ⟨hagrees.nodup, hagrees.order_append_ready, hagrees.order_eq, hagrees.finished_eq,
    hagrees.stage_ready_iff, hagrees.stage_running_iff, hagrees.stage_finished_iff⟩

theorem enrolling (hagrees : table.Agrees enrolled reported) {registration : Registration}
    (hunknown : table.stage? registration.pid = none) :
    (table.enrolling registration).Agrees (enrolled ++ [registration.pid]) reported := by
  have hnew := hagrees.stage_none_iff.mp hunknown
  constructor
  case nodup =>
    rw [List.nodup_append]
    refine ⟨hagrees.nodup, List.nodup_singleton _, ?_⟩
    rintro pid hmem other hother rfl
    exact hnew (List.mem_singleton.mp hother ▸ hmem)
  case order_append_ready =>
    rw [← hagrees.order_append_ready]
    simp [Admissions.enrolling]
  case order_eq => exact hagrees.order_eq
  case finished_eq => exact hagrees.finished_eq
  case stage_ready_iff =>
    intro pid
    have hold := hagrees.stage_ready_iff pid
    rw [stage?_enrolling]
    by_cases hsame : pid = registration.pid
    · simp [Admissions.enrolling, hsame]
    · simpa [Admissions.enrolling, hsame] using hold
  -- The new process neither runs nor has finished.
  case stage_running_iff =>
    intro pid
    have hold := hagrees.stage_running_iff pid
    rw [stage?_enrolling]
    by_cases hsame : pid = registration.pid
    · simpa [Admissions.enrolling, hsame, hunknown] using hold
    · simpa [Admissions.enrolling, hsame] using hold
  case stage_finished_iff =>
    intro pid
    have hold := hagrees.stage_finished_iff pid
    rw [stage?_enrolling]
    by_cases hsame : pid = registration.pid
    · simpa [hsame, hunknown] using hold
    · simpa [hsame] using hold

theorem starting (hagrees : table.Agrees enrolled reported) {registration : Registration}
    {ready : List Registration} (hidle : table.running = none)
    (hready : table.ready = registration :: ready) :
    (table.starting registration ready).Agrees enrolled reported := by
  have hnodup := hagrees.nodup
  rw [← hagrees.order_append_ready, hready, List.map_cons, List.nodup_append,
    List.nodup_cons] at hnodup
  obtain ⟨-, ⟨hlater, -⟩, hdisjoint⟩ := hnodup
  have horder := hagrees.order_eq
  rw [hidle, Option.toList_none, List.append_nil] at horder
  constructor
  case nodup => exact hagrees.nodup
  case order_append_ready =>
    rw [← hagrees.order_append_ready, hready]
    simp [Admissions.starting]
  case order_eq => simp [Admissions.starting, horder]
  case finished_eq => exact hagrees.finished_eq
  case stage_ready_iff =>
    intro pid
    have hold := hagrees.stage_ready_iff pid
    rw [stage?_starting]
    by_cases hsame : pid = registration.pid
    · simpa [Admissions.starting, hsame] using hlater
    · simpa [Admissions.starting, hsame, hready] using hold
  case stage_running_iff =>
    intro pid
    have hold := hagrees.stage_running_iff pid
    rw [stage?_starting]
    by_cases hsame : pid = registration.pid
    · simp [Admissions.starting, hsame]
    · simpa [Admissions.starting, hsame, Ne.symm hsame, hidle] using hold
  case stage_finished_iff =>
    intro pid
    have hold := hagrees.stage_finished_iff pid
    rw [stage?_starting]
    by_cases hsame : pid = registration.pid
    · have hnot : registration.pid ∉ reported := by
        rw [← horder]
        exact fun hmem => hdisjoint _ hmem _ List.mem_cons_self rfl
      simpa [hsame] using hnot
    · simpa [hsame] using hold

theorem conclude (hagrees : table.Agrees enrolled reported) (hrunning : table.running = some pid) :
    (table.conclude pid).Agrees enrolled (reported ++ [pid]) := by
  have horder : pid ∈ table.order := hagrees.mem_order_iff.mpr (.inr hrunning)
  constructor
  case nodup => exact hagrees.nodup
  case order_append_ready => exact hagrees.order_append_ready
  case order_eq =>
    have hold := hagrees.order_eq
    simpa [Admissions.conclude, hrunning] using hold
  case finished_eq => simp [Admissions.conclude, hagrees.finished_eq]
  case stage_ready_iff =>
    intro other
    have hold := hagrees.stage_ready_iff other
    rw [stage?_conclude]
    by_cases hsame : other = pid
    · simpa [Admissions.conclude, hsame] using hagrees.not_ready_of_mem_order horder
    · simpa [Admissions.conclude, hsame] using hold
  case stage_running_iff =>
    intro other
    have hold := hagrees.stage_running_iff other
    rw [stage?_conclude]
    by_cases hsame : other = pid
    · simp [Admissions.conclude, hsame]
    · simpa [Admissions.conclude, hsame, hrunning, Ne.symm hsame] using hold
  case stage_finished_iff =>
    intro other
    have hold := hagrees.stage_finished_iff other
    rw [stage?_conclude]
    by_cases hsame : other = pid
    · simp [hsame]
    · simpa [hsame] using hold

variable {enrolls? reports? : Option Nat}

/-- The accounts agree after every call. -/
theorem effect (hagrees : table.Agrees enrolled reported)
    (heffect : table.Effect next enrolls? reports?) :
    next.Agrees (enrolled ++ enrolls?.toList) (reported ++ reports?.toList) := by
  cases heffect with
  | idle early => simpa using hagrees.idle early
  | enrolled hunknown => simpa using hagrees.enrolling hunknown
  | started hidle hready => simpa using hagrees.starting hidle hready
  | finished early hrunning => simpa using (hagrees.idle early).conclude hrunning

/-- A call moves no process but one step ahead. -/
theorem advances (hagrees : table.Agrees enrolled reported)
    (heffect : table.Effect next enrolls? reports?) (pid : Nat) :
    Stage.Advances (table.stage? pid) (next.stage? pid) := by
  cases heffect with
  | idle => exact .stay _
  | @enrolled registration hunknown =>
      rw [stage?_enrolling]
      split
      next heq =>
        rw [heq, hunknown]
        exact .enrol
      next => exact .stay _
  | @started registration ready _ hready =>
      rw [stage?_starting]
      split
      next heq =>
        rw [(hagrees.stage_ready_iff pid).mpr (by simp [hready, heq])]
        exact .start
      next => exact .stay _
  | @finished running _ hrunning =>
      rw [stage?_conclude]
      split
      next heq =>
        rw [(hagrees.stage_running_iff pid).mpr (heq ▸ hrunning)]
        exact .finish
      next => exact .stay _

end Agrees

theorem Effect.running_of_reported {enrolls? : Option Nat}
    (heffect : table.Effect next enrolls? (some pid)) : table.running = some pid := by
  cases heffect with
  | finished _ hrunning => exact hrunning

/-- What holds of a history, and of the next call on its table. -/
structure History.Lawful (history : History) : Prop where
  enrolled_nodup : history.enrolled.Nodup
  order_append_ready :
    history.table.order ++ history.table.ready.map (·.pid) = history.enrolled
  stage_none_iff : ∀ pid, history.table.stage? pid = none ↔ pid ∉ history.enrolled
  stage_ready_iff : ∀ pid,
    history.table.stage? pid = some .ready ↔ pid ∈ history.table.ready.map (·.pid)
  stage_running_iff : ∀ pid,
    history.table.stage? pid = some .running ↔ history.table.running = some pid
  stage_finished_iff : ∀ pid, history.table.stage? pid = some .finished ↔
    pid ∈ history.table.order ∧ history.table.running ≠ some pid
  finished_eq : history.table.finished =
    history.table.order.length - if history.table.running.isSome then 1 else 0
  reported_nodup : history.reported.Nodup
  /-- A process is reported finished while it runs, and not again. -/
  reported_running : ∀ call pid, history.table.reportedBy? call = some pid →
    history.table.running = some pid ∧ pid ∉ history.reported
  advances : ∀ call pid,
    Stage.Advances (history.table.stage? pid) ((history.table.after call).stage? pid)

theorem Agrees.lawful {history : History}
    (hagrees : history.table.Agrees history.enrolled history.reported) : history.Lawful where
  enrolled_nodup := hagrees.nodup
  order_append_ready := hagrees.order_append_ready
  stage_none_iff := fun _ => hagrees.stage_none_iff
  stage_ready_iff := hagrees.stage_ready_iff
  stage_running_iff := hagrees.stage_running_iff
  stage_finished_iff := by
    intro pid
    rw [hagrees.stage_finished_iff, hagrees.mem_order_iff]
    constructor
    · exact fun hmem => ⟨.inl hmem, fun hrunning => hagrees.not_reported_of_running hrunning hmem⟩
    · exact fun ⟨hmem, hnot⟩ => hmem.resolve_right hnot
  finished_eq := by
    rw [hagrees.finished_eq, hagrees.order_eq]
    cases history.table.running <;> simp
  reported_nodup := by
    have hnodup := hagrees.nodup_order
    rw [hagrees.order_eq] at hnodup
    exact hnodup.of_append_left
  reported_running := by
    intro call pid hreported
    have heffect := history.table.effect call
    rw [hreported] at heffect
    have hrunning := heffect.running_of_reported
    exact ⟨hrunning, hagrees.not_reported_of_running hrunning⟩
  advances := fun call => hagrees.advances (history.table.effect call)

theorem History.ofCalls_concat (calls : List Call) (call : Call) :
    ofCalls (calls ++ [call]) = (ofCalls calls).extend call := by
  simp [ofCalls]

theorem History.agrees_ofCalls (calls : List Call) :
    (ofCalls calls).table.Agrees (ofCalls calls).enrolled (ofCalls calls).reported := by
  induction calls using List.reverseRecOn with
  | nil => exact .blank
  | append_singleton calls call ih =>
      rw [ofCalls_concat]
      exact ih.effect ((ofCalls calls).table.effect call)

/-- After any calls the accounts of the table agree: each process that was enrolled is
ready, running or finished, it came there in this order, and it was reported at
most once. -/
theorem History.lawful_ofCalls (calls : List Call) : (ofCalls calls).Lawful :=
  (agrees_ofCalls calls).lawful

/-- A notice comes before the admission of its process, another one a second time. -/
example : History.ofCalls [.enrol ⟨4, 0⟩, .enrol ⟨7, 1⟩, .start, .enrol ⟨4, 2⟩, .hear ⟨7, .ended⟩,
    .hear ⟨4, .ended⟩, .hear ⟨4, .ended⟩, .start, .settle 7, .settle 4] =
    { table := {
        stages := [(7, .finished), (7, .running), (4, .finished), (4, .running), (7, .ready),
          (4, .ready)]
        early := [4], finished := 2, order := [4, 7] }
      enrolled := [4, 7], reported := [4, 7] } := by decide

end Admissions

end DemandPaging
