import Mathlib.Algebra.BigOperators.Group.Finset.Piecewise
import Mathlib.Algebra.Ring.Nat
import DemandPaging.Proofs.Simulation.Threads

/-!
# The work that is left to the threads

The work of a thread is a bound for the steps that it will take, and the work of a message
one for those that it causes: a request makes the service reply and perhaps give notice, a
registration makes the dispatcher enrol a process and resume it. A thread counts the
messages that it has yet to send as its own work, so that every step takes something off
the work that is left.
-/

namespace DemandPaging

/-- The references of a process. -/
def Simulation.referencesOf (simulation : Simulation) (pid : Nat) : List Int :=
  (simulation.clients[pid]?.map (·.references)).getD []

namespace Admissions

variable {table : Admissions}

theorem length_ready_enrol_le (table : Admissions) (registration : Registration) :
    (table.enrol registration).1.ready.length ≤ table.ready.length + 1 := by
  unfold enrol
  split
  next => exact Nat.le_succ _
  next => rw [List.length_append, List.length_singleton]

theorem exists_start? (hidle : table.running = none) (hready : table.ready ≠ []) :
    ∃ registration next, table.start? = some (registration, next) := by
  obtain ⟨registration, ready, heq⟩ := List.exists_cons_of_ne_nil hready
  exact ⟨registration, _, by rw [start?, hidle, heq]⟩

end Admissions

namespace ServicePhase

/-- A reply may be followed by a notice, which is worth two steps of the dispatcher. -/
def work : ServicePhase → Nat
  | stopped _ => 0
  | idle => 1
  | notifying _ => 4
  | replying _ _ => 5

@[simp] theorem work_stopped (result : Except Failure MemoryReport) : (stopped result).work = 0 :=
  rfl

@[simp] theorem work_idle : idle.work = 1 := rfl

@[simp] theorem work_notifying (notice : Notice) : (notifying notice).work = 4 := rfl

@[simp] theorem work_replying (letter : Letter) (served : Served) :
    (replying letter served).work = 5 := rfl

theorem work_turn_le (service : PageService) : (turn service).work ≤ 1 := by
  unfold turn
  split
  next => exact Nat.zero_le _
  next => exact Nat.le_refl _

theorem work_afterReply_le (served : Served) : (afterReply served).work ≤ 4 := by
  unfold afterReply
  split
  next => exact Nat.le_refl _
  next => exact Nat.le_trans (work_turn_le _) (by decide)

end ServicePhase

namespace DispatcherPhase

/-- What the table and the messages cause is counted with them. -/
def work : DispatcherPhase → Nat
  | stopped _ => 0
  | awaiting | hearing _ => 1
  | enrolling => 2
  | resuming _ => 3

@[simp] theorem work_stopped (result : Except Failure (List Nat)) : (stopped result).work = 0 := rfl

@[simp] theorem work_awaiting : awaiting.work = 1 := rfl

@[simp] theorem work_hearing (registration : Registration) : (hearing registration).work = 1 := rfl

@[simp] theorem work_enrolling : enrolling.work = 2 := rfl

@[simp] theorem work_resuming (registration : Registration) : (resuming registration).work = 3 :=
  rfl

theorem work_turn_le (expected : Nat) (table : Admissions) : (turn expected table).work ≤ 2 := by
  unfold turn
  split
  next => exact Nat.zero_le _
  next => exact Nat.le_refl _

end DispatcherPhase

namespace ClientPhase

/-- A process sends one request for each of its references and one for the end of its
stream, and waits for the replies. A request is worth five steps of the service. -/
def work (references : List Int) : ClientPhase → Nat
  | unborn | stopped _ => 0
  | waiting => 7 * (references.length + 1) + 1
  | speaking _ rest => 7 * (rest.length + 1)
  | listening _ rest => 7 * rest.length + 1

variable (references rest : List Int) (outcomes : List Outcome)

@[simp] theorem work_stopped (result : Except Failure (List Outcome)) :
    (stopped result).work references = 0 := rfl

@[simp] theorem work_waiting : waiting.work references = 7 * (references.length + 1) + 1 := rfl

@[simp] theorem work_speaking :
    (speaking outcomes rest).work references = 7 * (rest.length + 1) := rfl

@[simp] theorem work_listening :
    (listening outcomes rest).work references = 7 * rest.length + 1 := rfl

theorem work_afterReply_lt (bound : Int) (outcome : Outcome) :
    (afterReply bound outcomes rest outcome).work references <
      (listening outcomes rest).work references := by
  unfold afterReply
  cases rest with
  | nil => exact Nat.succ_pos _
  | cons page rest =>
      split
      next => exact Nat.succ_pos _
      next =>
        split <;>
          simp only [work_speaking, work_listening, List.tail_cons, List.length_cons,
            List.length_nil] <;>
          omega

end ClientPhase

namespace LauncherPhase

/-- The work that the launcher brings with the processes from `first` on. A registration is
worth four steps of the dispatcher. -/
def unregisteredWork (simulation : Simulation) (first : Nat) : Nat :=
  ((simulation.clients.drop first).map fun client =>
    ClientPhase.waiting.work client.references + 6).sum

def work (simulation : Simulation) : LauncherPhase → Nat
  | registering index => unregisteredWork simulation index + 1
  | starting index => unregisteredWork simulation (index + 1) + 1 +
      (ClientPhase.waiting.work (simulation.referencesOf index) + 1)
  | joining | aborted _ => 0

@[simp] theorem work_joining (simulation : Simulation) : joining.work simulation = 0 := rfl

@[simp] theorem work_aborted (simulation : Simulation) (failure : Failure) :
    (aborted failure).work simulation = 0 := rfl

/-- With its thread started a process has its own work, and the launcher has the rest. -/
theorem work_starting (simulation : Simulation) (index : Nat) :
    (starting index).work simulation = (registering (index + 1)).work simulation +
      (ClientPhase.waiting.work (simulation.referencesOf index) + 1) := rfl

theorem work_registering_pos (simulation : Simulation) (index : Nat) :
    0 < (registering index).work simulation := Nat.succ_pos _

theorem work_registering {simulation : Simulation} {index : Nat} {client : Client}
    (hclient : simulation.clients[index]? = some client) :
    (registering index).work simulation = (starting index).work simulation + 5 := by
  obtain ⟨hindex, rfl⟩ := List.getElem?_eq_some_iff.mp hclient
  simp only [work, unregisteredWork, List.drop_eq_getElem_cons hindex, List.map_cons, List.sum_cons,
    Simulation.referencesOf, hclient, Option.map_some, Option.getD_some]
  omega

end LauncherPhase

namespace Threads

variable {simulation : Simulation} {audits : Bool} {threads next : Threads} {pid : Nat}

/-- The work that is left to the threads of the processes. -/
def clientsWork (simulation : Simulation) (clients : Nat → ClientPhase) : Nat :=
  ∑ pid ∈ Finset.range simulation.clients.length,
    (clients pid).work (simulation.referencesOf pid)

/-- The work that is left: that of the threads and that of the messages between them. -/
def work (simulation : Simulation) (threads : Threads) : Nat :=
  threads.launcher.work simulation + threads.service.work + threads.dispatcher.work +
    clientsWork simulation threads.clients + 4 * threads.registrations.length +
    2 * threads.table.ready.length + 5 * threads.requests.length + 2 * threads.notices.length

theorem clientsWork_update (simulation : Simulation) (clients : Nat → ClientPhase)
    (phase : ClientPhase) (hpid : pid < simulation.clients.length) :
    clientsWork simulation (Function.update clients pid phase) +
        (clients pid).work (simulation.referencesOf pid) =
      clientsWork simulation clients + phase.work (simulation.referencesOf pid) := by
  have hmem := Finset.mem_range.mpr hpid
  simp only [clientsWork, Function.apply_update
    (fun pid (phase : ClientPhase) => phase.work (simulation.referencesOf pid)),
    Finset.sum_update_of_mem hmem]
  rw [← Finset.sum_sdiff (Finset.singleton_subset_iff.mpr hmem), Finset.sum_singleton]
  omega

theorem clientsWork_update_le (simulation : Simulation) (clients : Nat → ClientPhase)
    (phase : ClientPhase) (pid : Nat) :
    clientsWork simulation (Function.update clients pid phase) ≤
      clientsWork simulation clients + phase.work (simulation.referencesOf pid) := by
  by_cases hpid : pid < simulation.clients.length
  · have hupdate := clientsWork_update simulation clients phase hpid
    omega
  · have hsame : clientsWork simulation (Function.update clients pid phase) =
        clientsWork simulation clients := by
      refine Finset.sum_congr rfl fun other hother => ?_
      rw [Function.update_of_ne]
      rintro rfl
      exact hpid (Finset.mem_range.mp hother)
    omega

theorem launch_work_lt (hstep : threads.launch simulation = some next) :
    next.work simulation < threads.work simulation := by
  cases hlauncher : threads.launcher with
  | registering index =>
      have hpositive := LauncherPhase.work_registering_pos simulation index
      simp only [launch, hlauncher] at hstep
      split at hstep
      next =>
        obtain rfl := Option.some.inj hstep
        simp only [work, hlauncher, LauncherPhase.work_joining]
        omega
      next client hclient =>
        have hcost := LauncherPhase.work_registering hclient
        split at hstep
        next =>
          obtain rfl := Option.some.inj hstep
          simp only [work, hlauncher, LauncherPhase.work_aborted]
          omega
        next channel hsend =>
          obtain rfl := Option.some.inj hstep
          have hqueue := Channel.queue_of_send hsend
          simp only [registrationChannel] at hqueue
          simp only [work, hlauncher, hcost, hqueue, List.length_append, List.length_singleton]
          omega
  | starting index =>
      simp only [launch, hlauncher] at hstep
      obtain rfl := Option.some.inj hstep
      -- Nothing is known of the phase that is overwritten, which leaves a bound.
      have hclients := clientsWork_update_le simulation threads.clients .waiting index
      simp only [work, hlauncher, LauncherPhase.work_starting]
      omega
  | joining | aborted =>
      simp only [launch, hlauncher] at hstep
      exact nomatch hstep

theorem serve_work_lt (hstep : threads.serve simulation audits = some next) :
    next.work simulation < threads.work simulation := by
  cases hservice : threads.service with
  | idle =>
      simp only [serve, hservice] at hstep
      split at hstep
      next => exact nomatch hstep
      next =>
        obtain rfl := Option.some.inj hstep
        simp only [work, hservice, ServicePhase.work_idle, ServicePhase.work_stopped]
        omega
      next letter channel hreceive =>
        have hqueue := Channel.queue_of_receive? hreceive
        simp only [requestChannel] at hqueue
        split at hstep
        all_goals
          obtain rfl := Option.some.inj hstep
          simp only [work, hservice, hqueue, List.length_cons, ServicePhase.work_idle,
            ServicePhase.work_stopped, ServicePhase.work_replying]
          omega
  | replying letter served =>
      have hafter := ServicePhase.work_afterReply_le served
      simp only [serve, hservice] at hstep
      split at hstep
      all_goals
        obtain rfl := Option.some.inj hstep
        simp only [work, hservice, ServicePhase.work_replying]
        omega
  | notifying notice =>
      have hturn := ServicePhase.work_turn_le threads.desk.service
      simp only [serve, hservice] at hstep
      split at hstep
      next =>
        obtain rfl := Option.some.inj hstep
        simp only [work, hservice, ServicePhase.work_notifying, ServicePhase.work_stopped]
        omega
      next channel hsend =>
        obtain rfl := Option.some.inj hstep
        have hqueue := Channel.queue_of_send hsend
        simp only [noticeChannel] at hqueue
        simp only [work, hservice, hqueue, List.length_append, List.length_singleton,
          ServicePhase.work_notifying]
        omega
  | stopped =>
      simp only [serve, hservice] at hstep
      exact nomatch hstep

theorem dispatch_enrolling_work_lt (hdispatcher : threads.dispatcher = .enrolling)
    (hidle : threads.table.running = none) (hstep : threads.dispatch simulation = some next) :
    next.work simulation < threads.work simulation := by
  cases hregistrations : threads.registrations with
  | cons registration registrations =>
      have henrol := Admissions.length_ready_enrol_le threads.table registration
      simp only [dispatch, hdispatcher, hregistrations, Option.some.injEq] at hstep
      subst hstep
      simp only [work, hdispatcher, hregistrations, List.length_cons]
      omega
  | nil =>
      simp only [dispatch, hdispatcher, hregistrations] at hstep
      split at hstep
      next =>
        obtain rfl := Option.some.inj hstep
        simp only [work, hdispatcher, hregistrations, DispatcherPhase.work_enrolling,
          DispatcherPhase.work_awaiting]
        omega
      next hready =>
        obtain ⟨registration, table, hstart⟩ :=
          Admissions.exists_start? hidle (by simpa using hready)
        rw [hstart] at hstep
        obtain rfl := Option.some.inj hstep
        simp only [work, hdispatcher, hregistrations, Admissions.ready_of_start? hstart,
          List.length_cons, DispatcherPhase.work_enrolling, DispatcherPhase.work_resuming]
        omega

/-- With a process running the dispatcher could find a ready one that it cannot admit, and
turn on the spot. -/
theorem dispatch_work_lt (hidle : threads.dispatcher = .enrolling → threads.table.running = none)
    (hstep : threads.dispatch simulation = some next) :
    next.work simulation < threads.work simulation := by
  cases hdispatcher : threads.dispatcher with
  | enrolling => exact dispatch_enrolling_work_lt hdispatcher (hidle hdispatcher) hstep
  | awaiting =>
      simp only [dispatch, hdispatcher] at hstep
      split at hstep
      next => exact nomatch hstep
      next =>
        obtain rfl := Option.some.inj hstep
        simp only [work, hdispatcher, DispatcherPhase.work_awaiting, DispatcherPhase.work_stopped]
        omega
      next registration channel hreceive =>
        obtain rfl := Option.some.inj hstep
        have hqueue := Channel.queue_of_receive? hreceive
        have henrol := Admissions.length_ready_enrol_le threads.table registration
        have hturn := DispatcherPhase.work_turn_le simulation.settings.processes
          (threads.table.enrol registration).1
        simp only [registrationChannel] at hqueue
        simp only [work, hdispatcher, hqueue, List.length_cons, DispatcherPhase.work_awaiting]
        omega
  | resuming registration =>
      simp only [dispatch, hdispatcher] at hstep
      split at hstep
      next =>
        obtain rfl := Option.some.inj hstep
        simp only [work, hdispatcher, DispatcherPhase.work_resuming, DispatcherPhase.work_stopped]
        omega
      next =>
        obtain rfl := Option.some.inj hstep
        have hturn := DispatcherPhase.work_turn_le simulation.settings.processes
          (threads.table.settle registration.pid).1
        simp only [work, hdispatcher, Admissions.settle_ready, DispatcherPhase.work_resuming]
        split
        next => omega
        next =>
          rw [DispatcherPhase.work_hearing]
          omega
  | hearing registration =>
      simp only [dispatch, hdispatcher] at hstep
      split at hstep
      next => exact nomatch hstep
      next =>
        obtain rfl := Option.some.inj hstep
        simp only [work, hdispatcher, DispatcherPhase.work_hearing, DispatcherPhase.work_stopped]
        omega
      next notice channel hreceive =>
        obtain rfl := Option.some.inj hstep
        have hqueue := Channel.queue_of_receive? hreceive
        have hturn := DispatcherPhase.work_turn_le simulation.settings.processes
          (threads.table.hear notice).1
        simp only [noticeChannel] at hqueue
        simp only [work, hdispatcher, hqueue, Admissions.hear_ready, List.length_cons,
          DispatcherPhase.work_hearing]
        split
        next => omega
        next =>
          rw [DispatcherPhase.work_hearing]
          omega
  | stopped =>
      simp only [dispatch, hdispatcher] at hstep
      exact nomatch hstep

/-- A process that moves to another phase changes its own work only. -/
theorem work_move_add (threads : Threads) (phase : ClientPhase)
    (hpid : pid < simulation.clients.length) :
    (threads.move pid phase).work simulation +
        (threads.clients pid).work (simulation.referencesOf pid) =
      threads.work simulation + phase.work (simulation.referencesOf pid) := by
  have hclients := clientsWork_update simulation threads.clients phase hpid
  simp only [work, move]
  omega

/-- A process that still has work to do fails. -/
theorem work_fail_lt (failure : Failure) (hpid : pid < simulation.clients.length)
    (hwork : 0 < (threads.clients pid).work (simulation.referencesOf pid)) :
    (threads.move pid (.stopped (.error failure))).work simulation < threads.work simulation := by
  have hmove := work_move_add threads (.stopped (.error failure)) hpid
  rw [ClientPhase.work_stopped] at hmove
  omega

theorem speak_work_lt {client : Client} (hclient : simulation.clients[pid]? = some client)
    (hstep : threads.speak simulation pid client = some next) :
    next.work simulation < threads.work simulation := by
  obtain ⟨hpid, -⟩ := List.getElem?_eq_some_iff.mp hclient
  cases hphase : threads.clients pid with
  | unborn | stopped =>
      simp only [speak, hphase] at hstep
      exact nomatch hstep
  | waiting =>
      have hreferences : simulation.referencesOf pid = client.references := by
        rw [Simulation.referencesOf, hclient]
        rfl
      simp only [speak, hphase] at hstep
      split at hstep
      next => exact nomatch hstep
      next failure _ =>
        obtain rfl := Option.some.inj hstep
        exact work_fail_lt failure hpid (by simp [hphase])
      next =>
        obtain rfl := Option.some.inj hstep
        have hmove := work_move_add threads (.speaking [] client.references) hpid
        rw [hphase, ClientPhase.work_waiting, ClientPhase.work_speaking, hreferences] at hmove
        simp only [work, move] at hmove ⊢
        omega
  | speaking outcomes references =>
      simp only [speak, hphase] at hstep
      split at hstep
      next failure _ =>
        obtain rfl := Option.some.inj hstep
        exact work_fail_lt failure hpid (by simp [hphase])
      next channel hsend =>
        obtain rfl := Option.some.inj hstep
        have hqueue := Channel.queue_of_send hsend
        have hmove := work_move_add threads (.listening outcomes references) hpid
        rw [hphase, ClientPhase.work_speaking, ClientPhase.work_listening] at hmove
        simp only [requestChannel] at hqueue
        simp only [work, move, hqueue, List.length_append, List.length_singleton] at hmove ⊢
        omega
  | listening outcomes references =>
      simp only [speak, hphase] at hstep
      split at hstep
      next => exact nomatch hstep
      next failure _ =>
        obtain rfl := Option.some.inj hstep
        exact work_fail_lt failure hpid (by simp [hphase])
      next reply _ _ =>
        obtain rfl := Option.some.inj hstep
        have hmove := work_move_add threads
          (.afterReply client.bound outcomes references reply.outcome) hpid
        have hafter := ClientPhase.work_afterReply_lt (simulation.referencesOf pid) references
          outcomes client.bound reply.outcome
        rw [hphase] at hmove
        simp only [work, move] at hmove ⊢
        omega

/-- Every step takes something off the work that is left. -/
theorem step_work_lt (hidle : threads.dispatcher = .enrolling → threads.table.running = none)
    {name : ThreadName} (hstep : threads.step? simulation audits name = some next) :
    next.work simulation < threads.work simulation := by
  cases name with
  | launcher => exact launch_work_lt hstep
  | service => exact serve_work_lt hstep
  | dispatcher => exact dispatch_work_lt hidle hstep
  | client pid =>
      obtain ⟨client, hclient, hspeak⟩ := Option.bind_eq_some_iff.mp hstep
      exact speak_work_lt hclient hspeak

end Threads

end DemandPaging
