import DemandPaging.Proofs.Simulation.SequentialRun

/-!
# Orderly threads

The threads of a simulation keep an order that no lock enforces. One process at a
time, the current one, speaks to the service; all processes before it have had
their last reply, and all processes after it wait to be resumed. The order rests
on the way of the messages: the service replies to the end of a stream before it
gives notice of it, and the dispatcher turns to the next process on that notice.

What a process will do is foreseen from its phase and the reply on its way to it.
Of the threads in any reachable state, what is foreseen of the current process
continues the run without threads.
-/

namespace DemandPaging

namespace LauncherPhase

/-- The number of processes that are registered. -/
def registered (processes : Nat) : LauncherPhase → Nat
  | registering index => index
  | starting index => index + 1
  | joining => processes
  | aborted _ => 0

/-- The number of processes whose threads are started. -/
def started (processes : Nat) : LauncherPhase → Nat
  | registering index | starting index => index
  | joining => processes
  | aborted _ => 0

end LauncherPhase

namespace DispatcherPhase

def isHearing : DispatcherPhase → Bool
  | hearing _ => true
  | enrolling | awaiting | resuming _ | stopped _ => false

/-- Whether a process is admitted that has not finished. -/
def isBusy : DispatcherPhase → Bool
  | resuming _ | hearing _ => true
  | enrolling | awaiting | stopped _ => false

/-- Where the dispatcher stands when `current` processes have finished. -/
def Stands (processes current : Nat) (table : Admissions) : DispatcherPhase → Prop
  | enrolling => current < processes
  | awaiting => current < processes ∧ table.ready = []
  | resuming registration | hearing registration => registration = ⟨current, current⟩
  | stopped result => current = processes ∧ result = .ok (List.range processes)

end DispatcherPhase

namespace ServicePhase

/-- The reply that the service is about to send to a process. -/
def replyTo? (pid : Nat) : ServicePhase → Option Outcome
  | replying letter served => if letter.pid = pid then some served.reply.outcome else none
  | idle | notifying _ | stopped _ => none

/-- The notice that the service is about to send. -/
def notice? : ServicePhase → Option Notice
  | replying _ served => served.notice
  | notifying notice => some notice
  | idle | stopped _ => none

end ServicePhase

namespace ClientPhase

def isStopped : ClientPhase → Bool
  | stopped _ => true
  | unborn | waiting | speaking _ _ | listening _ _ => false

/-- Whether the process has noticed that it was resumed. -/
def hasBegun : ClientPhase → Bool
  | unborn | waiting => false
  | speaking _ _ | listening _ _ | stopped _ => true

/-- The phase of a process that nobody has resumed. -/
def silent (started pid : Nat) : ClientPhase := if pid < started then waiting else unborn

/-- The phase after a reply, if one is on its way to a process that waits for it. -/
def foresee (bound : Int) (reply : Option Outcome) : ClientPhase → ClientPhase
  | listening outcomes references =>
    match reply with
    | some outcome => afterReply bound outcomes references outcome
    | none => listening outcomes references
  | phase => phase

end ClientPhase

/-- The pages from zero up to this bound are legal for a process. -/
def Simulation.boundOf (simulation : Simulation) (pid : Nat) : Int :=
  (simulation.clients[pid]?.map (·.bound)).getD 0

/-- The run without threads goes on from this desk, once all processes before
`pid` have finished and `pid` is in this phase. -/
def Continues (simulation : Simulation) (final : Desk) (outcomes : List (List Outcome))
    (pid : Nat) (desk : Desk) : ClientPhase → Prop
  | .unborn | .waiting => Performs desk (simulation.clients.drop pid) final (outcomes.drop pid)
  | .speaking before references | .listening before references =>
    ∃ middle after, Talks pid (simulation.boundOf pid) desk references middle after ∧
      outcomes[pid]? = some (before ++ after) ∧
      Performs middle (simulation.clients.drop (pid + 1)) final (outcomes.drop (pid + 1))
  | .stopped result => ∃ before, result = .ok before ∧ outcomes[pid]? = some before ∧
      Performs desk (simulation.clients.drop (pid + 1)) final (outcomes.drop (pid + 1))

namespace Threads

/-- The outcome on its way to a process. -/
def pending? (threads : Threads) (pid : Nat) : Option Outcome :=
  ((threads.replies pid).map (·.outcome)).or (threads.service.replyTo? pid)

/-- What a process will be after the reply on its way to it. -/
def foreseen (simulation : Simulation) (threads : Threads) (pid : Nat) : ClientPhase :=
  (threads.clients pid).foresee (simulation.boundOf pid) (threads.pending? pid)

/-- The notices on their way to the dispatcher. -/
def afoot (threads : Threads) : List Notice :=
  threads.notices ++ threads.service.notice?.toList

/-- The request that is open when a process is in this phase. -/
def openRequests (simulation : Simulation) (pid : Nat) : ClientPhase → List Letter
  | .listening _ references => [⟨pid, nextRequest (simulation.boundOf pid) references, true⟩]
  | .unborn | .waiting | .speaking _ _ | .stopped _ => []

/-- The launcher, the dispatcher and their table agree: `enrolled` processes have
come into the table, and `current` of them have finished. -/
structure Admitting (simulation : Simulation) (threads : Threads) (current enrolled : Nat) :
    Prop where
  table : threads.table.InOrder current threads.dispatcher.isBusy enrolled
  registrations_eq : threads.registrations = registrationsFrom enrolled
    (threads.launcher.registered simulation.settings.processes - enrolled)
  enrolled_le : enrolled ≤ threads.launcher.registered simulation.settings.processes
  registered_le : threads.launcher.registered simulation.settings.processes ≤
    simulation.settings.processes
  launcher : ∀ failure, threads.launcher ≠ .aborted failure
  dispatcher : threads.dispatcher.Stands simulation.settings.processes current threads.table

/-- The end of the current process is told to the dispatcher once, after all other
notices, and not before it has ended. -/
def Announces (current : Nat) (ended : Bool) (notices : List Notice) : Prop :=
  ∃ quiet, (∀ notice ∈ quiet, notice.event ≠ .ended) ∧
    notices = quiet ++ if ended then [⟨current, .ended⟩] else []

/-- Where the service stands while the process `current` speaks to it. -/
def ServiceStands (simulation : Simulation) (threads : Threads) (current : Nat) :
    ServicePhase → Prop
  | .idle => threads.desk.service.allEnded = false
  | .replying letter served => letter.pid = current ∧ threads.replies current = none ∧
      (threads.clients current).isListening = true ∧ served.service = threads.desk.service ∧
      ((threads.foreseen simulation current).isStopped = true → served.notice.isSome = true)
  | .notifying _ => True
  | .stopped result => threads.desk.service.allEnded = true ∧
      result = .ok threads.desk.service.report

/-- The current process speaks to the service, the ones before it have finished,
and the ones after it are silent. -/
structure Conversing (simulation : Simulation) (final : Desk) (outcomes : List (List Outcome))
    (threads : Threads) (current : Nat) (hearing : Bool) (started : Nat) : Prop where
  unstarted : ∀ pid, started ≤ pid → threads.clients pid = .unborn
  past : ∀ pid, pid < current → threads.resumes pid = false ∧
    ∃ own, outcomes[pid]? = some own ∧ threads.foreseen simulation pid = .stopped (.ok own)
  later : ∀ pid, current + hearing.toNat ≤ pid → threads.clients pid = .silent started pid ∧
    threads.replies pid = none ∧ threads.resumes pid = false
  present : hearing = true →
    (threads.clients current = .silent started current ∧ threads.replies current = none ∧
      threads.resumes current = true) ∨
    ((threads.clients current).hasBegun = true ∧ threads.resumes current = false)
  replied : ∀ pid reply, threads.replies pid = some reply →
    (threads.clients pid).isListening = true
  continues : Continues simulation final outcomes current threads.desk
    (threads.foreseen simulation current)
  requests_eq : threads.requests =
    openRequests simulation current (threads.foreseen simulation current)
  service : threads.ServiceStands simulation current threads.service
  working : threads.desk.service.Working simulation.settings.processes
    (current + (threads.foreseen simulation current).isStopped.toNat)
  announces : Announces current (threads.foreseen simulation current).isStopped threads.afoot
  quiet : hearing = false → threads.afoot = []

end Threads

end DemandPaging
