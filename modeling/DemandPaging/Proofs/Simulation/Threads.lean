import Mathlib.Logic.Function.Basic
import DemandPaging.Pager.Audit
import DemandPaging.Simulation.Basic

/-!
# A simulation on threads

The launcher registers the processes one by one and starts their threads; the
service, the dispatcher and the processes run on threads of their own. Threads
share nothing but channels. A step of one thread sends or receives one message,
together with the work of that thread up to its next message, and the steps of
different threads come in any order. No wait has a limit.
-/

namespace DemandPaging

/-- The next request of a client with the given references before it. -/
def nextRequest (bound : Int) : List Int → Request
  | [] => .endOfStream
  | page :: _ => Request.ofReference page bound

/-- Where the launcher stands. -/
inductive LauncherPhase where
  /-- The process with this index is registered next. -/
  | registering (index : Nat)
  /-- The process is registered, and its thread starts next. -/
  | starting (index : Nat)
  /-- All threads are started. The launcher waits for their ends. -/
  | joining
  | aborted (failure : Failure)

/-- Where the thread of the service stands. -/
inductive ServicePhase where
  | idle
  /-- The request is handled, and the reply is sent next. -/
  | replying (letter : Letter) (served : Served)
  | notifying (notice : Notice)
  | stopped (result : Except Failure MemoryReport)

/-- Where the thread of the dispatcher stands. -/
inductive DispatcherPhase where
  /-- It takes the registrations that are there. -/
  | enrolling
  /-- No process is ready. It waits for a registration. -/
  | awaiting
  | resuming (registration : Registration)
  /-- It reads notices until the process has finished. -/
  | hearing (registration : Registration)
  | stopped (result : Except Failure (List Nat))

/-- Where the thread of a process stands. -/
inductive ClientPhase where
  | unborn
  /-- It waits to be resumed. -/
  | waiting
  /-- It sends its next request, with these outcomes behind it. -/
  | speaking (outcomes : List Outcome) (references : List Int)
  /-- It has sent the next request for these references and waits for the reply. -/
  | listening (outcomes : List Outcome) (references : List Int)
  | stopped (result : Except Failure (List Outcome))

namespace LauncherPhase

/-- Whether the launcher still holds its ends of the channels. -/
def isLaunching : LauncherPhase → Bool
  | registering _ | starting _ => true
  | joining | aborted _ => false

/-- Whether the launcher keeps the line of this process for its thread. -/
def keeps (pid : Nat) : LauncherPhase → Bool
  | starting index => index == pid
  | registering _ | joining | aborted _ => false

end LauncherPhase

namespace ServicePhase

def isRunning : ServicePhase → Bool
  | stopped _ => false
  | idle | replying _ _ | notifying _ => true

def result? : ServicePhase → Option (Except Failure MemoryReport)
  | stopped result => some result
  | idle | replying _ _ | notifying _ => none

/-- The head of the loop: there is a next request unless all streams have ended. -/
def turn (service : PageService) : ServicePhase :=
  if service.allEnded then stopped (.ok service.report) else idle

/-- What follows the reply. -/
def afterReply (served : Served) : ServicePhase :=
  match served.notice with
  | some notice => notifying notice
  | none => turn served.service

end ServicePhase

namespace DispatcherPhase

def isRunning : DispatcherPhase → Bool
  | stopped _ => false
  | enrolling | awaiting | resuming _ | hearing _ => true

def result? : DispatcherPhase → Option (Except Failure (List Nat))
  | stopped result => some result
  | enrolling | awaiting | resuming _ | hearing _ => none

/-- The registration of the process that was admitted last. -/
def registration? : DispatcherPhase → Option Registration
  | resuming registration | hearing registration => some registration
  | enrolling | awaiting | stopped _ => none

/-- The head of the loop: there is a next process unless all have finished. -/
def turn (expected : Nat) (table : Admissions) : DispatcherPhase :=
  if expected ≤ table.finished then stopped (.ok table.order) else enrolling

end DispatcherPhase

namespace ClientPhase

def isRunning : ClientPhase → Bool
  | unborn | stopped _ => false
  | waiting | speaking _ _ | listening _ _ => true

def isListening : ClientPhase → Bool
  | listening _ _ => true
  | unborn | waiting | speaking _ _ | stopped _ => false

def result? : ClientPhase → Option (Except Failure (List Outcome))
  | stopped result => some result
  | unborn | waiting | speaking _ _ | listening _ _ => none

/-- What follows the reply to the next request for these references. -/
def afterReply (bound : Int) (outcomes : List Outcome) (references : List Int)
    (outcome : Outcome) : ClientPhase :=
  match nextRequest bound references with
  | .endOfStream => stopped (.ok outcomes)
  | .access _ _ =>
    speaking (outcomes ++ [outcome]) (if outcome.endsReferences then [] else references.tail)

end ClientPhase

/-- The service handles a request. With `audits` it audits its pager each time. -/
def Desk.handle (audits : Bool) (desk : Desk) (letter : Letter) :
    Except Failure (Desk × Served) := do
  let served ← desk.service.serve letter.pid letter.request
  if audits then served.service.pager.audit
  return (⟨served.service, desk.steps.push ⟨desk.service, letter, served⟩⟩, served)

/-- The requests handled so far, each with its process. -/
def Desk.requests (desk : Desk) : List (Nat × Request) :=
  desk.steps.toList.map fun step => (step.letter.pid, step.letter.request)

/-- The notices of the requests handled so far. -/
def Desk.notices (desk : Desk) : List Notice := desk.steps.toList.filterMap (·.served.notice)

/-- The threads of a simulation and the messages between them. -/
structure Threads where
  launcher : LauncherPhase
  service : ServicePhase
  desk : Desk
  dispatcher : DispatcherPhase
  table : Admissions
  clients : Nat → ClientPhase
  registrations : List Registration
  requests : List Letter
  notices : List Notice
  /-- Whether a process was resumed and has not noticed it yet. -/
  resumes : Nat → Bool
  /-- The reply to the open exchange of a process. -/
  replies : Nat → Option Reply

namespace Threads

/-- The threads of the service and of the dispatcher are started, with nothing
sent yet. -/
def start (simulation : Simulation) (service : PageService) : Threads where
  launcher := .registering 0
  service := .turn service
  desk := ⟨service, #[]⟩
  dispatcher := .turn simulation.settings.processes {}
  table := {}
  clients := fun _ => .unborn
  registrations := []
  requests := []
  notices := []
  resumes := fun _ => false
  replies := fun _ => none

variable (simulation : Simulation) (audits : Bool) (threads : Threads)

/-! ## Channels -/

def registrationChannel : Channel Registration where
  queue := threads.registrations
  hasSender := threads.launcher.isLaunching
  hasReceiver := threads.dispatcher.isRunning

/-- The launcher and every process hold a sending end. -/
def requestChannel : Channel Letter where
  queue := threads.requests
  hasSender := threads.launcher.isLaunching ||
    (List.range simulation.clients.length).any fun pid => (threads.clients pid).isRunning
  hasReceiver := threads.service.isRunning

def noticeChannel : Channel Notice where
  queue := threads.notices
  hasSender := threads.service.isRunning
  hasReceiver := threads.dispatcher.isRunning

/-- The sending end travels with the registration. -/
def resumeChannel (pid : Nat) : Channel Unit where
  queue := if threads.resumes pid then [()] else []
  hasSender := threads.dispatcher.isRunning &&
    (threads.registrations ++ threads.table.ready ++
      threads.dispatcher.registration?.toList).any (·.line == pid)
  hasReceiver := (threads.clients pid).isRunning || threads.launcher.keeps pid

/-- The sending end travels with the request. -/
def replyChannel (pid : Nat) : Channel Reply where
  queue := (threads.replies pid).toList
  hasSender :=
    match threads.service with
    | .replying letter _ => letter.pid == pid || threads.requests.any (·.pid == pid)
    | .idle | .notifying _ => threads.requests.any (·.pid == pid)
    | .stopped _ => false
  hasReceiver := (threads.clients pid).isListening

/-! ## Steps -/

def launch : Option Threads :=
  match threads.launcher with
  | .registering index =>
    match simulation.clients[index]? with
    | none => some { threads with launcher := .joining }
    | some client =>
      match threads.registrationChannel.send "registration" ⟨client.pid, index⟩ with
      | .error failure => some { threads with launcher := .aborted failure }
      | .ok channel =>
        some { threads with launcher := .starting index, registrations := channel.queue }
  | .starting index =>
    some { threads with
      launcher := .registering (index + 1)
      clients := Function.update threads.clients index .waiting }
  | .joining | .aborted _ => none

def serve : Option Threads :=
  match threads.service with
  | .idle =>
    match (threads.requestChannel simulation).receive? "MMU request" none with
    | none => none
    | some (.error failure) => some { threads with service := .stopped (.error failure) }
    | some (.ok (letter, channel)) =>
      match threads.desk.handle audits letter with
      | .error failure =>
        some { threads with service := .stopped (.error failure), requests := channel.queue }
      | .ok (desk, served) =>
        some { threads with
          service := .replying letter served, desk, requests := channel.queue }
  | .replying letter served =>
    -- A process that has left does not get its reply, and nobody minds.
    match (threads.replyChannel letter.pid).send "MMU reply" served.reply with
    | .error _ => some { threads with service := .afterReply served }
    | .ok _ =>
      some { threads with
        service := .afterReply served
        replies := Function.update threads.replies letter.pid (some served.reply) }
  | .notifying notice =>
    match threads.noticeChannel.send "scheduler notification" notice with
    | .error failure => some { threads with service := .stopped (.error failure) }
    | .ok channel =>
      some { threads with service := .turn threads.desk.service, notices := channel.queue }
  | .stopped _ => none

def dispatch : Option Threads :=
  let expected := simulation.settings.processes
  match threads.dispatcher with
  | .enrolling =>
    match threads.registrations with
    | registration :: registrations =>
      some { threads with table := (threads.table.enrol registration).1, registrations }
    | [] =>
      if threads.table.ready.isEmpty then some { threads with dispatcher := .awaiting }
      else
        match threads.table.start? with
        | none => some threads
        | some (registration, table) =>
          some { threads with dispatcher := .resuming registration, table }
  | .awaiting =>
    match threads.registrationChannel.receive? "registration" none with
    | none => none
    | some (.error failure) => some { threads with dispatcher := .stopped (.error failure) }
    | some (.ok (registration, channel)) =>
      let table := (threads.table.enrol registration).1
      some { threads with
        dispatcher := .turn expected table, table, registrations := channel.queue }
  | .resuming registration =>
    match (threads.resumeChannel registration.line).send "resume" () with
    | .error failure => some { threads with dispatcher := .stopped (.error failure) }
    | .ok _ =>
      let (table, early) := threads.table.settle registration.pid
      some { threads with
        dispatcher := if early then .turn expected table else .hearing registration
        table
        resumes := Function.update threads.resumes registration.line true }
  | .hearing registration =>
    match threads.noticeChannel.receive? "scheduler notification" none with
    | none => none
    | some (.error failure) => some { threads with dispatcher := .stopped (.error failure) }
    | some (.ok (notice, channel)) =>
      let (table, ended) := threads.table.hear notice
      some { threads with
        dispatcher :=
          if ended = some registration.pid then .turn expected table else .hearing registration
        table
        notices := channel.queue }
  | .stopped _ => none

/-- The thread of a process comes to another phase. -/
def move (pid : Nat) (phase : ClientPhase) : Threads :=
  { threads with clients := Function.update threads.clients pid phase }

def speak (pid : Nat) (client : Client) : Option Threads :=
  match threads.clients pid with
  | .unborn | .stopped _ => none
  | .waiting =>
    match (threads.resumeChannel pid).receive? "resume" none with
    | none => none
    | some (.error failure) => some (threads.move pid (.stopped (.error failure)))
    | some (.ok _) =>
      some { threads.move pid (.speaking [] client.references) with
        resumes := Function.update threads.resumes pid false }
  | .speaking outcomes references =>
    let letter : Letter := ⟨client.pid, nextRequest client.bound references, true⟩
    match (threads.requestChannel simulation).send "MMU request" letter with
    | .error failure => some (threads.move pid (.stopped (.error failure)))
    | .ok channel =>
      some { threads.move pid (.listening outcomes references) with requests := channel.queue }
  | .listening outcomes references =>
    match (threads.replyChannel pid).receive? "MMU reply" none with
    | none => none
    | some (.error failure) => some (threads.move pid (.stopped (.error failure)))
    | some (.ok (reply, _)) =>
      let phase := ClientPhase.afterReply client.bound outcomes references reply.outcome
      some { threads.move pid phase with replies := Function.update threads.replies pid none }

end Threads

/-- One of the threads. -/
inductive ThreadName where
  | launcher
  | service
  | dispatcher
  | client (pid : Nat)
  deriving DecidableEq, Repr

namespace Threads

/-- The next step of one thread. A thread that waits for a message, or has
stopped, has none. -/
def step? (simulation : Simulation) (audits : Bool) (threads : Threads) :
    ThreadName → Option Threads
  | .launcher => threads.launch simulation
  | .service => threads.serve simulation audits
  | .dispatcher => threads.dispatch simulation
  | .client pid => simulation.clients[pid]?.bind (threads.speak simulation pid)

/-- Some thread takes a step. -/
def Steps (simulation : Simulation) (audits : Bool) (threads next : Threads) : Prop :=
  ∃ name, threads.step? simulation audits name = some next

/-- Steps of any threads in any order lead from the start to here. -/
inductive Reachable (simulation : Simulation) (audits : Bool) (service : PageService) :
    Threads → Prop where
  | start : Reachable simulation audits service (.start simulation service)
  | step {threads next : Threads} (name : ThreadName)
      (hreachable : Reachable simulation audits service threads)
      (hstep : threads.step? simulation audits name = some next) :
      Reachable simulation audits service next

/-! ## Results -/

/-- No thread has failed. -/
structure Unfailed (threads : Threads) : Prop where
  launcher : ∀ failure, threads.launcher ≠ .aborted failure
  service : ∀ failure, threads.service ≠ .stopped (.error failure)
  dispatcher : ∀ failure, threads.dispatcher ≠ .stopped (.error failure)
  clients : ∀ pid failure, threads.clients pid ≠ .stopped (.error failure)

end Threads

def Failure.isDisconnection : Failure → Bool
  | .disconnected _ => true
  | _ => false

/-- The failure to report. A lost connection is mostly a consequence of another
failure, which then goes before it. -/
def rootCause : List Failure → Failure
  | [] => .disconnected "simulation"
  | first :: failures =>
    failures.foldl (fun cause failure =>
      if cause.isDisconnection && !failure.isDisconnection then failure else cause) first

/-- The failure of a result, if it is one. -/
def failure? {α : Type} : Except Failure α → Option Failure
  | .error failure => some failure
  | .ok _ => none

namespace Threads

variable (simulation : Simulation)

/-- The result of a simulation from the results of its threads. -/
def conclude (memory : Except Failure MemoryReport) (order : Except Failure (List Nat))
    (outcomes : Except Failure (List (List Outcome))) : Except Failure Report :=
  match memory, order, outcomes with
  | .ok memory, .ok order, .ok outcomes =>
    .ok {
      seed := simulation.seed
      admissionOrder := order
      clients := List.zipWith (fun client outcomes => {
        pid := client.pid
        bound := client.bound
        outcomes
        counters := memory.counters[client.pid]?.getD {} }) simulation.clients outcomes
      resident := memory.resident
      freeFrames := memory.freeFrames
      clock := memory.clock }
  | memory, order, outcomes =>
    .error (rootCause ((failure? memory).toList ++ (failure? order).toList ++
      (failure? outcomes).toList))

/-- The result of the simulation, once the launcher has seen the ends of all
threads that it started. -/
def result? (threads : Threads) : Option (Except Failure Report) :=
  match threads.launcher with
  | .registering _ | .starting _ => none
  | .aborted failure =>
    if threads.service.isRunning || threads.dispatcher.isRunning ||
      (List.range simulation.clients.length).any fun pid => (threads.clients pid).isRunning
    then none
    else some (.error failure)
  | .joining => do
    let memory ← threads.service.result?
    let order ← threads.dispatcher.result?
    let outcomes ← (List.range simulation.clients.length).mapM fun pid =>
      (threads.clients pid).result?
    return conclude simulation memory order (outcomes.mapM id)

end Threads

end DemandPaging
