import DemandPaging.Proofs.Simulation.Exchange

/-!
# Orderly threads stay orderly

A step of any thread keeps the order of all of them. No send finds its receiver
gone and no receive its senders, so no step is one to a failure.
-/

namespace DemandPaging

/-- With the sending end there, an empty channel is waited on. -/
theorem Channel.receive?_of_hasSender {α : Type} {channel : Channel α} (name : String)
    (hqueue : channel.queue = []) (hsender : channel.hasSender = true) :
    channel.receive? name none = none := by
  simp [receive?, hqueue, emptyFailure?, hsender]

theorem LauncherPhase.started_le_registered (processes : Nat) (launcher : LauncherPhase) :
    launcher.started processes ≤ launcher.registered processes := by
  cases launcher <;> simp [started, registered]

namespace DispatcherPhase

theorem isHearing_turn (expected : Nat) (table : Admissions) :
    (turn expected table).isHearing = false := by
  unfold turn
  split <;> rfl

theorem isRunning_of_isHearing {dispatcher : DispatcherPhase}
    (hhearing : dispatcher.isHearing = true) : dispatcher.isRunning = true := by
  cases dispatcher <;> simp_all [isHearing, isRunning]

theorem isBusy_turn (expected : Nat) (table : Admissions) :
    (turn expected table).isBusy = false := by
  unfold turn
  split <;> rfl

end DispatcherPhase

namespace Threads

/-- Of the processes `enrolled` have come into the table, `current` of them have
finished, and the threads are at the conversation of the next one. -/
structure Orderly (simulation : Simulation) (final : Desk) (outcomes : List (List Outcome))
    (threads : Threads) (current enrolled : Nat) : Prop where
  admitting : threads.Admitting simulation current enrolled
  conversing : threads.Conversing simulation final outcomes current threads.dispatcher.isHearing
    (threads.launcher.started simulation.settings.processes)

variable {simulation : Simulation} {final : Desk} {outcomes : List (List Outcome)}
  {threads next : Threads} {current enrolled pid : Nat}

/-! ## Admission -/

namespace Admitting

variable (hadmitting : threads.Admitting simulation current enrolled)

include hadmitting

/-- Nothing but the launcher, the dispatcher and what they share matters to admission. -/
theorem congr (hlauncher : next.launcher = threads.launcher)
    (hdispatcher : next.dispatcher = threads.dispatcher) (htable : next.table = threads.table)
    (hregistrations : next.registrations = threads.registrations) :
    next.Admitting simulation current enrolled := by
  cases threads
  cases next
  simp only at hlauncher hdispatcher htable hregistrations
  subst hlauncher hdispatcher htable hregistrations
  exact ⟨hadmitting.table, hadmitting.registrations_eq, hadmitting.enrolled_le,
    hadmitting.registered_le, hadmitting.launcher, hadmitting.dispatcher⟩

theorem current_le_enrolled : current ≤ enrolled :=
  Nat.le_trans (Nat.le_add_right _ _) hadmitting.table.admitted_le

theorem enrolled_le_processes : enrolled ≤ simulation.settings.processes :=
  Nat.le_trans hadmitting.enrolled_le hadmitting.registered_le

theorem lt_of_isBusy (hbusy : threads.dispatcher.isBusy = true) : current < enrolled := by
  have hadmitted := hadmitting.table.admitted_le
  rw [hbusy, Bool.toNat_true] at hadmitted
  exact hadmitted

/-- The dispatcher runs as long as there are processes that have not finished. -/
theorem isRunning_of_lt (hmore : current < simulation.settings.processes) :
    threads.dispatcher.isRunning = true := by
  have hstands := hadmitting.dispatcher
  cases hdispatcher : threads.dispatcher with
  | stopped result =>
      rw [hdispatcher] at hstands
      exact absurd hstands.1 (Nat.ne_of_lt hmore)
  | enrolling | awaiting | resuming | hearing => rfl

/-- The launcher goes on, with as many processes registered as before. -/
theorem launch (launcher : LauncherPhase)
    (hregistered : launcher.registered simulation.settings.processes =
      threads.launcher.registered simulation.settings.processes)
    (hlauncher : ∀ failure, launcher ≠ .aborted failure) :
    ({ threads with launcher } : Threads).Admitting simulation current enrolled :=
  ⟨hadmitting.table, by rw [hregistered]; exact hadmitting.registrations_eq,
    by rw [hregistered]; exact hadmitting.enrolled_le,
    by rw [hregistered]; exact hadmitting.registered_le, hlauncher, hadmitting.dispatcher⟩

/-- The next process registers. -/
theorem register {index : Nat} (hlauncher : threads.launcher = .registering index)
    (hlt : index < simulation.settings.processes) :
    ({ threads with
      launcher := .starting index
      registrations := threads.registrations ++ [⟨index, index⟩] } : Threads).Admitting
        simulation current enrolled := by
  have hregistrations := hadmitting.registrations_eq
  have hle := hadmitting.enrolled_le
  simp only [hlauncher, LauncherPhase.registered] at hregistrations hle
  refine ⟨hadmitting.table, ?_, Nat.le_succ_of_le hle, hlt, by simp, hadmitting.dispatcher⟩
  have hconcat := registrationsFrom_concat enrolled (index - enrolled)
  rw [Nat.add_sub_cancel' hle] at hconcat
  simp only [LauncherPhase.registered]
  rw [hregistrations, hconcat, Nat.succ_sub hle]

/-- The oldest registration that is there is the one of the next process. -/
theorem enrol {registration : Registration} {registrations : List Registration}
    (hregistrations : threads.registrations = registration :: registrations)
    (hidle : threads.dispatcher.isBusy = false)
    (hmore : current < simulation.settings.processes) :
    ({ threads with
      dispatcher := .enrolling
      table := (threads.table.enrol registration).1
      registrations } : Threads).Admitting simulation current (enrolled + 1) := by
  have hall := hadmitting.registrations_eq
  obtain ⟨count, hcount⟩ : ∃ count,
      threads.launcher.registered simulation.settings.processes - enrolled = count + 1 := by
    refine Nat.exists_eq_succ_of_ne_zero fun hzero => ?_
    rw [hzero, hregistrations] at hall
    exact absurd hall (by simp [registrationsFrom])
  rw [hcount, registrationsFrom_succ, hregistrations] at hall
  obtain ⟨rfl, rfl⟩ := List.cons.inj hall
  have htable := hadmitting.table
  rw [hidle] at htable
  have hrest : threads.launcher.registered simulation.settings.processes - (enrolled + 1) =
      count := by omega
  have henrolled : enrolled + 1 ≤
      threads.launcher.registered simulation.settings.processes := by omega
  exact ⟨htable.enrol, by rw [hrest], henrolled, hadmitting.registered_le, hadmitting.launcher,
    hmore⟩

/-- No process is ready. -/
theorem await (hidle : threads.dispatcher.isBusy = false)
    (hmore : current < simulation.settings.processes) (hready : threads.table.ready = []) :
    ({ threads with dispatcher := .awaiting } : Threads).Admitting simulation current
      enrolled := by
  have htable := hadmitting.table
  rw [hidle] at htable
  exact ⟨htable, hadmitting.registrations_eq, hadmitting.enrolled_le, hadmitting.registered_le,
    hadmitting.launcher, hmore, hready⟩

/-- The process that is ready longest is the next one. -/
theorem resumeNext (hidle : threads.dispatcher.isBusy = false) (hready : threads.table.ready ≠ []) :
    ∃ table, threads.table.start? = some (⟨current, current⟩, table) ∧
      ({ threads with
        dispatcher := .resuming ⟨current, current⟩
        table } : Threads).Admitting simulation current enrolled := by
  have htable := hadmitting.table
  rw [hidle] at htable
  have hlt : current < enrolled := by
    refine Nat.lt_of_not_le fun hle => hready ?_
    rw [htable.ready_eq, Bool.toNat_false, Nat.add_zero, Nat.sub_eq_zero_of_le hle]
    rfl
  obtain ⟨table, hstart, hnext⟩ := htable.start hlt
  exact ⟨table, hstart, hnext, hadmitting.registrations_eq, hadmitting.enrolled_le,
    hadmitting.registered_le, hadmitting.launcher, rfl⟩

/-- The dispatcher goes on from the process that it resumes. -/
theorem hear {dispatcher : DispatcherPhase} (hbusy : threads.dispatcher.isBusy = true)
    (hdispatcher : dispatcher = .hearing ⟨current, current⟩) :
    ({ threads with dispatcher } : Threads).Admitting simulation current enrolled := by
  subst hdispatcher
  have htable := hadmitting.table
  rw [hbusy] at htable
  exact ⟨htable, hadmitting.registrations_eq, hadmitting.enrolled_le, hadmitting.registered_le,
    hadmitting.launcher, rfl⟩

/-- The dispatcher turns from the current process to the next one. -/
theorem conclude (hbusy : threads.dispatcher.isBusy = true) :
    ∃ table, threads.table.hear ⟨current, .ended⟩ = (table, some current) ∧
      ({ threads with
        dispatcher := .turn simulation.settings.processes table
        table } : Threads).Admitting simulation (current + 1) enrolled := by
  have htable := hadmitting.table
  rw [hbusy] at htable
  obtain ⟨table, hhear, hnext⟩ := htable.hear_ended
  refine ⟨table, hhear, ?_⟩
  have hle : current + 1 ≤ simulation.settings.processes :=
    Nat.lt_of_lt_of_le (hadmitting.lt_of_isBusy hbusy) hadmitting.enrolled_le_processes
  refine ⟨by rw [DispatcherPhase.isBusy_turn]; exact hnext, hadmitting.registrations_eq,
    hadmitting.enrolled_le, hadmitting.registered_le, hadmitting.launcher, ?_⟩
  unfold DispatcherPhase.turn
  split
  next hdone =>
    rw [hnext.finished_eq] at hdone
    have heq := Nat.le_antisymm hle hdone
    refine ⟨heq, ?_⟩
    rw [hnext.order_eq, heq]
    rfl
  next hmore =>
    rw [hnext.finished_eq] at hmore
    exact Nat.lt_of_not_le hmore

end Admitting

/-! ## Steps of the launcher -/

namespace Orderly

/-- The threads are orderly when nothing has been sent yet. -/
theorem start {service : PageService}
    (hworking : service.Working simulation.settings.processes 0)
    (hperforms : Performs ⟨service, #[]⟩ simulation.clients final outcomes) :
    (Threads.start simulation service).Orderly simulation final outcomes 0 0 := by
  have hforeseen : (Threads.start simulation service).foreseen simulation 0 = .unborn := rfl
  have hhearing : (Threads.start simulation service).dispatcher.isHearing = false :=
    DispatcherPhase.isHearing_turn _ _
  constructor
  case admitting =>
    have hbusy : (Threads.start simulation service).dispatcher.isBusy = false :=
      DispatcherPhase.isBusy_turn _ _
    refine ⟨by rw [hbusy]; exact .blank, rfl, Nat.le_refl _, Nat.zero_le _, by simp [Threads.start],
      ?_⟩
    simp only [Threads.start, DispatcherPhase.turn]
    split
    next hnone =>
      obtain hzero := Nat.le_zero.mp hnone
      exact ⟨hzero.symm, by rw [hzero]; rfl⟩
    next hsome => exact Nat.pos_of_ne_zero fun hzero => hsome (Nat.le_of_eq hzero)
  case conversing =>
    rw [hhearing]
    constructor
    case unstarted => exact fun _ _ => rfl
    case past => exact fun pid hpid => absurd hpid (Nat.not_lt_zero pid)
    case later => exact fun pid _ => ⟨rfl, rfl, rfl⟩
    case present => simp
    case replied => simp [Threads.start]
    case continues => exact hperforms
    case requests_eq => rfl
    case service => exact stands_turn
    case working => exact hworking
    case announces =>
      rw [hforeseen]
      exact ⟨[], by simp, by simp [afoot, Threads.start, ClientPhase.isStopped]⟩
    case quiet => simp [afoot, Threads.start]

variable (horderly : threads.Orderly simulation final outcomes current enrolled)

include horderly

theorem launch (hlength : simulation.clients.length = simulation.settings.processes)
    (hnumbered : Numbered 0 simulation.clients) (hstep : threads.launch simulation = some next) :
    next.Orderly simulation final outcomes current enrolled := by
  obtain ⟨hadmitting, hconversing⟩ := horderly
  cases hlauncher : threads.launcher with
  | registering index =>
      have hle := hadmitting.registered_le
      simp only [hlauncher, LauncherPhase.registered] at hle
      simp only [hlauncher, LauncherPhase.started] at hconversing
      cases hclient : simulation.clients[index]? with
      | none =>
          simp only [Threads.launch, hlauncher, hclient, Option.some.injEq] at hstep
          subst hstep
          -- There is no further process: all of them are registered.
          have hindex : index = simulation.settings.processes := by
            rw [List.getElem?_eq_none_iff, hlength] at hclient
            exact Nat.le_antisymm hle hclient
          refine ⟨hadmitting.launch _ ?_ (by simp), ?_⟩
          · simp [hlauncher, LauncherPhase.registered, hindex]
          · rw [hindex] at hconversing
            exact hconversing.congr rfl rfl rfl rfl rfl rfl rfl
      | some client =>
          have hlt : index < simulation.settings.processes := by
            rw [← hlength]
            exact (List.getElem?_eq_some_iff.mp hclient).1
          have hrunning : threads.dispatcher.isRunning = true := by
            apply hadmitting.isRunning_of_lt
            have henrolled := hadmitting.enrolled_le
            rw [hlauncher] at henrolled
            exact Nat.lt_of_le_of_lt (Nat.le_trans hadmitting.current_le_enrolled henrolled) hlt
          obtain rfl : client.pid = index := by simpa using hnumbered index client hclient
          simp only [Threads.launch, hlauncher, hclient, Channel.send, registrationChannel,
            hrunning, if_true, Option.some.injEq] at hstep
          subst hstep
          exact ⟨hadmitting.register hlauncher hlt,
            hconversing.congr rfl rfl rfl rfl rfl rfl rfl⟩
  | starting index =>
      simp only [hlauncher, LauncherPhase.started] at hconversing
      simp only [Threads.launch, hlauncher, Option.some.injEq] at hstep
      subst hstep
      refine ⟨?_, hconversing.start.congr rfl rfl rfl rfl rfl rfl rfl⟩
      have hlaunched := hadmitting.launch (.registering (index + 1)) ?_ (by simp)
      · exact hlaunched.congr rfl rfl rfl rfl
      · simp [hlauncher, LauncherPhase.registered]
  | joining =>
      simp only [Threads.launch, hlauncher] at hstep
      exact absurd hstep (by simp)
  | aborted => exact absurd hlauncher (hadmitting.launcher _)

/-! ## Steps of the dispatcher -/

/-- A resumed process, or the launcher for it, still holds its line. -/
theorem hasReceiver_of_resuming {registration : Registration}
    (hresuming : threads.dispatcher = .resuming registration) :
    registration = ⟨current, current⟩ ∧ (threads.resumeChannel current).hasReceiver = true := by
  obtain ⟨hadmitting, hconversing⟩ := horderly
  have hstands := hadmitting.dispatcher
  have hlt := hadmitting.lt_of_isBusy (by rw [hresuming]; rfl)
  have hle := hadmitting.enrolled_le
  have hregistered := hadmitting.registered_le
  rw [hresuming] at hstands hconversing
  refine ⟨hstands, ?_⟩
  have hphase := (hconversing.later current (Nat.le_refl _)).1
  -- The process registered before its thread started, so the launcher may still have its line.
  cases hlauncher : threads.launcher with
  | registering index | joining =>
      simp only [hlauncher, LauncherPhase.registered, LauncherPhase.started]
        at hle hphase hregistered
      have hwaiting : threads.clients current = .waiting := by
        rw [hphase, ClientPhase.silent, if_pos (by omega)]
      simp [resumeChannel, hwaiting, ClientPhase.isRunning]
  | starting index =>
      simp only [hlauncher, LauncherPhase.registered, LauncherPhase.started] at hle hphase
      by_cases hself : index = current
      · simp [resumeChannel, hlauncher, LauncherPhase.keeps, hself]
      · have hwaiting : threads.clients current = .waiting := by
          rw [hphase, ClientPhase.silent, if_pos (by omega)]
        simp [resumeChannel, hwaiting, ClientPhase.isRunning]
  | aborted => exact absurd hlauncher (hadmitting.launcher _)

/-- A dispatcher that waits for a registration gets one. -/
theorem hasSender_of_awaiting (hawaiting : threads.dispatcher = .awaiting)
    (hregistrations : threads.registrations = []) :
    threads.registrationChannel.hasSender = true := by
  obtain ⟨hadmitting, hconversing⟩ := horderly
  have hstands := hadmitting.dispatcher
  have htable := hadmitting.table
  have hall := hadmitting.registrations_eq
  rw [hawaiting] at hstands htable
  cases hlauncher : threads.launcher with
  | registering | starting => simp [registrationChannel, hlauncher, LauncherPhase.isLaunching]
  | joining =>
      obtain ⟨hmore, hready⟩ := hstands
      rw [htable.ready_eq] at hready
      rw [hregistrations, hlauncher] at hall
      simp [registrationsFrom, LauncherPhase.registered, DispatcherPhase.isBusy] at hready hall
      omega
  | aborted => exact absurd hlauncher (hadmitting.launcher _)

/-- The service goes on as long as the dispatcher waits for its notices. -/
theorem hasSender_of_hearing {registration : Registration}
    (hhearing : threads.dispatcher = .hearing registration) (hnotices : threads.notices = []) :
    threads.noticeChannel.hasSender = true := by
  obtain ⟨hadmitting, hconversing⟩ := horderly
  have hlt : current < simulation.settings.processes :=
    Nat.lt_of_lt_of_le (hadmitting.lt_of_isBusy (by rw [hhearing]; rfl))
      hadmitting.enrolled_le_processes
  cases hservice : threads.service with
  | stopped result =>
      have hended : (threads.foreseen simulation current).isStopped = false := by
        apply hconversing.isStopped_of_afoot
        simp [afoot, hnotices, hservice, ServicePhase.notice?]
      have hrunning := hconversing.isRunning_of_lt (by simpa [hended] using hlt)
      rw [hservice] at hrunning
      exact absurd hrunning (by simp [ServicePhase.isRunning])
  | idle | replying | notifying => simp [noticeChannel, hservice, ServicePhase.isRunning]

theorem dispatch_enrolling (hdispatcher : threads.dispatcher = .enrolling)
    (hstep : threads.dispatch simulation = some next) :
    ∃ enrolled, next.Orderly simulation final outcomes current enrolled := by
  obtain ⟨hadmitting, hconversing⟩ := horderly
  have hmore := hadmitting.dispatcher
  have hidle : threads.dispatcher.isBusy = false := by rw [hdispatcher]; rfl
  rw [hdispatcher] at hmore hconversing
  cases hregistrations : threads.registrations with
  | cons registration registrations =>
      simp only [Threads.dispatch, hdispatcher, hregistrations, Option.some.injEq] at hstep
      subst hstep
      exact ⟨enrolled + 1, hadmitting.enrol hregistrations hidle hmore,
        hconversing.congr rfl rfl rfl rfl rfl rfl rfl⟩
  | nil =>
      simp only [Threads.dispatch, hdispatcher, hregistrations] at hstep
      split at hstep
      next hready =>
        obtain rfl := Option.some.inj hstep
        have hnext := hadmitting.await hidle hmore (by simpa using hready)
        exact ⟨enrolled, hnext.congr rfl rfl rfl hregistrations.symm,
          hconversing.congr rfl rfl rfl rfl rfl rfl rfl⟩
      next hready =>
        obtain ⟨table, hstart, hnext⟩ := hadmitting.resumeNext hidle (by simpa using hready)
        rw [hstart] at hstep
        obtain rfl := Option.some.inj hstep
        exact ⟨enrolled, hnext.congr rfl rfl rfl hregistrations.symm,
          hconversing.congr rfl rfl rfl rfl rfl rfl rfl⟩

theorem dispatch_awaiting (hdispatcher : threads.dispatcher = .awaiting)
    (hstep : threads.dispatch simulation = some next) :
    next.Orderly simulation final outcomes current (enrolled + 1) := by
  obtain ⟨hadmitting, hconversing⟩ := id horderly
  have hstands := hadmitting.dispatcher
  have hidle : threads.dispatcher.isBusy = false := by rw [hdispatcher]; rfl
  rw [hdispatcher] at hstands hconversing
  cases hregistrations : threads.registrations with
  | cons registration registrations =>
      simp only [Threads.dispatch, hdispatcher, Channel.receive?, registrationChannel,
        hregistrations, Option.some.injEq] at hstep
      subst hstep
      have hnext := hadmitting.enrol hregistrations hidle hstands.1
      have hturn : DispatcherPhase.turn simulation.settings.processes
          (threads.table.enrol registration).1 = .enrolling := by
        unfold DispatcherPhase.turn
        rw [hnext.table.finished_eq, if_neg (Nat.not_le.mpr hstands.1)]
      refine ⟨hnext.congr rfl hturn rfl rfl, ?_⟩
      rw [DispatcherPhase.isHearing_turn]
      exact hconversing.congr rfl rfl rfl rfl rfl rfl rfl
  | nil =>
      have hsender := horderly.hasSender_of_awaiting hdispatcher hregistrations
      have hqueue : threads.registrationChannel.queue = [] := hregistrations
      simp only [Threads.dispatch, hdispatcher, Channel.receive?_of_hasSender _ hqueue hsender]
        at hstep
      exact absurd hstep (by simp)

theorem dispatch_resuming {registration : Registration}
    (hdispatcher : threads.dispatcher = .resuming registration)
    (hstep : threads.dispatch simulation = some next) :
    next.Orderly simulation final outcomes current enrolled := by
  obtain ⟨rfl, hreceiver⟩ := horderly.hasReceiver_of_resuming hdispatcher
  obtain ⟨hadmitting, hconversing⟩ := horderly
  rw [hdispatcher] at hconversing
  -- No end is reported before the admission, so the dispatcher does not turn here.
  simp only [Threads.dispatch, hdispatcher, Channel.send, hreceiver, if_true,
    hadmitting.table.settle_eq, Bool.false_eq_true, if_false, Option.some.injEq] at hstep
  subst hstep
  have hnext := hadmitting.hear (by rw [hdispatcher]; rfl) rfl
  exact ⟨hnext.congr rfl rfl rfl rfl, (hconversing.resume rfl).congr rfl rfl rfl rfl rfl rfl rfl⟩

theorem dispatch_hearing {registration : Registration}
    (hdispatcher : threads.dispatcher = .hearing registration)
    (hstep : threads.dispatch simulation = some next) :
    ∃ current, next.Orderly simulation final outcomes current enrolled := by
  obtain ⟨hadmitting, hconversing⟩ := id horderly
  have hregistration := hadmitting.dispatcher
  have hbusy : threads.dispatcher.isBusy = true := by rw [hdispatcher]; rfl
  rw [hdispatcher] at hregistration hconversing
  obtain rfl := hregistration
  cases hnotices : threads.notices with
  | nil =>
      have hsender := horderly.hasSender_of_hearing hdispatcher hnotices
      have hqueue : threads.noticeChannel.queue = [] := hnotices
      simp only [Threads.dispatch, hdispatcher, Channel.receive?_of_hasSender _ hqueue hsender]
        at hstep
      exact absurd hstep (by simp)
  | cons notice notices =>
      simp only [Threads.dispatch, hdispatcher, Channel.receive?, noticeChannel, hnotices,
        Option.some.injEq] at hstep
      subst hstep
      by_cases hevent : notice.event = .ended
      · obtain ⟨rfl, hnext⟩ := hconversing.hear_end hnotices hevent
        obtain ⟨table, hhear, hadmitted⟩ := hadmitting.conclude hbusy
        refine ⟨current + 1, ?_, ?_⟩
        · simp only [hhear, if_true]
          exact hadmitted.congr rfl rfl rfl rfl
        · simp only [hhear, if_true, DispatcherPhase.isHearing_turn]
          exact hnext.congr rfl rfl rfl rfl rfl rfl rfl
      · refine ⟨current, ?_, ?_⟩
        · simp only [Admissions.hear_of_ne_ended _ hevent, reduceCtorEq, if_false]
          exact (hadmitting.hear hbusy rfl).congr rfl rfl rfl rfl
        · simp only [Admissions.hear_of_ne_ended _ hevent, reduceCtorEq, if_false]
          exact (hconversing.hear_quiet hnotices hevent).congr rfl rfl rfl rfl rfl rfl rfl

theorem dispatch (hstep : threads.dispatch simulation = some next) :
    ∃ current enrolled, next.Orderly simulation final outcomes current enrolled := by
  cases hdispatcher : threads.dispatcher with
  | enrolling => exact ⟨current, horderly.dispatch_enrolling hdispatcher hstep⟩
  | awaiting => exact ⟨current, _, horderly.dispatch_awaiting hdispatcher hstep⟩
  | resuming registration => exact ⟨current, _, horderly.dispatch_resuming hdispatcher hstep⟩
  | hearing registration =>
      obtain ⟨current, hnext⟩ := horderly.dispatch_hearing hdispatcher hstep
      exact ⟨current, _, hnext⟩
  | stopped =>
      simp only [Threads.dispatch, hdispatcher] at hstep
      exact absurd hstep (by simp)

/-! ## Steps of the service -/

/-- As long as there are streams that have not ended, a process can send. -/
theorem hasSender_of_idle (hlength : simulation.clients.length = simulation.settings.processes)
    (hidle : threads.service = .idle) :
    (threads.requestChannel simulation).hasSender = true := by
  obtain ⟨hadmitting, hconversing⟩ := horderly
  have hstands := hconversing.service
  rw [hidle] at hstands
  have hmore : current + (threads.foreseen simulation current).isStopped.toNat <
      simulation.settings.processes := by
    refine Nat.lt_of_not_le fun hle => ?_
    have hended := (PageService.allEnded_iff hconversing.working).mpr hle
    rw [show threads.desk.service.allEnded = false from hstands] at hended
    exact absurd hended (by simp)
  cases hlauncher : threads.launcher with
  | registering | starting => simp [requestChannel, hlauncher, LauncherPhase.isLaunching]
  | joining =>
      rw [hlauncher] at hconversing
      obtain ⟨pid, hlt, hrunning⟩ := hconversing.exists_isRunning hmore
      simp only [requestChannel, Bool.or_eq_true, List.any_eq_true, List.mem_range]
      exact .inr ⟨pid, hlength ▸ hlt, hrunning⟩
  | aborted => exact absurd hlauncher (hadmitting.launcher _)

theorem serve (hlength : simulation.clients.length = simulation.settings.processes)
    (houtcomes : outcomes.length = simulation.settings.processes) {audits : Bool}
    (hstep : threads.serve simulation audits = some next) :
    next.Orderly simulation final outcomes current enrolled := by
  obtain ⟨hadmitting, hconversing⟩ := id horderly
  cases hservice : threads.service with
  | idle =>
      cases hrequests : threads.requests with
      | nil =>
          have hsender := horderly.hasSender_of_idle hlength hservice
          have hqueue : (threads.requestChannel simulation).queue = [] := hrequests
          simp only [Threads.serve, hservice, Channel.receive?_of_hasSender _ hqueue hsender]
            at hstep
          exact absurd hstep (by simp)
      | cons letter requests =>
          obtain ⟨served, hhandle, hnext⟩ :=
            hconversing.handle audits houtcomes hservice hrequests
          simp only [Threads.serve, hservice, Channel.receive?, requestChannel, hrequests, hhandle,
            Option.some.injEq] at hstep
          subst hstep
          exact ⟨hadmitting.congr rfl rfl rfl rfl, hnext⟩
  | replying letter served =>
      obtain ⟨hreceiver, hnext⟩ := hconversing.reply hservice
      simp only [Threads.serve, hservice, Channel.send, replyChannel, hreceiver, if_true,
        Option.some.injEq] at hstep
      subst hstep
      exact ⟨hadmitting.congr rfl rfl rfl rfl, hnext⟩
  | notifying notice =>
      have hrunning : threads.dispatcher.isRunning = true := by
        apply DispatcherPhase.isRunning_of_isHearing
        apply hconversing.hearing_of_afoot
        simp [afoot, hservice]
      simp only [Threads.serve, hservice, Channel.send, noticeChannel, hrunning, if_true,
        Option.some.injEq] at hstep
      subst hstep
      exact ⟨hadmitting.congr rfl rfl rfl rfl, hconversing.notify hservice⟩
  | stopped =>
      simp only [Threads.serve, hservice] at hstep
      exact absurd hstep (by simp)

/-! ## Steps of the processes -/

/-- The line of a process that waits is held by the dispatcher, or on its way to it. -/
theorem hasSender_of_waiting (hlt : pid < simulation.settings.processes)
    (hwaiting : threads.clients pid = .waiting) :
    (threads.resumeChannel pid).hasSender = true := by
  obtain ⟨hadmitting, hconversing⟩ := horderly
  have hge : current ≤ pid := by
    apply hconversing.current_le_of_not_begun
    rw [hwaiting]
    rfl
  have hstarted : pid < threads.launcher.started simulation.settings.processes := by
    refine Nat.lt_of_not_le fun hle => ?_
    rw [hconversing.unstarted pid hle] at hwaiting
    exact absurd hwaiting (by simp)
  have hregistered : pid < threads.launcher.registered simulation.settings.processes :=
    Nat.lt_of_lt_of_le hstarted (LauncherPhase.started_le_registered _ _)
  have hrunning := hadmitting.isRunning_of_lt (Nat.lt_of_le_of_lt hge hlt)
  have hstands := hadmitting.dispatcher
  have hall := hadmitting.registrations_eq
  have hready := hadmitting.table.ready_eq
  simp only [resumeChannel, hrunning, Bool.true_and, List.any_eq_true, List.mem_append]
  refine ⟨⟨pid, pid⟩, ?_, by simp⟩
  -- A registration is in the channel, in the table or with the dispatcher.
  rcases Nat.lt_or_ge pid enrolled with henrolled | hlater
  · rcases Nat.lt_or_ge pid (current + threads.dispatcher.isBusy.toNat) with hadmitted | hbehind
    · -- The process is the current one, and the dispatcher is busy with it.
      refine .inr ?_
      cases hdispatcher : threads.dispatcher with
      | enrolling | awaiting | stopped =>
          rw [hdispatcher] at hadmitted
          exact absurd hge (Nat.not_le.mpr hadmitted)
      | resuming registration | hearing registration =>
          rw [hdispatcher] at hadmitted hstands
          obtain rfl := Nat.le_antisymm (Nat.le_of_lt_succ hadmitted) hge
          rw [show registration = ⟨pid, pid⟩ from hstands]
          exact List.mem_singleton_self _
    · refine .inl (.inr ?_)
      rw [hready]
      exact mem_registrationsFrom.mpr ⟨hbehind, by omega⟩
  · refine .inl (.inl ?_)
    rw [hall]
    exact mem_registrationsFrom.mpr ⟨hlater, by omega⟩

/-- The service answers every request. -/
theorem hasSender_of_listening (hlt : pid < simulation.settings.processes) {before : List Outcome}
    {references : List Int} (hlistening : threads.clients pid = .listening before references)
    (hreplies : threads.replies pid = none) : (threads.replyChannel pid).hasSender = true := by
  obtain ⟨-, hconversing⟩ := horderly
  have hle : pid ≤ current := by
    apply hconversing.le_current_of_begun
    rw [hlistening]
    rfl
  have hstands := hconversing.service
  cases hpending : threads.pending? pid with
  | some outcome =>
      -- The reply is not sent yet, so the service is about to send it.
      rw [pending?, hreplies, Option.map_none, Option.none_or] at hpending
      cases hservice : threads.service with
      | replying letter served =>
          rw [hservice, ServicePhase.replyTo?_replying] at hpending
          split at hpending
          next hself => simp [replyChannel, hservice, hself]
          next => exact absurd hpending (by simp)
      | idle | notifying | stopped =>
          rw [hservice] at hpending
          exact absurd hpending (by simp [ServicePhase.replyTo?])
  | none =>
      have hforeseen : threads.foreseen simulation pid = .listening before references := by
        rw [foreseen, hlistening, hpending]
        rfl
      obtain rfl : pid = current := by
        refine Nat.le_antisymm hle (Nat.le_of_not_lt fun hpast => ?_)
        obtain ⟨-, own, -, hended⟩ := hconversing.past pid hpast
        rw [hforeseen] at hended
        exact absurd hended (by simp)
      have hrequests := hconversing.requests_eq
      have hrunning := hconversing.isRunning_of_lt (by rw [hforeseen]; exact hlt)
      rw [hforeseen] at hrequests
      cases hservice : threads.service with
      | idle | replying | notifying => simp [replyChannel, hservice, hrequests, openRequests]
      | stopped =>
          rw [hservice] at hrunning
          exact absurd hrunning (by simp [ServicePhase.isRunning])

/-- The service takes requests as long as there are processes to send them. -/
theorem isRunning_of_speaking (hlt : pid < simulation.settings.processes)
    {before : List Outcome} {references : List Int}
    (hspeaking : threads.clients pid = .speaking before references) :
    threads.service.isRunning = true := by
  obtain ⟨-, hconversing⟩ := horderly
  obtain ⟨rfl, hforeseen⟩ := hconversing.eq_current_of_speaking hspeaking
  apply hconversing.isRunning_of_lt
  rw [hforeseen]
  exact hlt

theorem speak (hlength : simulation.clients.length = simulation.settings.processes)
    (hnumbered : Numbered 0 simulation.clients) {client : Client}
    (hclient : simulation.clients[pid]? = some client)
    (hstep : threads.speak simulation pid client = some next) :
    next.Orderly simulation final outcomes current enrolled := by
  obtain ⟨hadmitting, hconversing⟩ := id horderly
  have hnumber : client.pid = pid := by simpa using hnumbered pid client hclient
  have hlt : pid < simulation.settings.processes := by
    rw [← hlength]
    exact (List.getElem?_eq_some_iff.mp hclient).1
  cases hphase : threads.clients pid with
  | unborn | stopped =>
      simp only [Threads.speak, hphase] at hstep
      exact absurd hstep (by simp)
  | waiting =>
      cases hresumes : threads.resumes pid with
      | true =>
          simp only [Threads.speak, hphase, Channel.receive?, resumeChannel, hresumes, if_true,
            Option.some.injEq] at hstep
          subst hstep
          exact ⟨hadmitting.congr rfl rfl rfl rfl,
            hconversing.begin_current hclient hnumber hphase hresumes⟩
      | false =>
          have hsender := horderly.hasSender_of_waiting hlt hphase
          have hqueue : (threads.resumeChannel pid).queue = [] := by
            simp [resumeChannel, hresumes]
          simp only [Threads.speak, hphase, Channel.receive?_of_hasSender _ hqueue hsender] at hstep
          exact absurd hstep (by simp)
  | speaking before references =>
      have hrunning := horderly.isRunning_of_speaking hlt hphase
      simp only [Threads.speak, hphase, Channel.send, requestChannel, hrunning, if_true,
        Option.some.injEq] at hstep
      subst hstep
      exact ⟨hadmitting.congr rfl rfl rfl rfl, hconversing.ask hclient hnumber hphase⟩
  | listening before references =>
      cases hreplies : threads.replies pid with
      | some reply =>
          simp only [Threads.speak, hphase, Channel.receive?, replyChannel, hreplies,
            Option.toList_some, Option.some.injEq] at hstep
          subst hstep
          exact ⟨hadmitting.congr rfl rfl rfl rfl, hconversing.listen hclient hphase hreplies⟩
      | none =>
          have hsender := horderly.hasSender_of_listening hlt hphase hreplies
          have hqueue : (threads.replyChannel pid).queue = [] := by simp [replyChannel, hreplies]
          simp only [Threads.speak, hphase, Channel.receive?_of_hasSender _ hqueue hsender] at hstep
          exact absurd hstep (by simp)

/-! ## Steps of any thread -/

theorem step (hlength : simulation.clients.length = simulation.settings.processes)
    (hnumbered : Numbered 0 simulation.clients)
    (houtcomes : outcomes.length = simulation.settings.processes) {audits : Bool}
    {name : ThreadName} (hstep : threads.step? simulation audits name = some next) :
    ∃ current enrolled, next.Orderly simulation final outcomes current enrolled := by
  cases name with
  | launcher => exact ⟨current, enrolled, horderly.launch hlength hnumbered hstep⟩
  | service => exact ⟨current, enrolled, horderly.serve hlength houtcomes hstep⟩
  | dispatcher => exact horderly.dispatch hstep
  | client pid =>
      obtain ⟨client, hclient, hspeak⟩ := Option.bind_eq_some_iff.mp hstep
      exact ⟨current, enrolled, horderly.speak hlength hnumbered hclient hspeak⟩

end Orderly

end Threads

end DemandPaging
