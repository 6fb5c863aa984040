import Mathlib.Logic.Relation
import DemandPaging.Proofs.Simulation.OrderlySteps
import DemandPaging.Proofs.Simulation.WorkLeft

/-!
# Every interleaving gives the result of the run without threads

In every state that the threads can reach, in whatever order they come to their
steps, no thread has failed and some thread has a step unless all have ended. No
order of steps goes on without end, so that the threads come to their result. What
the service has handled is the beginning of the run without threads, and the report
is its report.
-/

namespace DemandPaging

/-! ## Results of many threads -/

section Results

variable {α : Type} {f : Nat → Option (Except Failure α)} {first : Nat}

/-- Threads that have no failures have their values for results once all have ended. -/
theorem mapM_result_cases (values : List α)
    (hresults : ∀ index value, values[index]? = some value →
      f (first + index) = none ∨ f (first + index) = some (.ok value)) :
    (List.range' first values.length).mapM f = none ∨
      (List.range' first values.length).mapM f = some (values.map .ok) := by
  induction values generalizing first with
  | nil => exact .inr rfl
  | cons value values ih =>
      have hlater : ∀ index other, values[index]? = some other →
          f (first + 1 + index) = none ∨ f (first + 1 + index) = some (.ok other) := by
        intro index other hother
        rw [Nat.add_assoc, Nat.add_comm 1 index]
        exact hresults (index + 1) other hother
      have hrest := ih hlater
      rw [List.length_cons, List.range'_succ, List.mapM_cons]
      rcases hresults 0 value rfl with hnone | hsome
      · rw [Nat.add_zero] at hnone
        exact .inl (by rw [hnone]; rfl)
      · rw [Nat.add_zero] at hsome
        rw [hsome]
        rcases hrest with hnone | hsome
        · exact .inl (by rw [hnone]; rfl)
        · exact .inr (by rw [hsome]; rfl)

theorem exists_none_of_mapM {indices : List Nat} (hnone : indices.mapM f = none) :
    ∃ index ∈ indices, f index = none := by
  induction indices with
  | nil => exact absurd hnone (by simp)
  | cons index indices ih =>
      cases hresult : f index with
      | none => exact ⟨index, List.mem_cons_self, hresult⟩
      | some result =>
          have hrest : indices.mapM f = none := by
            cases hmapM : indices.mapM f with
            | none => rfl
            | some results =>
                rw [List.mapM_cons, hresult, hmapM] at hnone
                exact absurd hnone (by simp)
          obtain ⟨other, hmem, hother⟩ := ih hrest
          exact ⟨other, List.mem_cons_of_mem _ hmem, hother⟩

theorem mapM_ok (values : List α) :
    (values.map (Except.ok (ε := Failure))).mapM id = .ok values := by
  induction values with
  | nil => rfl
  | cons value values ih =>
      rw [List.map_cons, List.mapM_cons, ih]
      rfl

end Results

namespace Threads

variable {simulation : Simulation} {final : Desk} {outcomes : List (List Outcome)}
  {threads next : Threads} {current enrolled pid : Nat} {audits : Bool}

/-! ## Threads that have a step -/

theorem isSome_launch (hlaunching : threads.launcher.isLaunching = true) :
    (threads.launch simulation).isSome = true := by
  unfold launch
  split
  next =>
    split
    next => rfl
    next => split <;> rfl
  next => rfl
  next hjoining => simp [hjoining, LauncherPhase.isLaunching] at hlaunching
  next haborted => simp [haborted, LauncherPhase.isLaunching] at hlaunching

theorem isSome_serve (hrunning : threads.service.isRunning = true)
    (hrequests : threads.service = .idle → threads.requests ≠ []) :
    (threads.serve simulation audits).isSome = true := by
  cases hservice : threads.service with
  | idle =>
      obtain ⟨letter, requests, hletters⟩ := List.exists_cons_of_ne_nil (hrequests hservice)
      simp only [serve, hservice, Channel.receive?, requestChannel, hletters]
      split <;> rfl
  | replying | notifying =>
      simp only [serve, hservice]
      split <;> rfl
  | stopped => simp [hservice, ServicePhase.isRunning] at hrunning

/-- Once all processes are registered the dispatcher waits for nothing but notices. -/
theorem isSome_dispatch (hlauncher : threads.launcher = .joining)
    (hrunning : threads.dispatcher.isRunning = true)
    (hnotices : threads.dispatcher.isHearing = true → threads.notices ≠ []) :
    (threads.dispatch simulation).isSome = true := by
  cases hdispatcher : threads.dispatcher with
  | enrolling =>
      simp only [dispatch, hdispatcher]
      split
      next => rfl
      next =>
        split
        next => rfl
        next => split <;> rfl
  | awaiting =>
      cases hregistrations : threads.registrations with
      | nil =>
          simp [dispatch, hdispatcher, Channel.receive?, registrationChannel, hregistrations,
            hlauncher, LauncherPhase.isLaunching, Channel.emptyFailure?]
      | cons =>
          simp [dispatch, hdispatcher, Channel.receive?, registrationChannel, hregistrations]
  | resuming =>
      simp only [dispatch, hdispatcher]
      split <;> rfl
  | hearing =>
      rw [hdispatcher] at hnotices
      obtain ⟨notice, notices, hall⟩ := List.exists_cons_of_ne_nil (hnotices rfl)
      simp [dispatch, hdispatcher, Channel.receive?, noticeChannel, hall]
  | stopped => simp [hdispatcher, DispatcherPhase.isRunning] at hrunning

theorem isSome_speak {client : Client} (hrunning : (threads.clients pid).isRunning = true)
    (hwaiting : threads.clients pid = .waiting → threads.resumes pid = true)
    (hlistening : (threads.clients pid).isListening = true →
      (threads.replies pid).isSome = true) :
    (threads.speak simulation pid client).isSome = true := by
  cases hphase : threads.clients pid with
  | waiting => simp [speak, hphase, Channel.receive?, resumeChannel, hwaiting hphase]
  | speaking =>
      simp only [speak, hphase]
      split <;> rfl
  | listening =>
      rw [hphase] at hlistening
      obtain ⟨reply, hreply⟩ := Option.isSome_iff_exists.mp (hlistening rfl)
      simp [speak, hphase, Channel.receive?, replyChannel, hreply]
  | unborn | stopped => simp [hphase, ClientPhase.isRunning] at hrunning

/-- What the threads report of a service is what the run without threads reports of it. -/
theorem conclude_report (service : PageService) (outcomes : List (List Outcome)) :
    conclude simulation (.ok service.report)
        (.ok (List.range simulation.settings.processes)) (.ok outcomes) =
      .ok (simulation.reportOf service outcomes) := by
  simp only [conclude, Simulation.reportOf, PageService.report, Array.getElem?_toList]

namespace Orderly

variable (horderly : threads.Orderly simulation final outcomes current enrolled)

include horderly

theorem unfailed : threads.Unfailed := by
  obtain ⟨hadmitting, hconversing⟩ := horderly
  constructor
  case launcher => exact hadmitting.launcher
  case service =>
    intro failure hfailed
    have hstands := hconversing.service
    rw [hfailed] at hstands
    exact absurd hstands.2 (by simp)
  case dispatcher =>
    intro failure hfailed
    have hstands := hadmitting.dispatcher
    rw [hfailed] at hstands
    exact absurd hstands.2 (by simp)
  case clients =>
    intro pid failure hfailed
    have hforeseen : threads.foreseen simulation pid = .stopped (.error failure) := by
      rw [foreseen, hfailed]
      rfl
    have hbegun : (threads.clients pid).hasBegun = true := by
      rw [hfailed]
      rfl
    rcases Nat.lt_or_eq_of_le (hconversing.le_current_of_begun hbegun) with hpast | rfl
    · obtain ⟨-, own, -, hended⟩ := hconversing.past pid hpast
      rw [hforeseen] at hended
      exact absurd hended (by simp)
    · have hcontinues := hconversing.continues
      rw [hforeseen] at hcontinues
      obtain ⟨before, hok, -⟩ := hcontinues
      exact absurd hok (by simp)

/-- The requests handled so far are the first ones of the run without threads. -/
theorem requests_initial : threads.desk.requests <+: final.requests := by
  have hsteps : threads.desk.steps.toList <+: final.steps.toList := by
    have hcontinues := horderly.conversing.continues
    cases hphase : threads.foreseen simulation current with
    | unborn | waiting =>
        rw [hphase] at hcontinues
        exact Performs.steps_initial hcontinues
    | speaking | listening =>
        rw [hphase] at hcontinues
        obtain ⟨middle, after, htalks, -, hlater⟩ := hcontinues
        exact htalks.steps_initial.trans hlater.steps_initial
    | stopped =>
        rw [hphase] at hcontinues
        obtain ⟨before, -, -, hlater⟩ := hcontinues
        exact hlater.steps_initial
  exact hsteps.map _

/-- Once the dispatcher has ended, the service has handled all requests. -/
theorem of_dispatched (hlength : simulation.clients.length = simulation.settings.processes)
    (houtcomes : outcomes.length = simulation.settings.processes)
    (hlauncher : threads.launcher = .joining) {order : Except Failure (List Nat)}
    (hdispatcher : threads.dispatcher = .stopped order) :
    current = simulation.settings.processes ∧
      order = .ok (List.range simulation.settings.processes) ∧ threads.desk = final ∧
      threads.desk.service.allEnded = true := by
  obtain ⟨hadmitting, hconversing⟩ := horderly
  have hstands := hadmitting.dispatcher
  rw [hdispatcher] at hstands
  obtain ⟨rfl, horder⟩ := hstands
  rw [hlauncher] at hconversing
  have hunborn := hconversing.unstarted simulation.settings.processes (Nat.le_refl _)
  have hforeseen : threads.foreseen simulation simulation.settings.processes = .unborn := by
    rw [foreseen, hunborn]
    rfl
  have hcontinues := hconversing.continues
  have hworking := hconversing.working
  rw [hforeseen] at hcontinues hworking
  refine ⟨rfl, horder, ?_, (PageService.allEnded_iff hworking).mpr (Nat.le_refl _)⟩
  have hperforms : Performs threads.desk [] final [] := by
    have hclients : simulation.clients.drop simulation.settings.processes = [] :=
      List.drop_eq_nil_of_le (Nat.le_of_eq hlength)
    have hrest : outcomes.drop simulation.settings.processes = [] :=
      List.drop_eq_nil_of_le (Nat.le_of_eq houtcomes)
    rw [← hclients, ← hrest]
    exact hcontinues
  cases hperforms
  rfl

/-- Once all processes have finished each of them has its outcomes, if its thread has
ended. -/
theorem result?_clients (hlast : current = simulation.settings.processes)
    (houtcomes : outcomes.length = simulation.settings.processes) {own : List Outcome}
    (hown : outcomes[pid]? = some own) :
    (threads.clients pid).result? = none ∨ (threads.clients pid).result? = some (.ok own) := by
  have hlt : pid < current := by
    rw [hlast, ← houtcomes]
    exact (List.getElem?_eq_some_iff.mp hown).1
  obtain ⟨-, other, hother, hforeseen⟩ := horderly.conversing.past pid hlt
  obtain rfl := Option.some.inj (hown.symm.trans hother)
  cases hphase : threads.clients pid with
  | unborn | waiting | speaking | listening => exact .inl rfl
  | stopped result =>
      rw [foreseen, hphase] at hforeseen
      exact .inr (congrArg ClientPhase.result? hforeseen)

/-- The result of the threads is the report of the run without threads. -/
theorem result?_cases (hlength : simulation.clients.length = simulation.settings.processes)
    (houtcomes : outcomes.length = simulation.settings.processes) :
    threads.result? simulation = none ∨
      threads.result? simulation = some (.ok (simulation.reportOf final.service outcomes)) := by
  have hunfailed := horderly.unfailed
  cases hlauncher : threads.launcher with
  | registering | starting => exact .inl (by simp only [result?, hlauncher])
  | aborted failure => exact absurd hlauncher (hunfailed.launcher failure)
  | joining =>
      cases hservice : threads.service with
      | idle | replying | notifying =>
          exact .inl (by simp [result?, hlauncher, hservice, ServicePhase.result?])
      | stopped memory =>
          cases hdispatcher : threads.dispatcher with
          | enrolling | awaiting | resuming | hearing =>
              exact .inl (by
                simp [result?, hlauncher, hservice, hdispatcher, ServicePhase.result?,
                  DispatcherPhase.result?])
          | stopped order =>
              obtain ⟨hlast, rfl, rfl, -⟩ :=
                horderly.of_dispatched hlength houtcomes hlauncher hdispatcher
              have hstands := horderly.conversing.service
              rw [hservice] at hstands
              obtain ⟨-, rfl⟩ := hstands
              have hclients : (List.range simulation.clients.length).mapM
                    (fun pid => (threads.clients pid).result?) = none ∨
                  (List.range simulation.clients.length).mapM
                    (fun pid => (threads.clients pid).result?) = some (outcomes.map .ok) := by
                rw [hlength, ← houtcomes, List.range_eq_range']
                refine mapM_result_cases outcomes fun pid own hown => ?_
                rw [Nat.zero_add]
                exact horderly.result?_clients hlast houtcomes hown
              simp only [result?, hlauncher, hservice, hdispatcher, ServicePhase.result?,
                DispatcherPhase.result?, Option.bind_eq_bind, Option.bind_some]
              rcases hclients with hnone | hsome
              · exact .inl (by rw [hnone]; rfl)
              · refine .inr ?_
                rw [hsome, Option.bind_some, mapM_ok, conclude_report]
                rfl

/-- While the dispatcher waits for a notice, the service or the current process has a
step. -/
theorem exists_step_of_hearing (hlength : simulation.clients.length = simulation.settings.processes)
    (hlauncher : threads.launcher = .joining) {registration : Registration}
    (hdispatcher : threads.dispatcher = .hearing registration) :
    ∃ name, (threads.step? simulation audits name).isSome = true := by
  have hconversing := horderly.conversing
  have hadmitting := horderly.admitting
  rw [hdispatcher, hlauncher] at hconversing
  by_cases hnotices : threads.notices = []
  case neg =>
    refine ⟨.dispatcher, isSome_dispatch hlauncher ?_ fun _ => hnotices⟩
    rw [hdispatcher]
    rfl
  have hrunning : threads.service.isRunning = true :=
    horderly.hasSender_of_hearing hdispatcher hnotices
  by_cases hrequests : threads.service = .idle → threads.requests ≠ []
  case pos => exact ⟨.service, isSome_serve hrunning hrequests⟩
  obtain ⟨hidle, hrequests⟩ := Classical.not_imp.mp hrequests
  rw [not_not] at hrequests
  -- Nothing is on its way but the next message of the current process.
  have hlt : current < simulation.settings.processes :=
    Nat.lt_of_lt_of_le (hadmitting.lt_of_isBusy (by rw [hdispatcher]; rfl))
      hadmitting.enrolled_le_processes
  have hended : (threads.foreseen simulation current).isStopped = false := by
    apply hconversing.isStopped_of_afoot
    simp [afoot, hnotices, hidle]
  refine ⟨.client current, ?_⟩
  rw [step?, List.getElem?_eq_getElem (by rw [hlength]; exact hlt), Option.bind_some]
  apply isSome_speak
  case hrunning => exact hconversing.isRunning_current hlt hended
  case hwaiting =>
    intro hwaiting
    rcases hconversing.present rfl with ⟨-, -, hresumes⟩ | ⟨hbegun, -⟩
    · exact hresumes
    · rw [hwaiting] at hbegun
      exact absurd hbegun (by simp [ClientPhase.hasBegun])
  case hlistening =>
    intro hlistening
    rw [Option.isSome_iff_ne_none]
    intro hnone
    cases hphase : threads.clients current with
    | unborn | waiting | speaking | stopped => simp [hphase, ClientPhase.isListening] at hlistening
    | listening before references =>
        have hforeseen : threads.foreseen simulation current = .listening before references := by
          rw [foreseen, hphase, pending?, hnone, hidle]
          rfl
        have hopen := hconversing.requests_eq
        rw [hforeseen, hrequests] at hopen
        exact absurd hopen (by simp [openRequests])

/-- After the last notice the service and the processes still come to their ends. -/
theorem exists_step_of_dispatched
    (hlength : simulation.clients.length = simulation.settings.processes)
    (houtcomes : outcomes.length = simulation.settings.processes)
    (hlauncher : threads.launcher = .joining) {order : Except Failure (List Nat)}
    (hdispatcher : threads.dispatcher = .stopped order)
    (hnone : threads.result? simulation = none) :
    ∃ name, (threads.step? simulation audits name).isSome = true := by
  obtain ⟨hlast, -, -, hended⟩ := horderly.of_dispatched hlength houtcomes hlauncher hdispatcher
  have hstands := horderly.conversing.service
  cases hservice : threads.service with
  | idle =>
      rw [hservice] at hstands
      exact absurd hended (by rw [show threads.desk.service.allEnded = false from hstands]; simp)
  | replying | notifying =>
      refine ⟨.service, isSome_serve ?_ ?_⟩
      · rw [hservice]
        rfl
      · simp [hservice]
  | stopped memory =>
      simp only [result?, hlauncher, hservice, hdispatcher, ServicePhase.result?,
        DispatcherPhase.result?, Option.bind_eq_bind, Option.bind_some] at hnone
      have hmapM : (List.range simulation.clients.length).mapM
          (fun pid => (threads.clients pid).result?) = none := by
        rw [Option.bind_eq_none_iff] at hnone
        exact Option.eq_none_iff_forall_ne_some.mpr fun results hresults =>
          absurd (hnone results hresults) (by simp)
      obtain ⟨pid, hmem, hgoes⟩ := exists_none_of_mapM hmapM
      have hlt := List.mem_range.mp hmem
      obtain ⟨-, own, -, hforeseen⟩ := horderly.conversing.past pid (by omega)
      refine ⟨.client pid, ?_⟩
      rw [step?, List.getElem?_eq_getElem hlt, Option.bind_some]
      cases hphase : threads.clients pid with
      | unborn | waiting | speaking =>
          rw [foreseen, hphase] at hforeseen
          exact absurd hforeseen (by simp [ClientPhase.foresee])
      | stopped =>
          rw [hphase] at hgoes
          exact absurd hgoes (by simp [ClientPhase.result?])
      | listening before references =>
          -- The process has finished for the dispatcher, but has not read its last reply.
          apply isSome_speak
          case hrunning =>
            rw [hphase]
            rfl
          case hwaiting => simp [hphase]
          case hlistening =>
            intro _
            rw [Option.isSome_iff_ne_none]
            intro hreplies
            rw [foreseen, hphase, pending?, hreplies, hservice] at hforeseen
            exact absurd hforeseen (by simp [ClientPhase.foresee, ServicePhase.replyTo?])

/-- As long as there is no result, there is a step. -/
theorem exists_step (hlength : simulation.clients.length = simulation.settings.processes)
    (houtcomes : outcomes.length = simulation.settings.processes)
    (hnone : threads.result? simulation = none) :
    ∃ name, (threads.step? simulation audits name).isSome = true := by
  have hunfailed := horderly.unfailed
  cases hlauncher : threads.launcher with
  | registering | starting =>
      refine ⟨.launcher, isSome_launch ?_⟩
      rw [hlauncher]
      rfl
  | aborted failure => exact absurd hlauncher (hunfailed.launcher failure)
  | joining =>
      -- The dispatcher has a step of its own unless it waits for a notice or has ended.
      cases hdispatcher : threads.dispatcher with
      | enrolling | awaiting | resuming =>
          refine ⟨.dispatcher, isSome_dispatch hlauncher ?_ ?_⟩
          · rw [hdispatcher]
            rfl
          · simp [hdispatcher, DispatcherPhase.isHearing]
      | hearing registration => exact horderly.exists_step_of_hearing hlength hlauncher hdispatcher
      | stopped order =>
          exact horderly.exists_step_of_dispatched hlength houtcomes hlauncher hdispatcher hnone

/-- While the dispatcher enrols processes none is running, so every step is progress. -/
theorem work_lt (hstep : threads.Steps simulation audits next) :
    next.work simulation < threads.work simulation := by
  obtain ⟨name, hstep⟩ := hstep
  refine step_work_lt (fun hdispatcher => ?_) hstep
  have hrunning := horderly.admitting.table.running_eq
  rw [hdispatcher] at hrunning
  exact hrunning

/-- As long as there is no result, the threads go on. -/
theorem progress (hlength : simulation.clients.length = simulation.settings.processes)
    (houtcomes : outcomes.length = simulation.settings.processes) :
    (threads.result? simulation).isSome = true ∨
      ∃ next, threads.Steps simulation audits next ∧ next ≠ threads := by
  rcases horderly.result?_cases hlength houtcomes with hnone | hsome
  · obtain ⟨name, hstep⟩ := horderly.exists_step hlength houtcomes hnone
    obtain ⟨next, hnext⟩ := Option.isSome_iff_exists.mp hstep
    refine .inr ⟨next, ⟨name, hnext⟩, ?_⟩
    rintro rfl
    exact Nat.lt_irrefl _ (horderly.work_lt ⟨name, hnext⟩)
  · exact .inl (by rw [hsome]; rfl)

end Orderly

namespace Reachable

variable {service : PageService}

theorem trans (hreachable : Reachable simulation audits service threads)
    (hsteps : Relation.ReflTransGen (Steps simulation audits) threads next) :
    Reachable simulation audits service next := by
  induction hsteps with
  | refl => exact hreachable
  | tail _ hstep ih =>
      obtain ⟨name, hstep⟩ := hstep
      exact ih.step name hstep

variable (hlength : simulation.clients.length = simulation.settings.processes)
  (hnumbered : Numbered 0 simulation.clients)
  (hworking : service.Working simulation.settings.processes 0)
  (hperforms : Performs ⟨service, #[]⟩ simulation.clients final outcomes)

include hlength hnumbered hworking hperforms

theorem orderly (hreachable : Reachable simulation audits service threads) :
    ∃ current enrolled, threads.Orderly simulation final outcomes current enrolled := by
  have houtcomes : outcomes.length = simulation.settings.processes :=
    hperforms.length_eq.trans hlength
  induction hreachable with
  | start => exact ⟨0, 0, Orderly.start hworking hperforms⟩
  | step name _ hstep ih =>
      obtain ⟨current, enrolled, horderly⟩ := ih
      exact horderly.step hlength hnumbered houtcomes hstep

/-- No run goes on without end, since the work that is left grows less with each step. -/
theorem ends (hreachable : Reachable simulation audits service threads) :
    Acc (fun next earlier => Steps simulation audits earlier next) threads := by
  induction hwork : threads.work simulation using Nat.strong_induction_on
    generalizing threads with
  | _ work ih =>
      subst hwork
      refine .intro _ fun next hstep => ?_
      obtain ⟨current, enrolled, horderly⟩ :=
        hreachable.orderly hlength hnumbered hworking hperforms
      exact ih _ (horderly.work_lt hstep) (hreachable.trans (.single hstep)) rfl

/-- The threads come to the report of the run without threads. -/
theorem completes (hreachable : Reachable simulation audits service threads) :
    ∃ last, Relation.ReflTransGen (Steps simulation audits) threads last ∧
      last.result? simulation = some (.ok (simulation.reportOf final.service outcomes)) := by
  have houtcomes : outcomes.length = simulation.settings.processes :=
    hperforms.length_eq.trans hlength
  induction hreachable.ends hlength hnumbered hworking hperforms with
  | intro threads _ ih =>
      obtain ⟨current, enrolled, horderly⟩ :=
        hreachable.orderly hlength hnumbered hworking hperforms
      rcases horderly.progress hlength houtcomes with hended | ⟨next, hstep, -⟩
      · refine ⟨threads, .refl, (horderly.result?_cases hlength houtcomes).resolve_left ?_⟩
        exact Option.isSome_iff_ne_none.mp hended
      · obtain ⟨last, hsteps, hlast⟩ := ih next hstep (hreachable.trans (.single hstep))
        exact ⟨last, .head hstep hsteps, hlast⟩

end Reachable

end Threads

/-- What holds of the threads if the run without threads serves these requests one
after another and makes this report. -/
structure Threads.Follows (simulation : Simulation) (audits : Bool)
    (requests : List (Nat × Request)) (report : Report) (threads : Threads) : Prop where
  unfailed : threads.Unfailed
  /-- The simulation has its result, or some thread goes on. -/
  progress : (threads.result? simulation).isSome = true ∨
    ∃ next, threads.Steps simulation audits next ∧ next ≠ threads
  /-- No run goes on from here without end. -/
  ends : Acc (fun next earlier => Threads.Steps simulation audits earlier next) threads
  completes : ∃ last, Relation.ReflTransGen (Threads.Steps simulation audits) threads last ∧
    last.result? simulation = some (.ok report)
  requests_initial : threads.desk.requests <+: requests
  result_eq : ∀ result, threads.result? simulation = some result → result = .ok report

/-- Served one after another, the streams of the clients get their outcomes for
replies. The run without threads makes its report of them, and the threads follow
this run in every state that they can reach, on and on until they have its report. -/
theorem Simulation.every_interleaving_is_sequential (settings : Settings) (clients : List Client)
    {simulation : Simulation} {start : PageService}
    (hof : Simulation.of settings clients = .ok simulation)
    (hstart : PageService.fresh settings = .ok start) (audits : Bool) :
    ∃ outcomes last served,
      List.Forall₂ (fun client own => EndsAfter client.references own) clients outcomes ∧
      start.serveAll (streams clients outcomes) = .ok (last, served) ∧
      served.map (·.reply.outcome) = (outcomes.map (· ++ [.endOfStream])).flatten ∧
      simulation.run = .ok (simulation.reportOf last outcomes) ∧
      (simulation.reportOf last outcomes).admissionOrder = List.range settings.processes ∧
      ∀ threads, Threads.Reachable simulation audits start threads →
        threads.Follows simulation audits (streams clients outcomes)
          (simulation.reportOf last outcomes) := by
  obtain ⟨rfl, hlength, hnumbered⟩ := Simulation.of_eq_ok hof
  have hworking := PageService.fresh_working hstart
  have hclients : 0 + clients.length = settings.processes := by rw [Nat.zero_add, hlength]
  have hdesk : (⟨start, #[]⟩ : Desk).service.Working settings.processes 0 := hworking
  obtain ⟨final, outcomes, hperforms, -⟩ := Performs.exists_of_working hdesk hnumbered hclients
  have houtcomes : outcomes.length = settings.processes := hperforms.length_eq.trans hlength
  have hrequests : final.requests = streams clients outcomes := hperforms.requests_eq
  obtain ⟨served, hserveAll, hreplies⟩ := hperforms.serveAll_eq
  refine ⟨outcomes, final.service, served, hperforms.endsAfter, hserveAll, hreplies,
    Simulation.run_eq_ok hstart hnumbered hlength hperforms, rfl, ?_⟩
  intro threads hreachable
  obtain ⟨current, enrolled, horderly⟩ := hreachable.orderly hlength hnumbered hworking hperforms
  have hresult := horderly.result?_cases hlength houtcomes
  constructor
  case unfailed => exact horderly.unfailed
  case progress => exact horderly.progress hlength houtcomes
  case ends => exact hreachable.ends hlength hnumbered hworking hperforms
  case completes => exact hreachable.completes hlength hnumbered hworking hperforms
  case requests_initial =>
    rw [← hrequests]
    exact horderly.requests_initial
  case result_eq =>
    intro result hsome
    rcases hresult with hnone | hok
    · rw [hnone] at hsome
      exact absurd hsome (by simp)
    · exact Option.some.inj (hsome.symm.trans hok)

/-- Two processes on one frame, the second with an illegal reference: whatever the order of
steps, the threads keep to the run that makes this report, and they come to it. -/
theorem Simulation.two_processes_are_sequential :
    ∃ simulation start report,
      Simulation.of { processes := 2, pages := 2, frames := 1, reclaims := true }
        [⟨0, 2, [0, 1, 0]⟩, ⟨1, 2, [1, 7, 0]⟩] = .ok simulation ∧
      PageService.fresh { processes := 2, pages := 2, frames := 1, reclaims := true } =
        .ok start ∧
      report = ⟨none, [0, 1],
        [⟨0, 2, [.frame 0, .frame 0, .frame 0], { faults := 3, evictions := 2 }⟩,
          ⟨1, 2, [.frame 0, .illegal], { faults := 1, illegal := 1 }⟩], [], 1, 4⟩ ∧
      simulation.run = .ok report ∧
      (∀ threads, Threads.Reachable simulation true start threads →
        ∃ requests, threads.Follows simulation true requests report) ∧
      ∃ last, Threads.Reachable simulation true start last ∧
        last.result? simulation = some (.ok report) := by
  obtain ⟨outcomes, last, -, -, -, -, hrun, -, hfollows⟩ := every_interleaving_is_sequential
    { processes := 2, pages := 2, frames := 1, reclaims := true }
    [⟨0, 2, [0, 1, 0]⟩, ⟨1, 2, [1, 7, 0]⟩] rfl rfl true
  obtain ⟨final, hsteps, hresult⟩ := (hfollows _ .start).completes
  exact ⟨_, _, _, rfl, rfl, Except.ok.inj (hrun.symm.trans (by decide +kernel)), hrun,
    fun threads hreachable => ⟨_, hfollows threads hreachable⟩, final,
    Threads.Reachable.start.trans hsteps, hresult⟩

end DemandPaging
