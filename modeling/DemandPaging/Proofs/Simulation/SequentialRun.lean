import DemandPaging.Proofs.Admission.FirstCome
import DemandPaging.Proofs.Admission.InOrder
import DemandPaging.Proofs.Simulation.Sequential

/-!
# The result of a run without threads

A simulation that is accepted, and whose service can be set up, runs to its end
without a failure. Its report is read off the service at the end and the outcomes
of the processes.
-/

namespace DemandPaging

variable {processes first : Nat} {clients : List Client} {rest : List (List Outcome)}
  {desk final : Desk}

/-- The end of every client is reported. -/
theorem Performs.ended_mem_notices (hperforms : Performs desk clients final rest)
    (hworking : desk.service.Working processes first) (hnumbered : Numbered first clients)
    (hlength : first + clients.length = processes) :
    ∀ client ∈ clients, ⟨client.pid, .ended⟩ ∈ final.notices := by
  induction hperforms generalizing first with
  | nil => simp
  | @cons desk middle final client clients outcomes rest htalks hrest ih =>
      rw [List.length_cons] at hlength
      have hpid : first < processes := by omega
      obtain rfl := hnumbered.head
      obtain ⟨quiet, hnotices, -⟩ := htalks.notices_eq hworking hpid
      intro other hother
      rcases List.mem_cons.mp hother with rfl | hother
      · refine (hrest.steps_initial.filterMap _).subset ?_
        show _ ∈ middle.notices
        simp [hnotices]
      · exact ih (htalks.working hworking hpid) hnumbered.tail (by omega) other hother

theorem registrations_eq (hnumbered : Numbered first clients) :
    (clients.map fun client => (⟨client.pid, client.pid⟩ : Registration)) =
      registrationsFrom first clients.length := by
  induction clients generalizing first with
  | nil => rfl
  | cons client clients ih =>
      obtain rfl := hnumbered.head
      rw [List.map_cons, ih hnumbered.tail, List.length_cons, registrationsFrom_succ]

/-- Processes that register in order, and end at some time, are admitted in order. -/
theorem dispatch_result_of_ended {notices : List Notice}
    (hended : ∀ pid, pid < processes → ⟨pid, .ended⟩ ∈ notices) (patience : Option Nat) :
    (dispatch (fun _ => true) processes (registrationsFrom 0 processes) notices).result? false
      patience = some (.ok (List.range processes)) := by
  have hpids : (registrationsFrom 0 processes).map (·.pid) = List.range processes := by
    simp [registrationsFrom, Function.comp_def, List.range_eq_range']
  have hends := dispatch_ends (fun _ => true) processes (registrationsFrom 0 processes) notices
  rw [firstRegistrations_of_nodup (hpids ▸ List.nodup_range)] at hends
  have hgoes : ∀ index, index < processes →
      failureAt? (fun _ => true) (registrationsFrom 0 processes) notices index = none := by
    intro index hindex
    refine failureAt?_eq_none_iff.mpr ⟨⟨index, index⟩, ?_, rfl, hended index hindex⟩
    simp [registrationsFrom, hindex]
  cases hends with
  | failed index failure hindex _ hfailure =>
      exact absurd (hfailure.symm.trans (hgoes index hindex)) (by simp)
  | completed _ _ hresult =>
      rw [hresult, List.map_take, hpids, List.take_of_length_le (by simp)]

namespace SimulationRun

/-- The reports of clients that all have their outcomes. -/
theorem mapM_clientReport (run : SimulationRun) (performances : List Performance)
    (hresults : performances.map (·.result) = rest.map .ok) :
    performances.mapM run.clientReport =
      .ok (List.zipWith (fun client outcomes => {
        pid := client.pid
        bound := client.bound
        outcomes
        counters := run.desk.service.pager.counters[client.pid]?.getD {} })
        (performances.map (·.client)) rest) := by
  induction performances generalizing rest with
  | nil => rfl
  | cons performance performances ih =>
      cases rest with
      | nil => exact absurd hresults (by simp)
      | cons outcomes rest =>
          obtain ⟨hresult, htail⟩ := List.cons.inj hresults
          have hreport : run.clientReport performance = .ok {
              pid := performance.client.pid
              bound := performance.client.bound
              outcomes
              counters :=
                run.desk.service.pager.counters[performance.client.pid]?.getD {} } := by
            simp only [clientReport, hresult, bind, Except.bind]
            rfl
          rw [List.mapM_cons, hreport, ih htail]
          rfl

end SimulationRun

namespace Simulation

variable {simulation : Simulation} {settings : Settings} {start : PageService}

/-- What a simulation that is accepted consists of. -/
theorem of_eq_ok (hof : of settings clients = .ok simulation) :
    simulation = { settings, clients } ∧ clients.length = settings.processes ∧
      Numbered 0 clients := by
  obtain ⟨-, -, hrest⟩ := exists_of_bind_eq_ok hof
  simp only [bind, Except.bind] at hrest
  split at hrest
  next => exact absurd hrest (by simp [throw, throwThe, MonadExceptOf.throw])
  next hlength =>
    split at hrest
    next => exact absurd hrest (by simp [throw, throwThe, MonadExceptOf.throw])
    next hnumbers =>
      refine ⟨(Except.ok.inj hrest).symm, not_not.mp hlength, ?_⟩
      intro index client hclient
      rw [List.find?_eq_none] at hnumbers
      have hmem : (client, index) ∈ clients.zipIdx :=
        List.mk_mem_zipIdx_iff_getElem?.mpr hclient
      simpa using hnumbers _ hmem

/-- All that is looked at before a simulation is accepted. -/
theorem of_numbered (hcheck : settings.check = .ok ())
    (hlength : clients.length = settings.processes) (hnumbered : Numbered 0 clients) :
    of settings clients = .ok { settings, clients } := by
  simp only [of, hcheck, bind, Except.bind, hlength, ne_eq, not_true_eq_false, if_false]
  split
  next client index hfind =>
    have hclient := List.mk_mem_zipIdx_iff_getElem?.mp (List.mem_of_find?_eq_some hfind)
    have hpid := hnumbered index client hclient
    have hother := List.find?_some hfind
    exact absurd hother (by simp [hpid])
  next => rfl

/-- The settings of a simulation that is accepted pass their check. -/
theorem check_of_eq_ok (hof : of settings clients = .ok simulation) :
    settings.check = .ok () := by
  obtain ⟨⟨⟩, hcheck, -⟩ := exists_of_bind_eq_ok hof
  exact hcheck

/-- A service brings all conversations of a simulation that is accepted to their ends. -/
theorem exists_performs (hof : of settings clients = .ok simulation)
    (hstart : PageService.fresh settings = .ok start) :
    ∃ final outcomes, Performs ⟨start, #[]⟩ clients final outcomes := by
  obtain ⟨-, hlength, hnumbered⟩ := of_eq_ok hof
  have hworking : (⟨start, #[]⟩ : Desk).service.Working settings.processes 0 :=
    PageService.fresh_working hstart
  obtain ⟨final, outcomes, hperforms, -⟩ :=
    Performs.exists_of_working hworking hnumbered (by rw [Nat.zero_add, hlength])
  exact ⟨final, outcomes, hperforms⟩

/-- The report of a simulation whose clients have these outcomes. -/
def reportOf (simulation : Simulation) (service : PageService) (outcomes : List (List Outcome)) :
    Report where
  seed := simulation.seed
  admissionOrder := List.range simulation.settings.processes
  clients := List.zipWith (fun client outcomes => {
    pid := client.pid
    bound := client.bound
    outcomes
    counters := service.pager.counters[client.pid]?.getD {} }) simulation.clients outcomes
  resident := service.pager.resident
  freeFrames := service.pager.pool.count
  clock := service.pager.clock

theorem run_eq_ok (hstart : PageService.fresh simulation.settings = .ok start)
    (hnumbered : Numbered 0 simulation.clients)
    (hlength : simulation.clients.length = simulation.settings.processes)
    (hperforms : Performs ⟨start, #[]⟩ simulation.clients final rest) :
    simulation.run = .ok (simulation.reportOf final.service rest) := by
  obtain ⟨performances, hperform, hclients, hresults⟩ := hperforms.perform_eq
  have hended : ∀ pid, pid < simulation.settings.processes → ⟨pid, .ended⟩ ∈ final.notices := by
    intro pid hpid
    rw [← hlength] at hpid
    have hclient := hnumbered pid simulation.clients[pid] (List.getElem?_eq_getElem hpid)
    rw [Nat.zero_add] at hclient
    rw [← hclient]
    exact hperforms.ended_mem_notices (PageService.fresh_working hstart) hnumbered
      (by rw [Nat.zero_add, hlength]) _ (List.getElem_mem hpid)
  let run : SimulationRun :=
    { start, desk := final, performances
      dispatch := dispatch (fun _ => true) simulation.settings.processes
        (registrationsFrom 0 simulation.settings.processes) final.notices }
  have hplay : simulation.play = .ok run := by
    simp only [play, hstart, bind, Except.bind, hperform, registrations_eq hnumbered, hlength]
    rfl
  have horder : run.admissionOrder = .ok (List.range simulation.settings.processes) := by
    simp only [SimulationRun.admissionOrder, run, dispatch_result_of_ended hended]
    rfl
  have hreports := run.mapM_clientReport performances hresults
  rw [hclients] at hreports
  simp only [Simulation.run, hplay, bind, Except.bind, horder, run, hreports]
  rfl

end Simulation

end DemandPaging
