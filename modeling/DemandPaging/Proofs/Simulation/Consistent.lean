import DemandPaging.Proofs.Service.Tally
import DemandPaging.Proofs.Simulation.Acceptance

/-!
# Consistent reports

A run is recorded twice: the clients collect their outcomes, and the pager keeps counters, a
clock and its tables. A report brings both together, and they agree.
-/

namespace DemandPaging

/-- The outcomes of a process agree with its counters, and have the shape that a
conversation gives them. -/
structure ClientReport.Consistent (own : ClientReport) (frames : Nat) : Prop where
  isFrame_before_last : ∀ outcome ∈ own.outcomes.dropLast, outcome.isFrame = true
  endOfStream_notMem : .endOfStream ∉ own.outcomes
  frame_lt : ∀ frame, .frame frame ∈ own.outcomes → frame < frames
  frames_eq : own.outcomes.countP Outcome.isFrame = own.counters.hits + own.counters.faults
  illegal_eq : own.outcomes.count .illegal = own.counters.illegal
  starved_eq : own.outcomes.count .starved = own.counters.starved
  failed_le_one : own.counters.illegal + own.counters.starved ≤ 1

/-- The report of these clients agrees with itself. -/
structure Report.Consistent (report : Report) (settings : Settings) (clients : List Client) :
    Prop where
  pids_eq : report.clients.map (·.pid) = List.range settings.processes
  bounds_eq : report.clients.map (·.bound) = clients.map (·.bound)
  clients_consistent : ∀ own ∈ report.clients, own.Consistent settings.frames
  clock_eq : report.clock =
    (report.clients.map fun own => own.counters.hits + own.counters.faults).sum
  frames_eq : report.resident.length + report.freeFrames = settings.frames
  resident_pairwise : report.resident.Pairwise fun earlier later =>
    earlier.pid < later.pid ∨ earlier.pid = later.pid ∧ earlier.page < later.page
  nodup_resident_frames : (report.resident.map (·.frame)).Nodup
  faults_eq : settings.reclaims = false → ∀ own ∈ report.clients,
    report.resident.countP (·.pid == own.pid) + own.counters.evictions = own.counters.faults

/-! ## The shape of the outcomes -/

section Outcomes

variable {references : List Int} {outcomes : List Outcome}

theorem EndsAfter.isFrame_of_mem_dropLast (hends : EndsAfter references outcomes)
    (hnever : .endOfStream ∉ outcomes) :
    ∀ outcome ∈ outcomes.dropLast, outcome.isFrame = true := by
  induction outcomes generalizing references with
  | nil => simp
  | cons head outcomes ih =>
      cases references with
      | nil => exact hends.elim
      | cons page references =>
          obtain ⟨hhead, hnever⟩ := not_or.mp (mt List.mem_cons.mpr hnever)
          have hrest := hends.2
          cases outcomes with
          | nil => simp
          | cons next outcomes =>
              split at hrest
              next => exact absurd hrest (by simp)
              next hgoes =>
                rw [List.dropLast_cons_cons, List.forall_mem_cons]
                refine ⟨?_, ih hrest hnever⟩
                cases head with
                | frame => rfl
                | illegal => exact absurd (.inl rfl) hgoes
                | starved => exact absurd (.inr rfl) hgoes
                | endOfStream => exact absurd rfl hhead

/-- No process fails twice. -/
theorem count_failed_le_one (hframes : ∀ outcome ∈ outcomes.dropLast, outcome.isFrame = true) :
    outcomes.count .illegal + outcomes.count .starved ≤ 1 := by
  rcases List.eq_nil_or_concat' outcomes with rfl | ⟨init, last, rfl⟩
  · simp
  · rw [List.dropLast_concat] at hframes
    have hnever : ∀ outcome : Outcome, outcome.isFrame = false → init.count outcome = 0 := by
      intro outcome hfailed
      refine List.count_eq_zero_of_not_mem fun hmem => ?_
      exact absurd (hfailed.symm.trans (hframes outcome hmem)) (by simp)
    rw [List.count_append, List.count_append, hnever _ rfl, hnever _ rfl]
    cases last <;> simp

end Outcomes

theorem Talks.endOfStream_notMem {pid : Nat} {bound : Int} {desk final : Desk}
    {references : List Int} {outcomes : List Outcome}
    (htalks : Talks pid bound desk references final outcomes) : .endOfStream ∉ outcomes := by
  induction htalks with
  | last => exact List.not_mem_nil
  | more _ hserve _ ih =>
      rw [List.mem_cons, not_or]
      exact ⟨(PageService.serves_of_eq_ok hserve).outcome_ne_endOfStream.symm, ih⟩

/-! ## What each client is told -/

namespace PageService

variable {service last : PageService} {pid : Nat} {requests : List (Nat × Request)}
  {answers : List Served}

theorem ServesAll.outcomesTo_eq (hserves : ServesAll service requests answers last)
    (hown : ∀ request ∈ requests, request.1 = pid) :
    outcomesTo pid answers = answers.map (·.reply.outcome) := by
  induction hserves with
  | nil => rfl
  | cons hserves _ ih =>
      obtain ⟨hhead, htail⟩ := List.forall_mem_cons.mp hown
      have hpid := hserves.reply_pid_eq.trans hhead
      rw [← List.singleton_append, outcomesTo_append, ih htail, List.map_append]
      simp [outcomesTo, hpid]

theorem ServesAll.outcomesTo_eq_nil (hserves : ServesAll service requests answers last)
    (hothers : ∀ request ∈ requests, request.1 ≠ pid) : outcomesTo pid answers = [] := by
  induction hserves with
  | nil => rfl
  | cons hserves _ ih =>
      obtain ⟨hhead, htail⟩ := List.forall_mem_cons.mp hothers
      have hpid : ¬_ = pid := hserves.reply_pid_eq ▸ hhead
      rw [← List.singleton_append, outcomesTo_append, ih htail]
      simp [outcomesTo, hpid]

end PageService

theorem Client.fst_eq_of_mem_stream {client : Client} {count : Nat} {request : Nat × Request}
    (hmem : request ∈ client.stream count) : request.1 = client.pid := by
  rcases List.mem_append.mp hmem with haccess | hend
  · obtain ⟨page, -, rfl⟩ := List.mem_map.mp haccess
    rfl
  · rw [List.mem_singleton.mp hend]

theorem exists_mem_of_mem_streams {clients : List Client} {rest : List (List Outcome)}
    {request : Nat × Request} (hmem : request ∈ streams clients rest) :
    ∃ client ∈ clients, request.1 = client.pid := by
  obtain ⟨stream, hstream, hrequest⟩ := List.mem_flatten.mp hmem
  rw [← List.map_uncurry_zip_eq_zipWith] at hstream
  obtain ⟨⟨client, outcomes⟩, hpair, rfl⟩ := List.mem_map.mp hstream
  exact ⟨client, (List.of_mem_zip hpair).1, client.fst_eq_of_mem_stream hrequest⟩

/-- A client with these outcomes is told them, and then that its end is acknowledged. -/
structure Client.Told (client : Client) (answers : List Served) (own : List Outcome) : Prop where
  outcomesTo_eq : PageService.outcomesTo client.pid answers = own ++ [.endOfStream]
  endOfStream_notMem : .endOfStream ∉ own
  endsAfter : EndsAfter client.references own

theorem Performs.exists_servesAll {first : Nat} {desk final : Desk} {clients : List Client}
    {rest : List (List Outcome)} (hperforms : Performs desk clients final rest)
    (hsound : desk.service.Sound) (hnumbered : Numbered first clients) :
    ∃ answers, desk.service.ServesAll (streams clients rest) answers final.service ∧
      ∀ (index : Nat) (client : Client) (own : List Outcome), clients[index]? = some client →
        rest[index]? = some own → client.Told answers own := by
  induction hperforms generalizing first with
  | nil => exact ⟨[], .nil, by simp⟩
  | @cons desk middle final client clients outcomes rest htalks hrest ih =>
      obtain rfl := hnumbered.head
      obtain ⟨served, hserveAll, hreplies⟩ := htalks.serveAll_eq
      have hserves := hsound.servesAll hserveAll
      obtain ⟨answers, hlater, hclients⟩ := ih (hserves.sound hsound).1 hnumbered.tail
      refine ⟨served ++ answers, hserves.append hlater, ?_⟩
      intro index other own hother hown
      cases index with
      | zero =>
          obtain rfl := Option.some.inj hother
          obtain rfl := Option.some.inj hown
          refine ⟨?_, htalks.endOfStream_notMem, htalks.endsAfter⟩
          rw [PageService.outcomesTo_append,
            hserves.outcomesTo_eq fun request hmem => Client.fst_eq_of_mem_stream hmem, hreplies,
            hlater.outcomesTo_eq_nil, List.append_nil]
          intro request hmem heq
          obtain ⟨later, hlaterMem, hpid⟩ := exists_mem_of_mem_streams hmem
          have hge := hnumbered.tail.pid_ge hlaterMem
          omega
      | succ index =>
          have htold := hclients index other own hother hown
          have hge := hnumbered.tail.pid_ge (List.mem_of_getElem? hother)
          refine ⟨?_, htold.endOfStream_notMem, htold.endsAfter⟩
          rw [PageService.outcomesTo_append, htold.outcomesTo_eq, hserves.outcomesTo_eq_nil,
            List.nil_append]
          intro request hmem heq
          have hpid : request.1 = client.pid := Client.fst_eq_of_mem_stream hmem
          omega

/-! ## The report -/

/-- The counters that start at zero are those of the outcomes. -/
theorem Client.Told.consistent {client : Client} {answers : List Served} {own : List Outcome}
    (htold : client.Told answers own) {requests : List (Nat × Request)}
    {start last : PageService} (hserves : start.ServesAll requests answers last)
    (hsound : start.Sound) (hpid : client.pid < start.processes)
    (hblank : start.pager.countersOf client.pid = {}) :
    (⟨client.pid, client.bound, own, last.pager.countersOf client.pid⟩ : ClientReport).Consistent
      start.pager.pool.total := by
  have htallies := hserves.tallies hsound client.pid
  have hshape := htold.endsAfter.isFrame_of_mem_dropLast htold.endOfStream_notMem
  have hresolved : (last.pager.countersOf client.pid).resolved = own.countP Outcome.isFrame := by
    rw [htallies.resolved_eq, hblank, htold.outcomesTo_eq]
    simp [Counters.resolved, Outcome.isFrame]
  have hillegal : (last.pager.countersOf client.pid).illegal = own.count .illegal := by
    rw [htallies.illegal_eq hpid, hblank, htold.outcomesTo_eq]
    simp
  have hstarved : (last.pager.countersOf client.pid).starved = own.count .starved := by
    rw [htallies.starved_eq, hblank, htold.outcomesTo_eq]
    simp
  refine ⟨hshape, htold.endOfStream_notMem, ?_, hresolved.symm, hillegal.symm, hstarved.symm, ?_⟩
  · intro frame hmem
    have hframe : .frame frame ∈ PageService.outcomesTo client.pid answers := by
      rw [htold.outcomesTo_eq]
      exact List.mem_append_left _ hmem
    exact hserves.frame_lt hsound hframe
  · show (last.pager.countersOf client.pid).illegal + (last.pager.countersOf client.pid).starved ≤ 1
    rw [hillegal, hstarved]
    exact count_failed_le_one hshape

namespace Simulation

variable {settings : Settings} {clients : List Client} {simulation : Simulation}

/-- The entries of a report, each from a client and its outcomes. -/
theorem exists_of_mem_reportOf {service : PageService} {outcomes : List (List Outcome)}
    {own : ClientReport} (hmem : own ∈ (simulation.reportOf service outcomes).clients) :
    ∃ (index : Nat) (client : Client) (told : List Outcome),
      simulation.clients[index]? = some client ∧ outcomes[index]? = some told ∧
        own = ⟨client.pid, client.bound, told, service.pager.countersOf client.pid⟩ := by
  obtain ⟨index, hindex⟩ := List.mem_iff_getElem?.mp hmem
  obtain ⟨client, told, hclient, htold, rfl⟩ := List.getElem?_zipWith_eq_some.mp hindex
  exact ⟨index, client, told, hclient, htold, rfl⟩

/-- The entries of a report come in the order of the processes. -/
theorem map_reportOf_clients {α : Type} (simulation : Simulation) (service : PageService)
    {outcomes : List (List Outcome)}
    (hnumbered : Numbered 0 simulation.clients)
    (hlength : simulation.clients.length = simulation.settings.processes)
    (houtcomes : outcomes.length = simulation.clients.length) (read : Nat → Counters → α) :
    ((simulation.reportOf service outcomes).clients.map fun own => read own.pid own.counters) =
      (List.range simulation.settings.processes).map fun pid =>
        read pid (service.pager.countersOf pid) := by
  refine List.ext_getElem (by simp [reportOf, houtcomes, hlength]) fun index hindex hrange => ?_
  rw [List.length_map, List.length_range] at hrange
  have hpid := hnumbered index simulation.clients[index]
    (List.getElem?_eq_getElem (hlength.symm ▸ hrange))
  rw [Nat.zero_add] at hpid
  simp [reportOf, hpid, Pager.countersOf]

/-- A simulation runs to its end only if its service can be set up, and then its report
is read off that service after the requests of the clients. -/
theorem exists_servesAll_of_run (hof : of settings clients = .ok simulation) {report : Report}
    (hrun : simulation.run = .ok report) :
    ∃ start last answers rest, PageService.fresh settings = .ok start ∧
      start.ServesAll (streams clients rest) answers last ∧ rest.length = clients.length ∧
      (∀ (index : Nat) (client : Client) (own : List Outcome), clients[index]? = some client →
        rest[index]? = some own → client.Told answers own) ∧
      report = simulation.reportOf last rest := by
  obtain ⟨rfl, hlength, hnumbered⟩ := of_eq_ok hof
  obtain ⟨start, hstart⟩ := exists_fresh_of_run hrun
  obtain ⟨final, rest, hperforms⟩ := exists_performs hof hstart
  rw [run_eq_ok hstart hnumbered hlength hperforms] at hrun
  obtain ⟨answers, hserves, htold⟩ :=
    hperforms.exists_servesAll (PageService.fresh_sound hstart).1 hnumbered
  exact ⟨start, final.service, answers, rest, hstart, hserves, hperforms.length_eq, htold,
    (Except.ok.inj hrun).symm⟩

/-- A simulation that runs to its end gives a report in which everything agrees. -/
theorem run_consistent (hof : of settings clients = .ok simulation) {report : Report}
    (hrun : simulation.run = .ok report) : report.Consistent settings clients := by
  obtain ⟨start, last, answers, rest, hstart, hserves, hcount, htold, rfl⟩ :=
    exists_servesAll_of_run hof hrun
  obtain ⟨rfl, hlength, hnumbered⟩ := of_eq_ok hof
  obtain ⟨hpager, -⟩ := PageService.fresh_eq_ok hstart
  obtain ⟨hsound, hprocesses, hreclaims, -⟩ := PageService.fresh_sound hstart
  obtain ⟨hlast, hshape⟩ := hserves.sound hsound
  obtain ⟨released, hledger, hkept⟩ := hserves.ledger hsound (Pager.fresh_ledger hpager)
  have htotal : start.pager.pool.total = settings.frames := (Pager.fresh_eq_ok hpager).2.2.1
  refine ⟨?_, ?_, ?_, ?_, ?_, Pager.Coherent.resident_pairwise _,
    hlast.coherent.nodup_resident_frames, ?_⟩
  · have hpids := map_reportOf_clients { settings, clients } last hnumbered hlength hcount
      fun pid _ => pid
    simpa using hpids
  · exact List.ext_getElem (by simp [reportOf, hcount]) fun index _ _ => by simp [reportOf]
  · intro own hmem
    obtain ⟨index, client, told, hclient, hown, rfl⟩ := exists_of_mem_reportOf hmem
    have hindex := (List.getElem?_eq_some_iff.mp hclient).1
    have hpid : client.pid < start.processes := by
      rw [hnumbered index client hclient, hprocesses, ← hlength, Nat.zero_add]
      exact hindex
    rw [← htotal]
    exact (htold index client told hclient hown).consistent hserves hsound hpid
      (Pager.countersOf_of_fresh hpager _)
  · have hsum := map_reportOf_clients { settings, clients } last hnumbered hlength hcount
      fun _ counters => counters.resolved
    show last.pager.clock = (((reportOf { settings, clients } last rest).clients.map
      fun own => own.counters.resolved).sum)
    have hknown : last.pager.processes = settings.processes :=
      hshape.processes_eq.trans hprocesses
    rw [hsum, hledger.clock_eq, hknown]
    rfl
  · rw [← htotal, ← hshape.frames_eq]
    exact hlast.coherent.conserved.count_eq
  · intro hkeeps own hmem
    obtain ⟨index, client, told, -, -, rfl⟩ := exists_of_mem_reportOf hmem
    have hfaults := hledger.faults_eq client.pid
    rw [hkept (hreclaims.trans hkeeps), ← Pager.countP_resident hlast.coherent] at hfaults
    exact hfaults.symm

/-- The first of three processes has both frames and evicts, the second one starves, and the
third one goes astray. -/
theorem run_consistent_for_three_processes :
    ∃ simulation report,
      Simulation.of { processes := 3, pages := 3, frames := 2 }
        [⟨0, 3, [0, 1, 0, 2, -9, 1]⟩, ⟨1, 2, [0, 1]⟩, ⟨2, 1, [1, 0]⟩] = .ok simulation ∧
      simulation.run = .ok report ∧
      report.Consistent { processes := 3, pages := 3, frames := 2 }
        [⟨0, 3, [0, 1, 0, 2, -9, 1]⟩, ⟨1, 2, [0, 1]⟩, ⟨2, 1, [1, 0]⟩] := by
  obtain ⟨simulation, start, hof, hstart⟩ : ∃ simulation start,
      Simulation.of { processes := 3, pages := 3, frames := 2 }
        [⟨0, 3, [0, 1, 0, 2, -9, 1]⟩, ⟨1, 2, [0, 1]⟩, ⟨2, 1, [1, 0]⟩] = .ok simulation ∧
      PageService.fresh { processes := 3, pages := 3, frames := 2 } = .ok start :=
    ⟨_, _, rfl, rfl⟩
  have hrun := run_eq_listReport hof hstart (by decide)
  exact ⟨simulation, _, hof, hrun, run_consistent hof hrun⟩

end Simulation

end DemandPaging
