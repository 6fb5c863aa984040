import Mathlib.Data.List.TakeWhile
import DemandPaging.Proofs.Client.Generation
import DemandPaging.Proofs.Simulation.Consistent
import DemandPaging.Proofs.Simulation.FramesLeft

/-!
# Generated simulations

The bound that a process draws lies in its page table, so the service finds the same of its
references legal as the generator had meant to be. At a rate of zero it finds all of them
legal, and at a rate of one none.
-/

namespace DemandPaging

/-! ## Generated references at the service -/

/-- Nothing cuts off a client with legal references only. -/
theorem Client.cutOff_eq_nil {client : Client} {pages : Nat}
    (hall : client.legalReferences pages = client.references) : client.cutOff pages = [] := by
  rw [cutOff, hall, List.getElem?_eq_none (Nat.le_refl _)]

namespace Client.Drawn

variable {client : Client} {pages count : Nat} {rate : Binary64}

/-- A bound can only be drawn from a table whose length is a signed word. -/
theorem pages_lt (hdrawn : client.Drawn pages count rate) (hpages : pages < wordCount) :
    pages < halfWordCount := by
  have hone := Int.le_trans hdrawn.one_le_bound hdrawn.bound_le
  by_contra hlarge
  simp only [pageSpan, signedWord, Int.bmod, wordCount, halfWordCount] at *
  omega

theorem bound_le_pages (hdrawn : client.Drawn pages count rate) (hpos : 0 < pages)
    (hpages : pages < halfWordCount) : client.bound ≤ pages := by
  have hle := hdrawn.bound_le
  rwa [pageSpan, Nat.max_eq_left hpos, signedWord_of_lt hpages] at hle

/-- At a rate of zero every reference is legal. -/
theorem legalReferences_eq (hdrawn : client.Drawn pages count rate) (hpos : 0 < pages)
    (hpages : pages < halfWordCount) (hrate : Binary64.zero.lt rate = false) :
    client.legalReferences pages = client.references := by
  have hle := hdrawn.bound_le_pages hpos hpages
  have hmarker : client.references.takeWhile (· != endMarker) = client.references := by
    rw [List.takeWhile_eq_self_iff]
    intro page hmem
    simpa using ne_of_mem_of_not_mem hmem hdrawn.endMarker_notMem
  rw [legalReferences, hmarker, List.takeWhile_eq_self_iff]
  intro page hmem
  rcases hdrawn.canDraw page hmem with ⟨-, hpage⟩ | ⟨hpositive, -⟩
  · exact isWithin_iff.mpr ⟨hpage.1, by omega⟩
  · exact absurd (hrate.symm.trans hpositive) (by simp)

/-- At a rate of one no reference is legal. -/
theorem legalReferences_eq_nil (hdrawn : client.Drawn pages count rate)
    (hrate : Binary64.one.le rate = true) : client.legalReferences pages = [] := by
  obtain ⟨pid, bound, references⟩ := client
  cases references with
  | nil => rfl
  | cons page references =>
      refine legalReferences_cons_of_illegal (Bool.eq_false_iff.mpr fun hlegal => ?_)
      have hwithin := isWithin_iff.mp hlegal
      rcases hdrawn.canDraw page List.mem_cons_self with ⟨hbelow, -⟩ | ⟨-, hpage, -⟩
      · exact absurd (hbelow.symm.trans hrate) (by simp)
      · simp only at hpage
        omega

theorem cutOff_eq (hdrawn : client.Drawn pages count rate)
    (hnil : client.legalReferences pages = []) :
    client.cutOff pages = if count = 0 then [] else [.illegal] := by
  have hlength := hdrawn.length_eq
  have hmarker := hdrawn.endMarker_notMem
  rw [cutOff, hnil]
  cases hreferences : client.references with
  | nil =>
      rw [hreferences] at hlength
      rw [← hlength]
      rfl
  | cons page references =>
      rw [hreferences] at hlength hmarker
      rw [if_neg (by rw [← hlength]; simp)]
      have hpage : page ≠ endMarker := fun heq => hmarker (heq ▸ List.mem_cons_self)
      simp [hpage]

end Client.Drawn

/-! ## Clients that come and go -/

namespace ListPager

variable {first index : Nat} {clients : List Client} {client : Client}

/-- Whether a client leaves its frames behind makes no difference to its outcomes, and if it
does, as many frames are free as before. -/
theorem visit_reclaims_fares (lists : ListPager) (reclaims : Bool) (client : Client)
    (hpid : client.pid < lists.processes) (hnil : lists.recent client.pid = []) :
    client.Fares lists.pages lists.free.length
        ((lists.visit reclaims client).2.map Resolution.outcome) ∧
      (reclaims = true → (lists.visit reclaims client).1.free.length = lists.free.length) := by
  obtain ⟨hfares, hkeeps, -⟩ := visit_fares lists client hpid hnil
  cases reclaims with
  | false => exact ⟨hfares, by simp⟩
  | true =>
      refine ⟨hfares, fun _ => ?_⟩
      have hreach := hkeeps.reach_eq
      rw [pagesOf, List.length_map] at hreach
      show ((lists.visit false client).1.evacuate client.pid).1.free.length = lists.free.length
      rw [evacuate, List.length_append, List.length_map, List.length_mergeSort]
      exact hreach

/-- Clients fare by the number of frames in their reach. Only after earlier clients that
kept their frames a client may find none, unless none was free from the start. -/
theorem visits_fares (lists : ListPager) (reclaims : Bool) (hnumbered : Numbered first clients)
    (hlength : first + clients.length ≤ lists.processes)
    (hnil : ∀ pid, first ≤ pid → lists.recent pid = []) (hclient : clients[index]? = some client) :
    ∃ own reach, (lists.visits reclaims clients).2[index]? = some own ∧
      client.Fares lists.pages reach (own.map Resolution.outcome) ∧
      (reach = 0 → lists.free.length = 0 ∨ reclaims = false ∧ 0 < index) := by
  induction clients generalizing first index lists with
  | nil => exact absurd hclient (by simp)
  | cons head clients ih =>
      rw [List.length_cons] at hlength
      obtain rfl := hnumbered.head
      have hsame := sameBut_visit lists reclaims head
      obtain ⟨hfares, hback⟩ :=
        visit_reclaims_fares lists reclaims head (by omega) (hnil _ (Nat.le_refl _))
      cases index with
      | zero =>
          obtain rfl := Option.some.inj hclient
          exact ⟨_, lists.free.length, rfl, hfares, .inl⟩
      | succ index =>
          obtain ⟨own, reach, hown, hlater, hempty⟩ := ih (lists.visit reclaims head).1
            hnumbered.tail (by rw [hsame.processes_eq]; omega)
            (fun pid hpid => (hsame.recent_eq pid (by omega)).trans (hnil pid (by omega))) hclient
          rw [hsame.pages_eq] at hlater
          refine ⟨own, reach, hown, hlater, fun hreach => ?_⟩
          cases reclaims with
          | false => exact .inr ⟨rfl, Nat.succ_pos index⟩
          | true =>
              rcases hempty hreach with hnone | ⟨hkeeps, -⟩
              · exact .inl ((hback rfl).symm.trans hnone)
              · exact absurd hkeeps (by simp)

/-- Clients without a legal reference change nothing but the counters. -/
theorem visits_of_legalReferences_nil (lists : ListPager) (reclaims : Bool)
    (hpid : ∀ client ∈ clients, client.pid < lists.processes)
    (hnil : ∀ pid, lists.recent pid = [])
    (hillegal : ∀ client ∈ clients, client.legalReferences lists.pages = []) :
    ∃ counters, (lists.visits reclaims clients).1 = { lists with counters } := by
  induction clients generalizing lists with
  | nil => exact ⟨lists.counters, rfl⟩
  | cons client clients ih =>
      obtain ⟨hhead, htail⟩ := List.forall_mem_cons.mp hpid
      obtain ⟨hheadNil, htailNil⟩ := List.forall_mem_cons.mp hillegal
      obtain ⟨counters, hnext, -⟩ := resolve_of_legalReferences_nil hhead hheadNil
      have hvisit : (lists.visit reclaims client).1 = { lists with counters } := by
        cases reclaims with
        | false => exact hnext
        | true =>
            show ((lists.resolve client.pid client.bound client.references).1.evacuate
              client.pid).1 = _
            rw [hnext, evacuate]
            simp [hnil, Function.update_eq_self_iff]
      obtain ⟨last, hlast⟩ := ih { lists with counters } htail hnil htailNil
      refine ⟨last, ?_⟩
      show ((lists.visit reclaims client).1.visits reclaims clients).1 = _
      rw [hvisit, hlast]

end ListPager

/-! ## The report of a generated simulation -/

/-- A process with references none of which is illegal: it gets a frame for each of them, or
starves because earlier processes have kept all frames. -/
structure ClientReport.AllLegal (own : ClientReport) (settings : Settings) : Prop where
  illegal_eq : own.counters.illegal = 0
  outcomes_eq :
    (∃ frames : List Nat, frames.length = settings.referenceCount ∧
      own.outcomes = frames.map .frame) ∨
    own.outcomes = [.starved] ∧ settings.reclaims = false ∧ 0 < own.pid

/-- Processes with references all of which are illegal: each of them gives up at its first
one, and the memory is as it was before. -/
structure Report.AllIllegal (report : Report) (settings : Settings) : Prop where
  outcomes_eq : ∀ own ∈ report.clients,
    own.outcomes = if settings.referenceCount = 0 then [] else [.illegal]
  clock_eq : report.clock = 0
  resident_eq : report.resident = []
  freeFrames_eq : report.freeFrames = settings.frames

namespace Simulation

variable {settings : Settings} {clients : List Client} {simulation : Simulation}
  {report : Report} {own : ClientReport} {seed : UInt64}

theorem random_eq_ok (hrandom : random settings seed = .ok simulation) :
    ∃ clients drawn, Client.generate settings seed = .ok clients ∧
      of settings clients = .ok drawn ∧ simulation = { drawn with seed := some seed.toNat } := by
  obtain ⟨-, -, hclients⟩ := exists_of_bind_eq_ok hrandom
  obtain ⟨clients, hgenerate, hdrawn⟩ := exists_of_bind_eq_ok hclients
  obtain ⟨drawn, hof, hresult⟩ := exists_of_bind_eq_ok hdrawn
  exact ⟨clients, drawn, eq_ok_of_mapError_eq_ok hgenerate, eq_ok_of_mapError_eq_ok hof,
    (Except.ok.inj hresult).symm⟩

/-- The seed is written in the report, and nothing else depends on it. -/
theorem run_reseed (simulation : Simulation) (seed : Option Nat) :
    ({ simulation with seed } : Simulation).run =
      simulation.run.map fun report => { report with seed } := by
  simp only [run, show ({ simulation with seed } : Simulation).play = simulation.play from rfl]
  cases simulation.play with
  | error failure => rfl
  | ok played =>
      simp only [bind, Except.bind]
      cases played.admissionOrder with
      | error failure => rfl
      | ok order =>
          simp only
          cases played.performances.mapM played.clientReport <;> rfl

theorem exists_of_mem_listReport (hmem : own ∈ simulation.listReport.clients) :
    ∃ (index : Nat) (client : Client) (resolutions : List Resolution),
      simulation.clients[index]? = some client ∧
        simulation.visits.2[index]? = some resolutions ∧
        own.pid = client.pid ∧ own.outcomes = resolutions.map Resolution.outcome := by
  obtain ⟨index, hindex⟩ := List.mem_iff_getElem?.mp hmem
  obtain ⟨client, resolutions, hclient, hresolutions, rfl⟩ :=
    List.getElem?_zipWith_eq_some.mp hindex
  exact ⟨index, client, resolutions, hclient, hresolutions, rfl, rfl⟩

/-- The outcomes of a process show how many of its references were counted as illegal. -/
theorem count_illegal_of_run (hof : of settings clients = .ok simulation)
    (hrun : simulation.run = .ok report) (hmem : own ∈ report.clients) :
    own.outcomes.count .illegal = own.counters.illegal := by
  obtain ⟨start, last, answers, rest, hstart, hserves, -, htold, rfl⟩ :=
    exists_servesAll_of_run hof hrun
  obtain ⟨rfl, hlength, hnumbered⟩ := of_eq_ok hof
  obtain ⟨hpager, -⟩ := PageService.fresh_eq_ok hstart
  obtain ⟨hsound, hprocesses, -, -⟩ := PageService.fresh_sound hstart
  obtain ⟨index, client, told, hclient, hown, rfl⟩ := exists_of_mem_reportOf hmem
  have hpid : client.pid < start.processes := by
    rw [hprocesses, ← hlength]
    simpa using hnumbered.pid_lt (List.mem_of_getElem? hclient)
  exact ((htold index client told hclient hown).consistent hserves hsound hpid
    (Pager.countersOf_of_fresh hpager _)).illegal_eq

theorem pids_of_run (hof : of settings clients = .ok simulation)
    (hrun : simulation.run = .ok report) :
    report.clients.map (·.pid) = List.range settings.processes := by
  obtain ⟨start, last, answers, rest, hstart, hserves, hcount, -, rfl⟩ :=
    exists_servesAll_of_run hof hrun
  obtain ⟨rfl, hlength, hnumbered⟩ := of_eq_ok hof
  simpa using map_reportOf_clients { settings, clients } last hnumbered hlength hcount
    fun pid _ => pid

/-- Each entry is the one of a client, which finds no frame in its reach only if earlier
clients have kept them all. -/
theorem exists_fares_of_mem (hof : of settings clients = .ok simulation)
    (hmem : own ∈ simulation.listReport.clients) :
    ∃ client ∈ clients, ∃ reach, own.pid = client.pid ∧
      client.Fares settings.pages reach own.outcomes ∧
      (reach = 0 → settings.reclaims = false ∧ 0 < own.pid) := by
  have hframes := (Settings.check_eq_ok_iff.mp (check_of_eq_ok hof)).2.2.1
  obtain ⟨rfl, hlength, hnumbered⟩ := of_eq_ok hof
  obtain ⟨index, client, resolutions, hclient, hresolutions, hpid, houtcomes⟩ :=
    exists_of_mem_listReport hmem
  have hindex : client.pid = index := by rw [hnumbered index client hclient, Nat.zero_add]
  obtain ⟨own, reach, hown, hfares, hempty⟩ := ListPager.visits_fares
    (ListPager.fresh settings.processes settings.pages settings.frames) settings.reclaims
    hnumbered (by rw [hlength]; exact (Nat.zero_add _).le) (fun _ _ => rfl) hclient
  obtain rfl : own = resolutions := Option.some.inj (hown.symm.trans hresolutions)
  refine ⟨client, List.mem_of_getElem? hclient, reach, hpid, houtcomes ▸ hfares, fun hreach => ?_⟩
  rcases hempty hreach with hnone | hkept
  · have hfree : (List.range settings.frames).length = 0 := hnone
    rw [List.length_range] at hfree
    omega
  · rwa [hpid, hindex]

theorem allLegal_of_run (hof : of settings clients = .ok simulation)
    (hrun : simulation.run = .ok simulation.listReport)
    (hcount : ∀ client ∈ clients, client.references.length = settings.referenceCount)
    (hall : ∀ client ∈ clients, client.legalReferences settings.pages = client.references)
    (hmem : own ∈ simulation.listReport.clients) : own.AllLegal settings := by
  have hillegal := count_illegal_of_run hof hrun hmem
  obtain ⟨client, hclient, reach, -, hfares, hempty⟩ := exists_fares_of_mem hof hmem
  unfold Client.Fares at hfares
  split at hfares
  next hstarves =>
    refine ⟨?_, .inr ⟨hfares, hempty hstarves.1⟩⟩
    rw [← hillegal, hfares]
    rfl
  next =>
    obtain ⟨frames, hframes, houtcomes⟩ := hfares
    rw [Client.cutOff_eq_nil (hall client hclient), List.append_nil] at houtcomes
    refine ⟨?_, .inl ⟨frames, ?_, houtcomes⟩⟩
    · rw [← hillegal, houtcomes]
      exact List.count_eq_zero_of_not_mem (by simp)
    · rw [hframes, hall client hclient, hcount client hclient]

theorem allIllegal_of_run (hof : of settings clients = .ok simulation)
    (hcutOff : ∀ client ∈ clients, client.cutOff settings.pages =
      if settings.referenceCount = 0 then [] else [.illegal])
    (hnil : ∀ client ∈ clients, client.legalReferences settings.pages = []) :
    simulation.listReport.AllIllegal settings := by
  have houtcomes : ∀ own ∈ simulation.listReport.clients,
      own.outcomes = if settings.referenceCount = 0 then [] else [.illegal] := by
    intro own hmem
    obtain ⟨client, hclient, reach, -, hfares, -⟩ := exists_fares_of_mem hof hmem
    rw [Client.Fares, hnil client hclient, if_neg (by simp)] at hfares
    obtain ⟨frames, hframes, heq⟩ := hfares
    rw [heq, List.length_eq_zero_iff.mp hframes, hcutOff client hclient]
    rfl
  obtain ⟨rfl, hlength, hnumbered⟩ := of_eq_ok hof
  have hknown : ∀ client ∈ clients, client.pid < settings.processes := by
    intro client hclient
    simpa [hlength] using hnumbered.pid_lt hclient
  obtain ⟨counters, hvisits⟩ := ListPager.visits_of_legalReferences_nil
    (ListPager.fresh settings.processes settings.pages settings.frames) settings.reclaims hknown
    (fun _ => rfl) hnil
  have hlast : (visits { settings, clients }).1 =
      { ListPager.fresh settings.processes settings.pages settings.frames with counters } := hvisits
  refine ⟨houtcomes, ?_, ?_, ?_⟩
  · rw [listReport, hlast]
    rfl
  · rw [listReport, hlast]
    exact ListPager.resident_of_recent_nil fun _ => rfl
  · rw [listReport, hlast]
    exact List.length_range

/-- A generated simulation runs to its end, as far as its entries can be counted. -/
theorem exists_run_of_random (hrandom : random settings seed = .ok simulation)
    (hfits : settings.processes * settings.pages < wordCount) :
    ∃ report, simulation.run = .ok report := by
  obtain ⟨clients, drawn, -, hof, rfl⟩ := random_eq_ok hrandom
  obtain ⟨start, hstart⟩ := (exists_fresh_iff_of_accepted hof).mpr hfits
  obtain ⟨final, outcomes, hperforms⟩ := exists_performs hof hstart
  obtain ⟨rfl, hlength, hnumbered⟩ := of_eq_ok hof
  exact ⟨_, run_eq_ok hstart hnumbered hlength hperforms⟩

/-- What a generated simulation that runs to its end consists of. -/
theorem exists_of_random_run (hrandom : random settings seed = .ok simulation)
    (hrun : simulation.run = .ok report) :
    ∃ clients drawn, of settings clients = .ok drawn ∧ drawn.run = .ok drawn.listReport ∧
      report = { drawn.listReport with seed := some seed.toNat } ∧
      settings.pages < halfWordCount ∧ ∀ client ∈ clients,
        client.Drawn settings.pages settings.referenceCount settings.illegalRate := by
  obtain ⟨clients, drawn, hgenerate, hof, rfl⟩ := random_eq_ok hrandom
  rw [run_reseed] at hrun
  obtain ⟨base, hbase, hreport⟩ := exists_of_map_eq_ok hrun
  obtain ⟨hpids, hdrawn⟩ := Client.drawFrom_eq_ok hgenerate
  have hcount : clients.length = settings.processes := by simpa using congrArg List.length hpids
  have hprocesses := (Settings.check_eq_ok_iff.mp (check_of_eq_ok hof)).1
  obtain ⟨start, hstart⟩ := exists_fresh_of_run hbase
  rw [(of_eq_ok hof).1] at hstart
  -- A table is too long only for a draw that fails, and there is at least one process.
  have hpages : settings.pages < halfWordCount := by
    obtain ⟨client, hclient⟩ := List.exists_mem_of_length_pos (hcount ▸ hprocesses)
    refine (hdrawn client hclient).pages_lt (Nat.lt_of_le_of_lt ?_
      (PageService.exists_fresh_iff.mp ⟨start, hstart⟩).2.1)
    exact Nat.le_mul_of_pos_left _ hprocesses
  have hlist := run_eq_listReport hof hstart hpages
  obtain rfl := Except.ok.inj (hlist.symm.trans hbase)
  exact ⟨clients, drawn, hof, hlist, hreport.symm, hpages, hdrawn⟩

/-- If a generated simulation runs to its end, every process has only legal references at a
rate of zero, whatever its sign, and only illegal ones at a rate of one. -/
theorem random_respects_rate (hrandom : random settings seed = .ok simulation)
    (hrun : simulation.run = .ok report) :
    report.clients.map (·.pid) = List.range settings.processes ∧
      (settings.illegalRate.magnitude = 0 → ∀ own ∈ report.clients, own.AllLegal settings) ∧
      (settings.illegalRate = .one → report.AllIllegal settings) := by
  obtain ⟨clients, drawn, hof, hlist, rfl, hpages, hdrawn⟩ := exists_of_random_run hrandom hrun
  have hpos := (Settings.check_eq_ok_iff.mp (check_of_eq_ok hof)).2.1
  have hpids := pids_of_run hof hlist
  refine ⟨hpids, fun hrate own hmem => ?_, fun hrate => ?_⟩
  · refine allLegal_of_run hof hlist (fun client hclient => (hdrawn client hclient).length_eq)
      (fun client hclient => ?_) hmem
    exact (hdrawn client hclient).legalReferences_eq hpos hpages
      (Binary64.not_zero_lt_of_magnitude hrate)
  · have hcertain : Binary64.one.le settings.illegalRate = true := by
      rw [hrate]
      decide
    have hnil : ∀ client ∈ clients, client.legalReferences settings.pages = [] :=
      fun client hclient => (hdrawn client hclient).legalReferences_eq_nil hcertain
    have hidle := allIllegal_of_run hof
      (fun client hclient => (hdrawn client hclient).cutOff_eq (hnil client hclient)) hnil
    exact ⟨hidle.outcomes_eq, hidle.clock_eq, hidle.resident_eq, hidle.freeFrames_eq⟩

/-- Two processes with one frame and two references each. -/
def crowded (illegalRate : Binary64) : Settings :=
  { processes := 2, pages := 3, frames := 1, referenceCount := 2, illegalRate }

theorem crowded_random_respects_rate :
    (∃ simulation report, random (crowded .zero) 7 = .ok simulation ∧
      simulation.run = .ok report ∧ ∀ own ∈ report.clients, own.AllLegal (crowded .zero)) ∧
    ∃ simulation report, random (crowded .one) 7 = .ok simulation ∧
      simulation.run = .ok report ∧ report.AllIllegal (crowded .one) := by
  constructor
  · obtain ⟨simulation, hrandom⟩ :=
      exists_of_isOk (show (random (crowded .zero) 7).isOk = true by decide +kernel)
    obtain ⟨report, hrun⟩ := exists_run_of_random hrandom (by decide)
    exact ⟨simulation, report, hrandom, hrun, (random_respects_rate hrandom hrun).2.1 (by decide)⟩
  · obtain ⟨simulation, hrandom⟩ :=
      exists_of_isOk (show (random (crowded .one) 7).isOk = true by decide +kernel)
    obtain ⟨report, hrun⟩ := exists_run_of_random hrandom (by decide)
    exact ⟨simulation, report, hrandom, hrun, (random_respects_rate hrandom hrun).2.2 rfl⟩

end Simulation

end DemandPaging
