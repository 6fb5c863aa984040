import DemandPaging.Proofs.Simulation.HitNotices

/-!
# Earlier clients do not depend on later ones

A client is done before the next one begins, and what is reported of it stays as it is. So
two simulations that begin with the same clients report the same of these, whoever comes
after them. Not even the number of processes matters, although it decides how large the
tables are.
-/

namespace DemandPaging

namespace ListPager

/-- The list pager as one among another number of processes has it. -/
def among (lists : ListPager) (processes : Nat) : ListPager := { lists with processes }

variable {lists : ListPager} {pid processes : Nat} {page bound : Int} {reclaims : Bool}
  {client : Client} {clients : List Client}

/-! ## The number of processes -/

theorem refer_among (lists : ListPager) (processes pid page : Nat) :
    (lists.among processes).refer pid page =
      (lists.refer pid page).map (·.among processes) id := by
  have hrecent : (lists.among processes).recent = lists.recent := rfl
  have hfree : (lists.among processes).free = lists.free := rfl
  simp only [refer, hrecent, hfree]
  split
  next => rfl
  next =>
    split
    next => rfl
    next => split <;> rfl

/-- A process that is known to both pagers fares the same at both. -/
theorem access_among (hpid : pid < lists.processes) (hother : pid < processes) :
    (lists.among processes).access pid page bound =
      (lists.access pid page bound).map (·.among processes) id := by
  have hknown : pid < (lists.among processes).processes := hother
  have hpages : (lists.among processes).pages = lists.pages := rfl
  simp only [access, if_pos hpid, if_pos hknown, hpages, refer_among]
  split <;> rfl

theorem resolve_among (hpid : pid < lists.processes) (hother : pid < processes)
    (references : List Int) :
    (lists.among processes).resolve pid bound references =
      (lists.resolve pid bound references).map (·.among processes) id := by
  induction references generalizing lists with
  | nil => rfl
  | cons page references ih =>
      have hnext := (sameBut_access lists pid page bound).processes_eq
      cases haccess : lists.access pid page bound with
      | mk next resolution =>
          rw [haccess] at hnext
          simp only [resolve, access_among hpid hother, haccess, Prod.map, id]
          split
          next => rfl
          next =>
            split
            next => rfl
            next => rw [ih (hnext ▸ hpid)]; rfl

theorem visit_among (hpid : client.pid < lists.processes) (hother : client.pid < processes) :
    (lists.among processes).visit reclaims client =
      (lists.visit reclaims client).map (·.among processes) id := by
  simp only [visit, resolve_among hpid hother]
  cases reclaims <;> rfl

theorem visits_among (hpids : ∀ client ∈ clients, client.pid < lists.processes)
    (hothers : ∀ client ∈ clients, client.pid < processes) :
    (lists.among processes).visits reclaims clients =
      (lists.visits reclaims clients).map (·.among processes) id := by
  induction clients generalizing lists with
  | nil => rfl
  | cons client clients ih =>
      obtain ⟨hpid, hpids⟩ := List.forall_mem_cons.mp hpids
      obtain ⟨hother, hothers⟩ := List.forall_mem_cons.mp hothers
      have hnext := (sameBut_visit lists reclaims client).processes_eq
      have hrest : ∀ other ∈ clients, other.pid < (lists.visit reclaims client).1.processes := by
        rw [hnext]
        exact hpids
      simp only [visits, visit_among hpid hother, Prod.map, id]
      rw [ih hrest hothers]
      rfl

theorem visits_append (lists : ListPager) (reclaims : Bool) (clients later : List Client) :
    lists.visits reclaims (clients ++ later) =
      (((lists.visits reclaims clients).1.visits reclaims later).1,
        (lists.visits reclaims clients).2 ++
          ((lists.visits reclaims clients).1.visits reclaims later).2) := by
  induction clients generalizing lists with
  | nil => rfl
  | cons client clients ih => simp only [List.cons_append, visits, ih]

theorem length_visits (lists : ListPager) (reclaims : Bool) (clients : List Client) :
    (lists.visits reclaims clients).2.length = clients.length := by
  induction clients generalizing lists with
  | nil => rfl
  | cons client clients ih => simp only [visits, List.length_cons, ih]

/-! ## What is reported of the first clients -/

/-- The resident pages of one process, by page. -/
def residentOf (lists : ListPager) (pid : Nat) : List ResidentPage :=
  ((lists.recent pid).mergeSort byPage).map fun (page, frame) => ⟨pid, page, frame⟩

theorem pid_eq_of_mem_residentOf {r : ResidentPage} (hmem : r ∈ lists.residentOf pid) :
    r.pid = pid := by
  obtain ⟨_, -, rfl⟩ := List.mem_map.mp hmem
  rfl

/-- The resident pages of the first processes come first. -/
theorem filter_resident_lt {count : Nat} (hle : count ≤ lists.processes) :
    lists.resident.filter (·.pid < count) = (List.range count).flatMap lists.residentOf := by
  obtain ⟨more, hmore⟩ := Nat.exists_eq_add_of_le hle
  have hall : lists.resident = (List.range count).flatMap lists.residentOf ++
      ((List.range more).map (count + ·)).flatMap lists.residentOf := by
    rw [← List.flatMap_append, ← List.range_add, ← hmore]
    rfl
  have hfirst : ((List.range count).flatMap lists.residentOf).filter (·.pid < count) =
      (List.range count).flatMap lists.residentOf := by
    refine List.filter_eq_self.mpr fun r hr => ?_
    obtain ⟨pid, hpid, hmem⟩ := List.mem_flatMap.mp hr
    simpa [pid_eq_of_mem_residentOf hmem] using hpid
  have hlater : (((List.range more).map (count + ·)).flatMap lists.residentOf).filter
      (·.pid < count) = [] := by
    refine List.filter_eq_nil_iff.mpr fun r hr => ?_
    obtain ⟨pid, hpid, hmem⟩ := List.mem_flatMap.mp hr
    obtain ⟨offset, -, rfl⟩ := List.mem_map.mp hpid
    simp [pid_eq_of_mem_residentOf hmem]
  rw [hall, List.filter_append, hfirst, hlater, List.append_nil]

/-- The reports of clients whose references were resolved in these ways, with the counters
of a list pager. -/
def reportsOf (lists : ListPager) (clients : List Client) (resolved : List (List Resolution)) :
    List ClientReport :=
  List.zipWith (fun client resolutions => {
    pid := client.pid
    bound := client.bound
    outcomes := resolutions.map Resolution.outcome
    counters := lists.counters client.pid }) clients resolved

theorem reportsOf_congr {other : ListPager} {resolved : List (List Resolution)}
    (hcounters : ∀ client ∈ clients, other.counters client.pid = lists.counters client.pid) :
    other.reportsOf clients resolved = lists.reportsOf clients resolved := by
  rw [reportsOf, reportsOf, ← List.map_uncurry_zip_eq_zipWith, ← List.map_uncurry_zip_eq_zipWith]
  refine List.map_congr_left ?_
  rintro ⟨client, resolutions⟩ hmem
  simp only [Function.uncurry_apply_pair, hcounters client (List.of_mem_zip hmem).1]

end ListPager

namespace Simulation

variable {settings others : Settings} {shared later otherLater : List Client}
  {simulation other : Simulation}

/-- What the first clients leave behind before the next one begins. -/
def firstVisits (settings : Settings) (shared : List Client) :
    ListPager × List (List Resolution) :=
  (ListPager.fresh settings.processes settings.pages settings.frames).visits settings.reclaims
    shared

/-- Later visits do not change what is reported of the first clients. -/
theorem listReport_first (hlength : (shared ++ later).length = settings.processes)
    (hnumbered : Numbered 0 (shared ++ later)) :
    (listReport { settings, clients := shared ++ later }).clients.take shared.length =
        (firstVisits settings shared).1.reportsOf shared (firstVisits settings shared).2 ∧
      (listReport { settings, clients := shared ++ later }).resident.filter
          (·.pid < shared.length) =
        (List.range shared.length).flatMap (firstVisits settings shared).1.residentOf := by
  obtain ⟨hfirst, hrest⟩ := hnumbered.append
  let middle := firstVisits settings shared
  let last := middle.1.visits settings.reclaims later
  have hvisits : visits { settings, clients := shared ++ later } = (last.1, middle.2 ++ last.2) :=
    ListPager.visits_append _ _ _ _
  have hsame : ∀ pid, pid < shared.length →
      last.1.recent pid = middle.1.recent pid ∧ last.1.counters pid = middle.1.counters pid := by
    intro pid hpid
    refine ListPager.sameAt_visits middle.1 settings.reclaims later fun client hmem => ?_
    have hge := hrest.pid_ge hmem
    omega
  constructor
  · have hmiddle : shared.length = middle.2.length := (ListPager.length_visits _ _ _).symm
    have hcounters : ∀ client ∈ shared,
        last.1.counters client.pid = middle.1.counters client.pid := by
      intro client hmem
      have hlt := hfirst.pid_lt hmem
      exact (hsame client.pid (by omega)).2
    rw [← ListPager.reportsOf_congr hcounters]
    simp only [listReport, hvisits]
    rw [List.zipWith_append hmiddle]
    exact List.take_left' (by simp [hmiddle])
  · have hknown : shared.length ≤ last.1.processes := by
      have hprocesses : last.1.processes = settings.processes := by
        simp only [last, ListPager.visits_processes]
        exact ListPager.visits_processes _
      rw [hprocesses, ← hlength, List.length_append]
      exact Nat.le_add_right _ _
    simp only [listReport, hvisits]
    rw [ListPager.filter_resident_lt hknown]
    refine List.flatMap_congr fun pid hpid => ?_
    rw [ListPager.residentOf, (hsame pid (List.mem_range.mp hpid)).1]
    rfl

/-- What a simulation reports of its first clients is what their visits leave behind. -/
theorem run_first (hof : of settings (shared ++ later) = .ok simulation)
    (hpages : settings.pages < halfWordCount) {report : Report}
    (hrun : simulation.run = .ok report) :
    report.clients.take shared.length =
        (firstVisits settings shared).1.reportsOf shared (firstVisits settings shared).2 ∧
      report.admissionOrder.take shared.length = List.range shared.length ∧
      report.resident.filter (·.pid < shared.length) =
        (List.range shared.length).flatMap (firstVisits settings shared).1.residentOf := by
  obtain ⟨rfl, hlength, hnumbered⟩ := of_eq_ok hof
  obtain ⟨start, hstart⟩ := exists_fresh_of_run hrun
  rw [run_eq_listReport hof hstart hpages] at hrun
  obtain rfl := Except.ok.inj hrun
  obtain ⟨hclients, hresident⟩ := listReport_first hlength hnumbered
  refine ⟨hclients, ?_, hresident⟩
  rw [List.length_append] at hlength
  show (List.range settings.processes).take shared.length = _
  rw [List.take_range, Nat.min_eq_left (by omega)]

/-- The first visits are the same with another number of processes. -/
theorem firstVisits_eq (hshared : shared.length ≤ settings.processes)
    (hotherShared : shared.length ≤ others.processes) (hnumbered : Numbered 0 shared)
    (hpages : others.pages = settings.pages) (hframes : others.frames = settings.frames)
    (hreclaims : others.reclaims = settings.reclaims) :
    firstVisits others shared =
      (firstVisits settings shared).map (·.among others.processes) id := by
  rw [firstVisits, firstVisits, hpages, hframes, hreclaims, ← ListPager.visits_among]
  · rfl
  all_goals
    intro client hmem
    have hlt := hnumbered.pid_lt hmem
  · show client.pid < settings.processes
    omega
  · omega

/-- With tables that long, only one process can be had. -/
theorem processes_le_one (hof : of settings shared = .ok simulation)
    (hlong : halfWordCount ≤ settings.pages) {report : Report}
    (hrun : simulation.run = .ok report) : settings.processes ≤ 1 := by
  have hfits := exists_fresh_iff_of_accepted hof
  obtain ⟨rfl, -⟩ := of_eq_ok hof
  have hlt := hfits.mp (exists_fresh_of_run hrun)
  refine Nat.le_of_not_lt fun hmany => ?_
  have hlarge : 2 * halfWordCount ≤ settings.processes * settings.pages :=
    Nat.mul_le_mul hmany hlong
  exact absurd hlt (Nat.not_lt.mpr hlarge)

/-- Of two simulations that run to their ends and begin with the same clients, with the same
tables, frames and use of frames, the reports begin with the same entries and the same order
of admission, and list the same resident pages of these clients. -/
theorem run_first_clients_eq (hof : of settings (shared ++ later) = .ok simulation)
    (hother : of others (shared ++ otherLater) = .ok other)
    (hpages : others.pages = settings.pages) (hframes : others.frames = settings.frames)
    (hreclaims : others.reclaims = settings.reclaims) {report otherReport : Report}
    (hrun : simulation.run = .ok report) (hotherRun : other.run = .ok otherReport) :
    otherReport.clients.take shared.length = report.clients.take shared.length ∧
      otherReport.admissionOrder.take shared.length =
        report.admissionOrder.take shared.length ∧
      otherReport.resident.filter (·.pid < shared.length) =
        report.resident.filter (·.pid < shared.length) := by
  by_cases hlong : settings.pages < halfWordCount
  · obtain ⟨hclients, horder, hresident⟩ := run_first hof hlong hrun
    obtain ⟨hotherClients, hotherOrder, hotherResident⟩ :=
      run_first hother (hpages ▸ hlong) hotherRun
    obtain ⟨-, hlength, hnumbered⟩ := of_eq_ok hof
    have hotherLength := (of_eq_ok hother).2.1
    rw [List.length_append] at hlength hotherLength
    have hvisits := firstVisits_eq (by omega) (by omega) hnumbered.append.1 hpages hframes hreclaims
    rw [hclients, horder, hresident, hotherClients, hotherOrder, hotherResident, hvisits]
    exact ⟨rfl, rfl, rfl⟩
  · have hlong := Nat.le_of_not_lt hlong
    have hone := processes_le_one hof hlong hrun
    have hotherOne := processes_le_one hother (hpages ▸ hlong) hotherRun
    have hlength := (of_eq_ok hof).2.1
    have hotherLength := (of_eq_ok hother).2.1
    rw [List.length_append] at hlength hotherLength
    cases hshared : shared with
    | nil => simp
    | cons client shared =>
        rw [hshared, List.length_cons] at hlength hotherLength
        have hnil : later = [] := List.eq_nil_of_length_eq_zero (by omega)
        have hotherNil : otherLater = [] := List.eq_nil_of_length_eq_zero (by omega)
        subst hnil hotherNil
        have heq := run_eq_of_settings hof hother hpages hframes hreclaims
        rw [hrun, hotherRun] at heq
        obtain rfl := Except.ok.inj heq
        exact ⟨rfl, rfl, rfl⟩

/-- Two clients that use up both frames, before one client and before two others. -/
theorem run_first_two_clients_eq :
    ∃ simulation other report otherReport,
      Simulation.of { processes := 3, pages := 3, frames := 2 }
        ([⟨0, 3, [2]⟩, ⟨1, 3, [0, 1, -9, 2]⟩] ++ [⟨2, 1, [0]⟩]) = .ok simulation ∧
      Simulation.of { processes := 4, pages := 3, frames := 2, reportsHits := true }
        ([⟨0, 3, [2]⟩, ⟨1, 3, [0, 1, -9, 2]⟩] ++ [⟨2, 3, [-1]⟩, ⟨3, 2, [1, 0]⟩]) = .ok other ∧
      simulation.run = .ok report ∧ other.run = .ok otherReport ∧
      otherReport.clients.take 2 = report.clients.take 2 ∧
      otherReport.admissionOrder.take 2 = report.admissionOrder.take 2 ∧
      otherReport.resident.filter (·.pid < 2) = report.resident.filter (·.pid < 2) := by
  obtain ⟨simulation, start, hof, hstart⟩ : ∃ simulation start,
      Simulation.of { processes := 3, pages := 3, frames := 2 }
        ([⟨0, 3, [2]⟩, ⟨1, 3, [0, 1, -9, 2]⟩] ++ [⟨2, 1, [0]⟩]) = .ok simulation ∧
      PageService.fresh { processes := 3, pages := 3, frames := 2 } = .ok start :=
    ⟨_, _, rfl, rfl⟩
  obtain ⟨other, otherStart, hother, hotherStart⟩ : ∃ other otherStart,
      Simulation.of { processes := 4, pages := 3, frames := 2, reportsHits := true }
        ([⟨0, 3, [2]⟩, ⟨1, 3, [0, 1, -9, 2]⟩] ++ [⟨2, 3, [-1]⟩, ⟨3, 2, [1, 0]⟩]) = .ok other ∧
      PageService.fresh { processes := 4, pages := 3, frames := 2, reportsHits := true } =
        .ok otherStart :=
    ⟨_, _, rfl, rfl⟩
  have hrun := run_eq_listReport hof hstart (by decide)
  have hotherRun := run_eq_listReport hother hotherStart (by decide)
  exact ⟨simulation, other, _, _, hof, hother, hrun, hotherRun,
    run_first_clients_eq hof hother rfl rfl rfl hrun hotherRun⟩

end Simulation

end DemandPaging
