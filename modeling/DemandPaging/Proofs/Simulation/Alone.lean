import Mathlib.Data.Set.Function
import DemandPaging.Proofs.Simulation.FramesLeft

/-!
# A simulation that reclaims frames

A process that ends gives back all its frames, so every process finds all frames
free. Only their order depends on the processes before it. So a process has the same
counters as if it were the only one of its simulation, and the same outcomes under
other names of the frames; and no process starves.
-/

namespace DemandPaging

/-- The settings for one process. -/
def Settings.alone (settings : Settings) : Settings := { settings with processes := 1 }

/-- The client as the only one of a simulation. -/
def Client.alone (client : Client) : Client := { client with pid := 0 }

/-- The simulation in which the client is the only one. -/
def Simulation.alone (settings : Settings) (client : Client) : Simulation :=
  { settings := settings.alone, clients := [client.alone] }

/-- The names are a rearrangement of the frames `0, …, frames - 1`. -/
structure Permutes (names : Nat → Nat) (frames : Nat) : Prop where
  bijOn : Set.BijOn names (Set.Iio frames) (Set.Iio frames)
  fixes : ∀ frame, frames ≤ frame → names frame = frame

theorem Permutes.of_perm {names : Nat → Nat} {frames : Nat}
    (hperm : ((List.range frames).map names).Perm (List.range frames))
    (hfixes : ∀ frame, frames ≤ frame → names frame = frame) : Permutes names frames := by
  refine ⟨⟨?_, ?_, ?_⟩, hfixes⟩
  · intro frame hframe
    have hmem := List.mem_map_of_mem (f := names) (List.mem_range.mpr hframe)
    exact List.mem_range.mp (hperm.mem_iff.mp hmem)
  · intro frame hframe other hother heq
    exact List.inj_on_of_nodup_map (hperm.nodup_iff.mpr List.nodup_range)
      (List.mem_range.mpr hframe) (List.mem_range.mpr hother) heq
  · intro frame hframe
    obtain ⟨other, hother, rfl⟩ := List.mem_map.mp (hperm.mem_iff.mpr (List.mem_range.mpr hframe))
    exact ⟨other, List.mem_range.mp hother, rfl⟩

namespace ListPager

variable {names : Nat → Nat} {own pid frames : Nat} {alone lists : ListPager}

theorem Renames.resolve (hrenames : Renames names own pid alone lists) (bound : Int)
    (references : List Int) :
    (lists.resolve pid bound references).2 =
        (alone.resolve own bound references).2.map (Resolution.rename names) ∧
      Renames names own pid (alone.resolve own bound references).1
        (lists.resolve pid bound references).1 := by
  induction references generalizing alone lists with
  | nil => exact ⟨rfl, hrenames⟩
  | cons page references ih =>
      obtain ⟨hresolution, hnext⟩ := hrenames.access page bound
      simp only [ListPager.resolve, hresolution, Resolution.outcome_rename,
        Outcome.endsReferences_rename]
      split
      next => exact ⟨rfl, hrenames⟩
      next =>
        split
        next => exact ⟨rfl, hnext⟩
        next =>
          obtain ⟨hrest, hlast⟩ := ih hnext
          exact ⟨congrArg _ hrest, hlast⟩

theorem Renames.visit {client : Client} (hrenames : Renames names 0 client.pid alone lists)
    (reclaims : Bool) :
    (lists.visit reclaims client).2 =
        (alone.visit reclaims client.alone).2.map (Resolution.rename names) ∧
      Renames names 0 client.pid (alone.visit reclaims client.alone).1
        (lists.visit reclaims client).1 := by
  obtain ⟨hresolutions, hnext⟩ := hrenames.resolve client.bound client.references
  refine ⟨hresolutions, ?_⟩
  cases reclaims with
  | false => exact hnext
  | true => exact hnext.evacuate

/-! ## All frames are free -/

/-- No page is resident, and all frames are free. -/
structure Vacant (lists : ListPager) (frames : Nat) : Prop where
  recent_eq : ∀ pid, lists.recent pid = []
  free_perm : lists.free.Perm (List.range frames)

namespace Vacant

/-- The free frames are the frames in their own order, under other names. -/
theorem exists_names (hvacant : lists.Vacant frames) :
    ∃ names, Permutes names frames ∧ lists.free = (List.range frames).map names := by
  have hlength := hvacant.free_perm.length_eq
  rw [List.length_range] at hlength
  let names := fun index => lists.free.getD index index
  have hnames : lists.free = (List.range frames).map names := by
    refine List.ext_getElem (by simp [hlength]) ?_
    intro index hindex _
    simp [names, hindex]
  refine ⟨names, .of_perm (hnames ▸ hvacant.free_perm) fun frame hframe => ?_, hnames⟩
  simp [names, List.getElem?_eq_none (hlength ▸ hframe)]

/-- The process finds the pager as a process alone finds a fresh one, but for the names
of the frames. -/
theorem renames (hvacant : lists.Vacant frames) (hpid : pid < lists.processes)
    (hcounters : lists.counters pid = {}) (hnames : lists.free = (List.range frames).map names) :
    Renames names 0 pid (ListPager.fresh 1 lists.pages frames) lists :=
  ⟨iff_of_true hpid Nat.one_pos, rfl, hvacant.recent_eq pid, hnames, hcounters⟩

end Vacant

/-- If no page is resident before a visit, none is afterwards. -/
theorem recent_visit (hnil : ∀ pid, lists.recent pid = []) (client : Client) (pid : Nat) :
    (lists.visit true client).1.recent pid = [] := by
  by_cases hpid : pid = client.pid
  · subst hpid
    simp [ListPager.visit, ListPager.evacuate]
  · rw [(sameBut_visit lists true client).recent_eq pid hpid, hnil]

theorem resident_of_recent_nil (hnil : ∀ pid, lists.recent pid = []) : lists.resident = [] := by
  rw [resident, List.flatMap_eq_nil_iff]
  intro pid _
  rw [hnil, List.mergeSort_nil, List.map_nil]

/-- The visit of a client to a fresh list pager of its own. -/
def ownVisit (pages frames : Nat) (client : Client) : ListPager × List Resolution :=
  (ListPager.fresh 1 pages frames).visit true client.alone

/-- Each client fares as at a pager of its own, if it leaves all frames free there. -/
theorem visits_isolated {first : Nat} {clients : List Client} (lists : ListPager)
    (hnumbered : Numbered first clients) (hlength : first + clients.length ≤ lists.processes)
    (hvacant : lists.Vacant frames) (hcounters : ∀ pid, first ≤ pid → lists.counters pid = {})
    (hown : ∀ client, (ownVisit lists.pages frames client).1.free.Perm (List.range frames)) :
    (lists.visits true clients).1.Vacant frames ∧
      ∀ (index : Nat) (client : Client), clients[index]? = some client →
        ∃ names, Permutes names frames ∧
          (lists.visits true clients).2[index]? =
            some ((ownVisit lists.pages frames client).2.map (Resolution.rename names)) ∧
          (lists.visits true clients).1.counters client.pid =
            (ownVisit lists.pages frames client).1.counters 0 := by
  induction clients generalizing first lists with
  | nil => exact ⟨hvacant, by simp⟩
  | cons client clients ih =>
      rw [List.length_cons] at hlength
      obtain rfl := hnumbered.head
      obtain ⟨names, hpermutes, hnames⟩ := hvacant.exists_names
      have hsame := sameBut_visit lists true client
      obtain ⟨hresolutions, hrenames⟩ := (hvacant.renames (by omega)
        (hcounters _ (Nat.le_refl _)) hnames).visit true
      have hnext : (lists.visit true client).1.Vacant frames := by
        refine ⟨recent_visit hvacant.recent_eq client, ?_⟩
        rw [hrenames.free_eq]
        exact ((hown client).map names).trans (hnames ▸ hvacant.free_perm)
      obtain ⟨hlast, hclients⟩ := ih _ hnumbered.tail (by rw [hsame.processes_eq]; omega) hnext
        (fun pid hpid => (hsame.counters_eq pid (by omega)).trans (hcounters pid (by omega)))
        (by rw [hsame.pages_eq]; exact hown)
      rw [hsame.pages_eq] at hclients
      refine ⟨hlast, ?_⟩
      intro index other hother
      cases index with
      | zero =>
          obtain rfl := Option.some.inj hother
          have hlater := (sameAt_visits (lists.visit true client).1 true clients
            fun other hmem => Nat.ne_of_gt (hnumbered.tail.pid_ge hmem)).2
          exact ⟨names, hpermutes, congrArg some hresolutions,
            hlater.trans hrenames.counters_eq⟩
      | succ index => exact hclients index other hother

/-- At a pager of its own with a frame, a client does not starve. -/
theorem starved_notMem_ownVisit {pages : Nat} (hframes : 0 < frames) (client : Client) :
    .starved ∉ (ownVisit pages frames client).2.map Resolution.outcome := by
  have hkeeps : (ListPager.fresh 1 pages frames).Keeps 0
      (ListPager.fresh 1 pages frames).free.length [] := keeps_nil rfl
  have hreach : 0 < (ListPager.fresh 1 pages frames).free.length := by
    simpa [ListPager.fresh] using hframes
  obtain ⟨given, -, houtcomes, -⟩ :=
    hkeeps.resolve hreach Nat.one_pos client.bound client.references
  have hown : (ownVisit pages frames client).2.map Resolution.outcome = _ := houtcomes
  rw [hown, List.mem_append, not_or]
  refine ⟨by simp, ?_⟩
  unfold Client.cutOff
  split
  next => exact List.not_mem_nil
  next =>
    split
    next => exact List.not_mem_nil
    next => simp

end ListPager

/-! ## The simulation of one client -/

theorem Settings.check_eq_ok_iff {settings : Settings} :
    settings.check = .ok () ↔
      0 < settings.processes ∧ 0 < settings.pages ∧ 0 < settings.frames ∧
        settings.illegalRate.isProbability = true ∧ settings.timeout ≠ some 0 := by
  unfold check
  split_ifs with hprocesses hpages hframes hrate htimeout
  all_goals simp_all [Nat.pos_iff_ne_zero]

namespace Simulation

variable {simulation : Simulation} {settings : Settings} {clients : List Client}
  {start : PageService}

/-- Each client is accepted alone, too. -/
theorem of_alone (hof : of settings clients = .ok simulation) (client : Client) :
    of settings.alone [client.alone] = .ok (alone settings client) := by
  obtain ⟨-, hrest⟩ := Settings.check_eq_ok_iff.mp (check_of_eq_ok hof)
  have hcheck : settings.alone.check = .ok () :=
    Settings.check_eq_ok_iff.mpr ⟨Nat.one_pos, hrest⟩
  simp only [of, hcheck, bind, Except.bind]
  rfl

/-- A service can be set up for it. -/
theorem exists_fresh_alone (hstart : PageService.fresh settings = .ok start) :
    ∃ own, PageService.fresh settings.alone = .ok own := by
  obtain ⟨hpos, hlt, hframes⟩ := PageService.exists_fresh_iff.mp ⟨start, hstart⟩
  have hpages : 1 * settings.pages ≤ settings.processes * settings.pages :=
    Nat.mul_le_mul_right _ (Nat.pos_of_mul_pos_right hpos)
  have hown : 0 < 1 * settings.pages := by
    rw [Nat.one_mul]
    exact Nat.pos_of_mul_pos_left hpos
  exact PageService.exists_fresh_iff.mpr ⟨hown, Nat.lt_of_le_of_lt hpages hlt, hframes⟩

theorem visits_alone (hreclaims : settings.reclaims = true) (client : Client) :
    (alone settings client).visits =
      ((ListPager.ownVisit settings.pages settings.frames client).1,
        [(ListPager.ownVisit settings.pages settings.frames client).2]) := by
  simp only [visits, alone, Settings.alone, hreclaims]
  rfl

/-- Alone, a client leaves all frames free. -/
theorem free_perm_ownVisit (hof : of settings clients = .ok simulation)
    (hstart : PageService.fresh settings = .ok start) (hpages : settings.pages < halfWordCount)
    (hreclaims : settings.reclaims = true) (client : Client) :
    (ListPager.ownVisit settings.pages settings.frames client).1.free.Perm
      (List.range settings.frames) := by
  obtain ⟨own, hown⟩ := exists_fresh_alone hstart
  have hperm := visits_perm_range (of_alone hof client) hown hpages
  have hnil : (ListPager.ownVisit settings.pages settings.frames client).1.resident = [] :=
    ListPager.resident_of_recent_nil (ListPager.recent_visit (fun _ => rfl) client.alone)
  rw [visits_alone hreclaims, hnil, List.map_nil, List.append_nil] at hperm
  exact hperm

end Simulation

/-- A client fares as it does in another report, but for the names of the frames, and
does not starve. -/
structure ClientReport.FaresAs (report own : ClientReport) (frames : Nat) : Prop where
  counters_eq : report.counters = own.counters
  outcomes_eq : ∃ names, Permutes names frames ∧
    report.outcomes = own.outcomes.map (Outcome.rename names)
  unstarved : .starved ∉ report.outcomes

/-- With reclaim, a simulation runs to a report with all frames free in which every
process fares as in the simulation where it is the only one. -/
theorem Simulation.run_isolates {settings : Settings} {clients : List Client}
    {simulation : Simulation} {start : PageService} (hof : of settings clients = .ok simulation)
    (hstart : PageService.fresh settings = .ok start) (hpages : settings.pages < halfWordCount)
    (hreclaims : settings.reclaims = true) :
    ∃ report, simulation.run = .ok report ∧ report.resident = [] ∧
      report.freeFrames = settings.frames ∧
      ∀ (pid : Nat) (client : Client), clients[pid]? = some client →
        ∃ own aloneReport ownAlone, report.clients[pid]? = some own ∧
          of settings.alone [client.alone] = .ok (alone settings client) ∧
          (alone settings client).run = .ok aloneReport ∧ aloneReport.clients = [ownAlone] ∧
          own.FaresAs ownAlone settings.frames := by
  have hrun := run_eq_listReport hof hstart hpages
  have hfree := free_perm_ownVisit hof hstart hpages hreclaims
  have hframes : 0 < settings.frames :=
    (Settings.check_eq_ok_iff.mp (check_of_eq_ok hof)).2.2.1
  obtain ⟨ownStart, hownStart⟩ := exists_fresh_alone hstart
  have hown := fun client => run_eq_listReport (of_alone hof client) hownStart hpages
  have haccepted := of_alone hof
  obtain ⟨rfl, hlength, hnumbered⟩ := of_eq_ok hof
  let lists := ListPager.fresh settings.processes settings.pages settings.frames
  have hprocesses : lists.processes = settings.processes := rfl
  obtain ⟨hvacant, hclients⟩ := ListPager.visits_isolated lists hnumbered (by omega)
    ⟨fun _ => rfl, .refl _⟩ (fun _ _ => rfl) hfree
  have hvisits : visits { settings, clients } = lists.visits true clients := by
    rw [visits, hreclaims]
  rw [← hvisits] at hvacant hclients
  have hcount := hvacant.free_perm.length_eq
  rw [List.length_range] at hcount
  refine ⟨_, hrun, ListPager.resident_of_recent_nil hvacant.recent_eq, hcount, ?_⟩
  intro pid client hclient
  obtain ⟨names, hnames, hresolutions, hcounters⟩ := hclients pid client hclient
  let visit := ListPager.ownVisit settings.pages settings.frames client
  refine ⟨⟨client.pid, client.bound, (visit.2.map (Resolution.rename names)).map Resolution.outcome,
    visit.1.counters 0⟩, _, ⟨0, client.bound, visit.2.map Resolution.outcome, visit.1.counters 0⟩,
    ?_, haccepted client, hown client, ?_, rfl, ⟨names, hnames, ?_⟩, ?_⟩
  · simp only [listReport, List.getElem?_zipWith, hclient, hresolutions, hcounters]
    rfl
  · rw [listReport, visits_alone hreclaims]
    rfl
  · simp only [List.map_map, Function.comp_def, Resolution.outcome_rename]
  · simp only [List.map_map, Function.comp_def, Resolution.outcome_rename]
    intro hmem
    obtain ⟨resolution, hresolution, heq⟩ := List.mem_map.mp hmem
    exact ListPager.starved_notMem_ownVisit hframes client
      (List.mem_map.mpr ⟨resolution, hresolution, Outcome.rename_eq_starved_iff.mp heq⟩)

/-- Of three processes on two frames, the second one finds the frames in another order
than it would alone. -/
theorem Simulation.run_isolates_second_of_three :
    ∃ simulation start,
      Simulation.of { processes := 3, pages := 3, frames := 2, reclaims := true }
        [⟨0, 3, [2, 1]⟩, ⟨1, 3, [0, 1, 0, 2, 7]⟩, ⟨2, 2, [1, -9, 0]⟩] = .ok simulation ∧
      PageService.fresh { processes := 3, pages := 3, frames := 2, reclaims := true } =
        .ok start ∧
      3 < halfWordCount ∧
      ∃ report own aloneReport ownAlone, simulation.run = .ok report ∧ report.freeFrames = 2 ∧
        report.clients[1]? = some own ∧
        (alone { processes := 3, pages := 3, frames := 2, reclaims := true }
          ⟨1, 3, [0, 1, 0, 2, 7]⟩).run = .ok aloneReport ∧
        aloneReport.clients = [ownAlone] ∧ own.FaresAs ownAlone 2 := by
  refine ⟨_, _, rfl, rfl, by decide, ?_⟩
  obtain ⟨report, hrun, -, hfree, hclients⟩ := run_isolates
    (show Simulation.of { processes := 3, pages := 3, frames := 2, reclaims := true }
      [⟨0, 3, [2, 1]⟩, ⟨1, 3, [0, 1, 0, 2, 7]⟩, ⟨2, 2, [1, -9, 0]⟩] = .ok _ from rfl)
    rfl (by decide) rfl
  obtain ⟨own, aloneReport, ownAlone, hown, -, halone, hclient, hfares⟩ := hclients 1 _ rfl
  exact ⟨report, own, aloneReport, ownAlone, hrun, hfree, hown, halone, hclient, hfares⟩

end DemandPaging
