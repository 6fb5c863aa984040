import Mathlib.Algebra.Ring.Nat
import DemandPaging.Proofs.Pager.LastUsed
import DemandPaging.Proofs.Simulation.Visits

/-!
# A simulation that reclaims no frames

A process that ends keeps its frames for good, so each process has in its reach the
frames that the earlier ones have left. It takes one for each distinct page that it
legally refers to, as long as there are any, and in the end holds the pages that it
used last. The whole report follows from the reference strings by counting.
-/

namespace DemandPaging

namespace Client

/-- The longest initial part of the references, before any end marker, in which all
pages are legal. -/
def legalReferences (client : Client) (pages : Nat) : List Int :=
  (client.references.takeWhile (· != endMarker)).takeWhile (isWithin · (min client.bound pages))

/-- The pages of the legal references. -/
def legalPages (client : Client) (pages : Nat) : List Nat :=
  (client.legalReferences pages).map Int.toNat

/-- The outcome of the reference behind the legal ones, if there is one and it is not
the end marker. -/
def cutOff (client : Client) (pages : Nat) : List Outcome :=
  match client.references[(client.legalReferences pages).length]? with
  | none => []
  | some page => if page = endMarker then [] else [.illegal]

/-- How a client fares with this number of frames in its reach: without any it starves
at its first legal reference, else it gets a frame for each of them. -/
def Fares (client : Client) (pages reach : Nat) (outcomes : List Outcome) : Prop :=
  if reach = 0 ∧ client.legalReferences pages ≠ [] then outcomes = [.starved]
  else ∃ frames : List Nat, frames.length = (client.legalReferences pages).length ∧
    outcomes = frames.map .frame ++ client.cutOff pages

variable {pid pages : Nat} {bound page : Int} {references : List Int}

theorem legalReferences_cons (hlegal : isWithin page (min bound pages) = true) :
    legalReferences ⟨pid, bound, page :: references⟩ pages =
      page :: legalReferences ⟨pid, bound, references⟩ pages := by
  have hpage : (page != endMarker) = true := by
    rw [isWithin_iff] at hlegal
    simp only [bne_iff_ne, endMarker]
    omega
  simp only [legalReferences, List.takeWhile_cons, hpage, hlegal, if_true]

theorem legalReferences_cons_of_illegal (hillegal : isWithin page (min bound pages) = false) :
    legalReferences ⟨pid, bound, page :: references⟩ pages = [] := by
  rw [legalReferences, List.takeWhile_cons]
  split
  next => rw [List.takeWhile_cons_of_neg (by simp [hillegal])]
  next => rfl

theorem cutOff_cons (hlegal : isWithin page (min bound pages) = true) :
    cutOff ⟨pid, bound, page :: references⟩ pages = cutOff ⟨pid, bound, references⟩ pages := by
  simp only [cutOff, legalReferences_cons hlegal, List.length_cons, List.getElem?_cons_succ]

theorem cutOff_of_legalReferences_nil
    (hnil : legalReferences ⟨pid, bound, page :: references⟩ pages = []) :
    cutOff ⟨pid, bound, page :: references⟩ pages =
      if page = endMarker then [] else [.illegal] := by
  simp only [cutOff, hnil, List.length_nil, List.getElem?_cons_zero]

end Client

namespace ListPager

variable {lists : ListPager} {pid reach : Nat} {bound : Int} {history : List Nat}
  {references : List Int}

/-- Without a legal reference nothing changes but the counters. -/
theorem resolve_of_legalReferences_nil (hpid : pid < lists.processes)
    (hnil : Client.legalReferences ⟨pid, bound, references⟩ lists.pages = []) :
    ∃ counters, (lists.resolve pid bound references).1 = { lists with counters } ∧
      (lists.resolve pid bound references).2.map Resolution.outcome =
        Client.cutOff ⟨pid, bound, references⟩ lists.pages := by
  cases references with
  | nil => exact ⟨lists.counters, rfl, rfl⟩
  | cons page references =>
      have hillegal : isWithin page (min bound lists.pages) = false := by
        by_contra hlegal
        rw [Client.legalReferences_cons (by simpa using hlegal)] at hnil
        exact absurd hnil (by simp)
      by_cases hpage : page = endMarker
      · refine ⟨lists.counters, ?_, ?_⟩
        · rw [resolve, if_pos hpage]
        · rw [Client.cutOff_of_legalReferences_nil hnil, resolve, if_pos hpage, if_pos hpage]
          rfl
      · have hnot : ¬(0 ≤ page ∧ page < min bound lists.pages) :=
          mt isWithin_iff.mpr (by simp [hillegal])
        rw [resolve_cons hpage (access_of_illegal hpid hnot)]
        rw [Client.cutOff_of_legalReferences_nil hnil, if_neg hpage]
        exact ⟨_, rfl, rfl⟩

/-- With a frame in reach, each legal reference gets one, and the process holds the
pages that it used last. -/
theorem Keeps.resolve (hkeeps : lists.Keeps pid reach history) (hreach : 0 < reach)
    (hpid : pid < lists.processes) (bound : Int) (references : List Int) :
    ∃ frames : List Nat,
      frames.length = (Client.legalReferences ⟨pid, bound, references⟩ lists.pages).length ∧
      (lists.resolve pid bound references).2.map Resolution.outcome =
        frames.map .frame ++ Client.cutOff ⟨pid, bound, references⟩ lists.pages ∧
      (lists.resolve pid bound references).1.Keeps pid reach
        (history ++ Client.legalPages ⟨pid, bound, references⟩ lists.pages) ∧
      (lists.resolve pid bound references).1.clock = lists.clock + frames.length := by
  induction references generalizing lists history with
  | nil =>
      refine ⟨[], rfl, rfl, ?_, rfl⟩
      rw [resolve_of_end rfl]
      simpa [Client.legalPages, Client.legalReferences] using hkeeps
  | cons page references ih =>
      cases hlegal : isWithin page (min bound lists.pages) with
      | false =>
          have hnil : Client.legalReferences ⟨pid, bound, page :: references⟩ lists.pages = [] :=
            Client.legalReferences_cons_of_illegal hlegal
          obtain ⟨counters, hnext, houtcomes⟩ := resolve_of_legalReferences_nil hpid hnil
          refine ⟨[], by rw [hnil]; rfl, houtcomes, ?_, by rw [hnext]; rfl⟩
          rw [hnext, Client.legalPages, hnil, List.map_nil, List.append_nil]
          exact hkeeps.recount counters
      | true =>
          obtain ⟨next, resolution, frame, haccess, hframe, hnext, hclock⟩ :=
            hkeeps.access hreach hpid hlegal
          have hsame := sameBut_access lists pid page bound
          rw [haccess] at hsame
          have hpage : page ≠ endMarker := by
            rintro rfl
            exact absurd hlegal (by simp [isWithin, endMarker])
          have hrest : remaining (page :: references) resolution.outcome = references := by
            rw [hframe]
            rfl
          obtain ⟨frames, hlength, houtcomes, hlast, hlastClock⟩ :=
            ih hnext (hsame.processes_eq ▸ hpid)
          rw [hsame.pages_eq] at hlength houtcomes hlast
          rw [Client.legalPages] at hlast ⊢
          rw [resolve_cons hpage haccess, hrest, Client.legalReferences_cons hlegal,
            Client.cutOff_cons hlegal]
          refine ⟨frame :: frames, congrArg (· + 1) hlength, ?_, ?_, ?_⟩
          · simp only [Prod.map, List.map_cons, hframe, houtcomes, List.cons_append]
          · simpa only [Prod.map, id, List.map_cons, List.append_assoc, List.singleton_append]
              using hlast
          · simp only [Prod.map, id, hlastClock, hclock, List.length_cons]
            omega

/-- Without a frame in reach, the first legal reference starves and is the last. -/
theorem resolve_of_reach_zero (hpid : pid < lists.processes) (hfree : lists.free = [])
    (hnil : lists.recent pid = [])
    (hlegal : Client.legalReferences ⟨pid, bound, references⟩ lists.pages ≠ []) :
    ∃ counters, lists.resolve pid bound references = ({ lists with counters }, [.starved]) := by
  cases references with
  | nil => exact absurd rfl hlegal
  | cons page references =>
      have hwithin : isWithin page (min bound lists.pages) = true := by
        by_contra hillegal
        exact hlegal (Client.legalReferences_cons_of_illegal (by simpa using hillegal))
      have hpage : page ≠ endMarker := by
        rintro rfl
        exact absurd hwithin (by simp [isWithin, endMarker])
      have haccess := access_of_legal hpid (isWithin_iff.mp hwithin)
      rw [refer_of_nil hfree hnil] at haccess
      exact ⟨_, resolve_cons hpage haccess⟩

/-- A client without frames of its own fares by the number of free frames, and keeps
the pages that it used last. -/
theorem visit_fares (lists : ListPager) (client : Client) (hpid : client.pid < lists.processes)
    (hnil : lists.recent client.pid = []) :
    client.Fares lists.pages lists.free.length
        ((lists.visit false client).2.map Resolution.outcome) ∧
      (lists.visit false client).1.Keeps client.pid lists.free.length
        (client.legalPages lists.pages) ∧
      (lists.visit false client).1.clock = lists.clock +
        if lists.free.length = 0 then 0 else (client.legalReferences lists.pages).length := by
  have hkeeps := keeps_nil hnil
  by_cases hreach : lists.free.length = 0
  · rw [hreach] at hkeeps ⊢
    have hempty := fun counters => (hkeeps.of_reach_zero (client.legalPages lists.pages)).recount
      counters
    by_cases hlegal : client.legalReferences lists.pages = []
    · obtain ⟨counters, hnext, houtcomes⟩ := resolve_of_legalReferences_nil hpid hlegal
      simp only [visit, hnext, Client.Fares, hlegal, Bool.false_eq_true, if_false, if_true]
      refine ⟨?_, hempty counters, rfl⟩
      rw [if_neg (by simp)]
      exact ⟨[], rfl, houtcomes⟩
    · obtain ⟨counters, hnext⟩ :=
        resolve_of_reach_zero hpid (List.length_eq_zero_iff.mp hreach) hnil hlegal
      simp only [visit, hnext, Client.Fares, Bool.false_eq_true, if_false, if_true]
      refine ⟨?_, hempty counters, rfl⟩
      rw [if_pos ⟨trivial, hlegal⟩]
      rfl
  · obtain ⟨frames, hlength, houtcomes, hlast, hclock⟩ :=
      hkeeps.resolve (Nat.pos_of_ne_zero hreach) hpid client.bound client.references
    refine ⟨?_, hlast, ?_⟩
    · rw [Client.Fares, if_neg fun hstarves => hreach hstarves.1]
      exact ⟨frames, hlength, houtcomes⟩
    · rw [if_neg hreach, ← hlength]
      exact hclock

end ListPager

/-! ## One client after another -/

/-- The frames that are left for the process `pid` when each earlier process keeps the
number of frames in its place of the list. -/
def framesLeft (frames : Nat) (kept : List Nat) (pid : Nat) : Nat :=
  frames - (kept.take pid).sum

theorem framesLeft_cons_succ (frames count : Nat) (kept : List Nat) (index : Nat) :
    framesLeft frames (count :: kept) (index + 1) = framesLeft (frames - count) kept index := by
  rw [framesLeft, List.take_succ_cons, List.sum_cons, Nat.sub_add_eq, framesLeft]

/-- The number of references that get a frame when the clients run one after another
and keep these numbers of frames. -/
def framedReferences (pages frames : Nat) (clients : List Client) (kept : List Nat) : Nat :=
  (clients.zipIdx.map fun (client, index) =>
    if framesLeft frames kept index = 0 then 0 else (client.legalReferences pages).length).sum

theorem framedReferences_cons (pages frames : Nat) (client : Client) (clients : List Client)
    (count : Nat) (kept : List Nat) :
    framedReferences pages frames (client :: clients) (count :: kept) =
      (if frames = 0 then 0 else (client.legalReferences pages).length) +
        framedReferences pages (frames - count) clients kept := by
  rw [framedReferences, List.zipIdx_cons', List.map_cons, List.map_map, List.sum_cons]
  congr 1
  simp only [framedReferences, Function.comp_def, Prod.map, id, framesLeft_cons_succ]

namespace ListPager

/-- How clients fill the free frames one after another, when each of them keeps the
number of frames in its place of the list. -/
structure Fills (lists last : ListPager) (clients : List Client)
    (resolutions : List (List Resolution)) (kept : List Nat) : Prop where
  length_eq : kept.length = clients.length
  client_eq : ∀ index client count, clients[index]? = some client → kept[index]? = some count →
    count = min (framesLeft lists.free.length kept index)
        (client.legalPages lists.pages).toFinset.card ∧
      last.pagesOf client.pid = (lastUsed (client.legalPages lists.pages)).take count ∧
      ∃ own, resolutions[index]? = some own ∧
        client.Fares lists.pages (framesLeft lists.free.length kept index)
          (own.map Resolution.outcome)
  free_eq : last.free.length = lists.free.length - kept.sum
  clock_eq : last.clock = lists.clock +
    framedReferences lists.pages lists.free.length clients kept

variable {first : Nat} {clients : List Client}

/-- Without reclaim, the visits of clients without frames of their own fill the free
frames. -/
theorem visits_fill (lists : ListPager) (hnumbered : Numbered first clients)
    (hlength : first + clients.length ≤ lists.processes)
    (hnil : ∀ pid, first ≤ pid → lists.recent pid = []) :
    ∃ kept, lists.Fills (lists.visits false clients).1 clients (lists.visits false clients).2
      kept := by
  induction clients generalizing first lists with
  | nil => exact ⟨[], rfl, by simp, by simp [visits], by simp [visits, framedReferences]⟩
  | cons client clients ih =>
      rw [List.length_cons] at hlength
      obtain rfl := hnumbered.head
      have hsame := sameBut_visit lists false client
      obtain ⟨hfares, hkeeps, hclock⟩ :=
        visit_fares lists client (by omega) (hnil _ (Nat.le_refl _))
      have hvisits : lists.visits false (client :: clients) =
          (((lists.visit false client).1.visits false clients).1,
            (lists.visit false client).2 ::
              ((lists.visit false client).1.visits false clients).2) := rfl
      rw [hvisits]
      generalize (lists.visit false client).1 = next at *
      have hafter : next.free.length = lists.free.length - min lists.free.length
          (client.legalPages lists.pages).toFinset.card := by
        have hreach := hkeeps.reach_eq
        rw [hkeeps.length_pagesOf] at hreach
        omega
      obtain ⟨kept, hkept, hclients, hfree, hlastClock⟩ := ih next hnumbered.tail
        (by rw [hsame.processes_eq]; omega)
        (fun pid hpid => (hsame.recent_eq pid (by omega)).trans (hnil pid (by omega)))
      rw [hafter, hsame.pages_eq] at hclients hlastClock
      rw [hafter] at hfree
      refine ⟨min lists.free.length (client.legalPages lists.pages).toFinset.card :: kept,
        congrArg (· + 1) hkept, ?_, ?_, ?_⟩
      · intro index other count hother hcount
        cases index with
        | zero =>
            obtain rfl := Option.some.inj hother
            obtain rfl := Option.some.inj hcount
            have hlater := (sameAt_visits next false clients
              fun other hmem => Nat.ne_of_gt (hnumbered.tail.pid_ge hmem)).1
            refine ⟨rfl, ?_, _, rfl, hfares⟩
            rw [← length_lastUsed, ← List.take_eq_take_min, ← hkeeps.pagesOf_eq, pagesOf, pagesOf,
              hlater]
        | succ index =>
            rw [framesLeft_cons_succ]
            exact hclients index other count hother hcount
      · rw [hfree, List.sum_cons, Nat.sub_add_eq]
      · rw [hlastClock, hclock, framedReferences_cons, Nat.add_assoc]

end ListPager

/-- What a report says of a process with so many frames in its reach, if it keeps
`count` of them: how it fares, and that its resident pages are the ones used last. -/
structure Report.Accounts (report : Report) (pid : Nat) (client : Client)
    (pages reach count : Nat) : Prop where
  count_eq : count = min reach (client.legalPages pages).toFinset.card
  fares : ∃ own, report.clients[pid]? = some own ∧ own.pid = pid ∧
    client.Fares pages reach own.outcomes
  resident_perm : ((report.resident.filter (·.pid == pid)).map (·.page)).Perm
    ((lastUsed (client.legalPages pages)).take count)

/-- What a report says if the processes keep these numbers of frames, each of them
reaching those that the earlier ones have left. -/
structure Report.FillsFrames (report : Report) (settings : Settings) (clients : List Client)
    (kept : List Nat) : Prop where
  length_eq : kept.length = clients.length
  accounts : ∀ pid client count, clients[pid]? = some client → kept[pid]? = some count →
    report.Accounts pid client settings.pages (framesLeft settings.frames kept pid) count
  freeFrames_eq : report.freeFrames = settings.frames - kept.sum
  clock_eq : report.clock = framedReferences settings.pages settings.frames clients kept

namespace Simulation

variable {simulation : Simulation} {settings : Settings} {clients : List Client}
  {start : PageService}

/-- Without reclaim, a simulation runs to a report that follows from the reference
strings by counting: each process keeps one frame for each distinct page of its legal
references, as long as the earlier ones have left any. -/
theorem run_fills_frames (hof : of settings clients = .ok simulation)
    (hstart : PageService.fresh settings = .ok start) (hpages : settings.pages < halfWordCount)
    (hreclaims : settings.reclaims = false) :
    ∃ report kept, simulation.run = .ok report ∧ report.FillsFrames settings clients kept := by
  have hrun := run_eq_listReport hof hstart hpages
  obtain ⟨rfl, hlength, hnumbered⟩ := of_eq_ok hof
  let lists := ListPager.fresh settings.processes settings.pages settings.frames
  have hprocesses : lists.processes = settings.processes := rfl
  have hfree : lists.free.length = settings.frames := List.length_range
  obtain ⟨kept, hkept, hclients, hlastFree, hclock⟩ := ListPager.visits_fill lists
    hnumbered (by omega) (fun _ _ => rfl)
  have hvisits : visits { settings, clients } = lists.visits false clients := by
    rw [visits, hreclaims]
  rw [← hvisits, hfree] at hclients hlastFree hclock
  refine ⟨_, kept, hrun, hkept, ?_, hlastFree, hclock.trans (Nat.zero_add _)⟩
  intro pid client count hclient hcount
  obtain ⟨hcountEq, hpagesOf, own, hown, hfares⟩ := hclients pid client count hclient hcount
  have hpid : client.pid = pid := by rw [hnumbered pid client hclient, Nat.zero_add]
  refine ⟨hcountEq, ⟨⟨client.pid, client.bound, own.map Resolution.outcome,
    (visits { settings, clients }).1.counters client.pid⟩, ?_, hpid, hfares⟩, ?_⟩
  · simp only [listReport, List.getElem?_zipWith, hclient, hown]
  · have hindex := (List.getElem?_eq_some_iff.mp hclient).1
    have hknown : pid < (visits { settings, clients }).1.processes := by
      rw [hvisits, ListPager.visits_processes]
      omega
    rw [hpid] at hpagesOf
    exact (ListPager.perm_resident hknown).trans (.of_eq hpagesOf)

/-- Of three frames the first process keeps two and the second one the last, which
leaves none for the third. -/
theorem run_fills_three_frames :
    ∃ simulation start,
      Simulation.of { processes := 3, pages := 3, frames := 3 }
        [⟨0, 3, [0, 1, 0, -9, 2]⟩, ⟨1, 3, [2, 1, 7]⟩, ⟨2, 3, [0]⟩] = .ok simulation ∧
      PageService.fresh { processes := 3, pages := 3, frames := 3 } = .ok start ∧
      3 < halfWordCount ∧
      ∃ report kept, simulation.run = .ok report ∧
        report.FillsFrames { processes := 3, pages := 3, frames := 3 }
          [⟨0, 3, [0, 1, 0, -9, 2]⟩, ⟨1, 3, [2, 1, 7]⟩, ⟨2, 3, [0]⟩] kept :=
  ⟨_, _, rfl, rfl, by decide, run_fills_frames rfl rfl (by decide) rfl⟩

end Simulation

end DemandPaging
