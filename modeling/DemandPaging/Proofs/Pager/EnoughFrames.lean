import DemandPaging.Proofs.List.FirstOccurrence
import DemandPaging.Proofs.Pager.Interleaving
import DemandPaging.Proofs.Pager.Ledger
import DemandPaging.Proofs.Pager.Starvation

/-!
# Enough frames

As long as there is a frame for every page that legal references name, no page is ever
replaced. The frames go out in the order in which the pages are first named, so the whole
log follows from the references alone.
-/

namespace DemandPaging

/-- The page that a reference names, with its process. -/
def Reference.target (reference : Reference) : Owner := ⟨reference.pid, reference.page.toNat⟩

/-- A resolution without the name of its frame. -/
def Resolution.anonymous (resolution : Resolution) : Resolution := resolution.rename fun _ => 0

namespace Pager

instance (pager : Pager) (reference : Reference) : Decidable (pager.Admits reference) :=
  inferInstanceAs (Decidable (_ ∧ _))

/-- The pages that legal references name, in order, each as often as it is named. -/
def named (pager : Pager) (references : List Reference) : List Owner :=
  (references.filter fun reference => pager.Admits reference).map Reference.target

/-- How a reference is resolved after earlier ones, if frames go out in the order in which
pages are first named. -/
def resolutionInTurn (pager : Pager) (earlier : List Reference) (reference : Reference) :
    Resolution :=
  if pager.Admits reference then
    let frame := (pager.named earlier).eraseDups.idxOf reference.target
    if reference.target ∈ pager.named earlier then .hit frame else .loaded frame
  else .illegal

/-- The log of references after earlier ones, each of them resolved in its turn. -/
def logInTurn (pager : Pager) (earlier : List Reference) :
    List Reference → List (Reference × Resolution)
  | [] => []
  | reference :: references =>
    (reference, pager.resolutionInTurn earlier reference) ::
      pager.logInTurn (earlier ++ [reference]) references

variable {start pager next : Pager} {reference : Reference} {earlier references : List Reference}
  {pid : Nat}

/-! ## The pages named so far -/

theorem named_append (pager : Pager) (earlier later : List Reference) :
    pager.named (earlier ++ later) = pager.named earlier ++ pager.named later := by
  rw [named, List.filter_append, List.map_append]
  rfl

theorem named_concat_of_admits (hadmits : start.Admits reference) (earlier : List Reference) :
    start.named (earlier ++ [reference]) = start.named earlier ++ [reference.target] := by
  rw [named_append]
  simp [named, hadmits]

theorem named_concat_of_not_admits (hnot : ¬start.Admits reference) (earlier : List Reference) :
    start.named (earlier ++ [reference]) = start.named earlier := by
  rw [named_append]
  simp [named, hnot]

/-- What a process has named depends on its own references only. -/
theorem mem_named_filter {owner : Owner} :
    owner ∈ start.named (earlier.filter (·.pid == owner.pid)) ↔ owner ∈ start.named earlier := by
  simp only [named, List.mem_map, List.mem_filter, beq_iff_eq]
  constructor
  · rintro ⟨reference, ⟨⟨hmem, -⟩, hadmits⟩, htarget⟩
    exact ⟨reference, ⟨hmem, hadmits⟩, htarget⟩
  · rintro ⟨reference, ⟨hmem, hadmits⟩, rfl⟩
    exact ⟨reference, ⟨⟨hmem, rfl⟩, hadmits⟩, rfl⟩

/-- The distinct pages named by some references come first among those named by more. -/
theorem prefix_eraseDups_named (pager : Pager) (earlier later : List Reference) :
    (pager.named earlier).eraseDups <+: (pager.named (earlier ++ later)).eraseDups := by
  rw [named_append, List.eraseDups_append]
  exact List.prefix_append _ _

theorem length_eraseDups_named_le (pager : Pager) (earlier later : List Reference) :
    (pager.named earlier).eraseDups.length ≤
      (pager.named (earlier ++ later)).eraseDups.length :=
  (prefix_eraseDups_named pager earlier later).length_le

/-- The number of a page among the distinct ones is fixed when the page is first named. -/
theorem idxOf_target_named (hadmits : start.Admits reference) (before after : List Reference) :
    (start.named (before ++ reference :: after)).eraseDups.idxOf reference.target =
      (start.named before).eraseDups.idxOf reference.target := by
  have hsplit : before ++ reference :: after = before ++ [reference] ++ after := by simp
  obtain ⟨rest, hrest⟩ := prefix_eraseDups_named start (before ++ [reference]) after
  rw [hsplit, ← hrest, named_concat_of_admits hadmits]
  by_cases hmem : reference.target ∈ start.named before
  · rw [eraseDups_concat_of_mem hmem, List.idxOf_append_of_mem (List.mem_eraseDups.mpr hmem)]
  · have hnot : reference.target ∉ (start.named before).eraseDups := mt List.mem_eraseDups.mp hmem
    rw [eraseDups_concat_of_notMem hmem, List.idxOf_append_of_mem (by simp), List.idxOf_append,
      if_neg hnot, List.idxOf_cons_self, Nat.zero_add, List.idxOf_eq_length hnot]

/-! ## One reference -/

/-- The frames have gone out in turn: the next free frame is the number of distinct pages
named so far, and each of these has its place among them for a frame. -/
structure Dealt (start pager : Pager) (earlier : List Reference) : Prop where
  coherent : pager.Coherent none
  sameShape : start.SameShape pager
  free_eq : pager.pool.toList =
    (List.range start.pool.total).drop (start.named earlier).eraseDups.length
  frame_iff : ∀ pid page frame, (pager.tables.cell pid page).frame = some frame ↔
    (start.named earlier).eraseDups[frame]? = some ⟨pid, page⟩
  faults_eq : ∀ pid, (pager.countersOf pid).faults =
    (start.named earlier).eraseDups.countP (·.pid == pid)

theorem dealt_fresh {processes pages frames : Nat}
    (hfresh : fresh processes pages frames = .ok start) : start.Dealt start [] := by
  obtain ⟨-, -, htotal, hlist, -, -, -, hcounters, hcells⟩ := fresh_eq_ok hfresh
  refine ⟨fresh_coherent hfresh, .refl start, ?_, ?_, ?_⟩
  · rw [hlist, htotal]
    rfl
  · intro pid page frame
    simp [hcells, named]
  · intro pid
    simp only [countersOf, hcounters, Array.getElem?_replicate]
    split <;> rfl

namespace Dealt

variable {resolution : Resolution}

theorem admits_iff (hdealt : start.Dealt pager earlier) :
    pager.Admits reference ↔ start.Admits reference := by
  rw [Admits, Admits, limit, limit, hdealt.sameShape.processes_eq, hdealt.sameShape.pages_eq]

/-- A page has a frame if a reference has named it. -/
theorem frame_eq_none_iff (hdealt : start.Dealt pager earlier) {page : Nat} :
    (pager.tables.cell pid page).frame = none ↔ ⟨pid, page⟩ ∉ start.named earlier := by
  rw [← List.mem_eraseDups, List.mem_iff_getElem?, Option.eq_none_iff_forall_ne_some, not_exists]
  exact forall_congr' fun frame => not_congr (hdealt.frame_iff pid page frame)

/-- A reference that names no new page, moves no frame and counts no fault leaves the frames
dealt in turn. -/
theorem of_same (hdealt : start.Dealt pager earlier) (hcoherent : next.Coherent none)
    (hshape : pager.SameShape next) (hpool : next.pool = pager.pool)
    (hframes : ∀ pid page,
      (next.tables.cell pid page).frame = (pager.tables.cell pid page).frame)
    (hfaults : ∀ pid, (next.countersOf pid).faults = (pager.countersOf pid).faults)
    (hnamed : (start.named (earlier ++ [reference])).eraseDups =
      (start.named earlier).eraseDups) : start.Dealt next (earlier ++ [reference]) := by
  refine ⟨hcoherent, hdealt.sameShape.trans hshape, ?_, ?_, ?_⟩
  · rw [hpool, hnamed]
    exact hdealt.free_eq
  · intro pid page frame
    rw [hframes, hnamed]
    exact hdealt.frame_iff pid page frame
  · intro pid
    rw [hfaults, hnamed]
    exact hdealt.faults_eq pid

theorem faults_eq_of_access (hcoherent : pager.Coherent none) {page bound : Int}
    (haccess : pager.access pid page bound = .ok (next, resolution)) (other : Nat) :
    (next.countersOf other).faults = (pager.countersOf other).faults +
      if other = pid then resolution.isFault.toNat else 0 := by
  obtain ⟨hothers, hown⟩ := countersOf_of_access hcoherent haccess
  by_cases hsame : other = pid
  · subst hsame
    rw [if_pos rfl]
    rcases hown with ⟨-, hrecord⟩ | ⟨-, rfl, rfl⟩
    · rw [hrecord, Counters.faults_record]
    · rfl
  · rw [if_neg hsame, hothers other hsame, Nat.add_zero]

theorem access_of_not_admits (hdealt : start.Dealt pager earlier)
    (hnot : ¬start.Admits reference) :
    ∃ next, pager.access reference.pid reference.page reference.bound = .ok (next, .illegal) ∧
      start.Dealt next (earlier ++ [reference]) := by
  have hcoherent := hdealt.coherent
  have hnamed := congrArg List.eraseDups (named_concat_of_not_admits hnot earlier)
  have hfaults : ∀ next, pager.access reference.pid reference.page reference.bound =
      .ok (next, .illegal) →
      ∀ pid, (next.countersOf pid).faults = (pager.countersOf pid).faults := by
    intro next haccess pid
    rw [faults_eq_of_access hcoherent haccess]
    simp [Resolution.isFault]
  rcases access_eq hcoherent reference.pid reference.page reference.bound with
    ⟨-, heq⟩ | ⟨-, -, heq⟩ | ⟨hpid, hwithin, -⟩
  · exact ⟨_, heq, hdealt.of_same hcoherent (.refl pager) rfl (fun _ _ => rfl) (fun _ => rfl)
      hnamed⟩
  · exact ⟨_, heq, hdealt.of_same (hcoherent.tally _) (sameShape_tally _) rfl (fun _ _ => rfl)
      (hfaults _ heq) hnamed⟩
  · exact absurd (hdealt.admits_iff.mp ⟨hpid, hwithin⟩) hnot

/-- A page that was named before is found in its frame. -/
theorem access_of_mem (hdealt : start.Dealt pager earlier) (hadmits : start.Admits reference)
    (hmem : reference.target ∈ start.named earlier) :
    ∃ next, pager.access reference.pid reference.page reference.bound =
        .ok (next, .hit ((start.named earlier).eraseDups.idxOf reference.target)) ∧
      start.Dealt next (earlier ++ [reference]) := by
  have hcoherent := hdealt.coherent
  have hframe : (pager.tables.cell reference.pid reference.page.toNat).frame =
      some ((start.named earlier).eraseDups.idxOf reference.target) :=
    (hdealt.frame_iff _ _ _).mpr (List.getElem?_idxOf (List.mem_eraseDups.mpr hmem))
  obtain ⟨hpid, hwithin⟩ := hdealt.admits_iff.mpr hadmits
  rcases access_eq hcoherent reference.pid reference.page reference.bound with
    ⟨hunknown, -⟩ | ⟨-, hillegal, -⟩ | ⟨-, -, next, resolution, hresolves, heq⟩
  · exact absurd hpid (Nat.not_lt.mpr hunknown)
  · exact absurd (hillegal.symm.trans hwithin) (by simp)
  · cases hresolves with
    | hit hfound =>
        obtain rfl := Option.some.inj (hfound.symm.trans hframe)
        obtain ⟨hnext, hshape⟩ := coherent_of_access hcoherent heq
        refine ⟨_, heq, hdealt.of_same hnext hshape rfl ?_ ?_ ?_⟩
        · intro pid page
          simp only [tally, touched, PageTables.cell_write hpid (hcoherent.page_lt hframe)]
          split
          next hsame => rw [hsame.1, hsame.2]
          next => rfl
        · intro pid
          rw [faults_eq_of_access hcoherent heq]
          simp [Resolution.isFault]
        · rw [named_concat_of_admits hadmits, eraseDups_concat_of_mem hmem]
    | loaded hnot | replaced hnot => exact absurd (hnot.symm.trans hframe) (by simp)
    | starved _ hnone => exact absurd ((hnone _).symm.trans hframe) (by simp)

/-- A page that is named for the first time gets the next free frame. -/
theorem access_of_notMem (hdealt : start.Dealt pager earlier) (hadmits : start.Admits reference)
    (hnot : reference.target ∉ start.named earlier)
    (hroom : (start.named earlier).eraseDups.length < start.pool.total) :
    ∃ next, pager.access reference.pid reference.page reference.bound =
        .ok (next, .loaded ((start.named earlier).eraseDups.idxOf reference.target)) ∧
      start.Dealt next (earlier ++ [reference]) := by
  have hcoherent := hdealt.coherent
  have hnone := hdealt.frame_eq_none_iff.mpr hnot
  have hplace : (start.named earlier).eraseDups.idxOf reference.target =
      (start.named earlier).eraseDups.length :=
    List.idxOf_eq_length (mt List.mem_eraseDups.mp hnot)
  have hfree := hdealt.free_eq
  rw [List.drop_eq_getElem_cons (by simpa using hroom), List.getElem_range] at hfree
  obtain ⟨hpid, hwithin⟩ := hdealt.admits_iff.mpr hadmits
  rcases access_eq hcoherent reference.pid reference.page reference.bound with
    ⟨hunknown, -⟩ | ⟨-, hillegal, -⟩ | ⟨-, -, next, resolution, hresolves, heq⟩
  · exact absurd hpid (Nat.not_lt.mpr hunknown)
  · exact absurd (hillegal.symm.trans hwithin) (by simp)
  · cases hresolves with
    | hit hfound => exact absurd (hfound.symm.trans hnone) (by simp)
    | @loaded frame pool _ hcons htotal =>
        obtain ⟨rfl, hrest⟩ := List.cons.inj (hcons.symm.trans hfree)
        obtain ⟨hnext, hshape⟩ := coherent_of_access hcoherent heq
        rw [hplace]
        refine ⟨_, heq, hnext, hdealt.sameShape.trans hshape, ?_, ?_, ?_⟩
        all_goals rw [named_concat_of_admits hadmits, eraseDups_concat_of_notMem hnot]
        · rw [List.length_append]
          exact hrest
        · intro pid page frame
          simp only [tally, assigned, PageTables.cell_write hpid (toNat_lt_of_isWithin hwithin)]
          rw [getElem?_concat_eq_some]
          split
          next hsame =>
            obtain ⟨rfl, rfl⟩ := hsame
            have hnever : (start.named earlier).eraseDups[frame]? ≠
                some ⟨reference.pid, reference.page.toNat⟩ :=
              fun hold => hnot (List.mem_eraseDups.mp (List.mem_of_getElem? hold))
            rw [or_iff_right hnever]
            simp [Reference.target, eq_comm]
          next hne =>
            rw [hdealt.frame_iff]
            have hother : reference.target ≠ ⟨pid, page⟩ := by
              simpa [Reference.target, eq_comm] using hne
            simp [hother]
        · intro pid
          rw [faults_eq_of_access hcoherent heq, hdealt.faults_eq, List.countP_append,
            List.countP_singleton]
          simp only [Resolution.isFault, Bool.toNat_true, Reference.target, beq_iff_eq,
            eq_comm (a := pid)]
    | replaced _ hnil | starved hnil => exact absurd (hnil.symm.trans hfree) (by simp)

/-- A reference is resolved in its turn, if there is a frame for its page. -/
theorem access (hdealt : start.Dealt pager earlier) (reference : Reference)
    (hroom : (start.named (earlier ++ [reference])).eraseDups.length ≤ start.pool.total) :
    ∃ next, pager.access reference.pid reference.page reference.bound =
        .ok (next, start.resolutionInTurn earlier reference) ∧
      start.Dealt next (earlier ++ [reference]) := by
  unfold resolutionInTurn
  by_cases hadmits : start.Admits reference
  · by_cases hmem : reference.target ∈ start.named earlier
    · simp only [if_pos hadmits, if_pos hmem]
      exact hdealt.access_of_mem hadmits hmem
    · simp only [if_pos hadmits, if_neg hmem]
      rw [named_concat_of_admits hadmits, eraseDups_concat_of_notMem hmem,
        List.length_append] at hroom
      exact hdealt.access_of_notMem hadmits hmem hroom
  · rw [if_neg hadmits]
    exact hdealt.access_of_not_admits hadmits

end Dealt

/-! ## Many references -/

/-- All references are resolved in turn, if there is a frame for each page. -/
theorem Dealt.accessAll (hdealt : start.Dealt pager earlier)
    (hroom : (start.named (earlier ++ references)).eraseDups.length ≤ start.pool.total) :
    ∃ last, pager.accessAll references = .ok (last, start.logInTurn earlier references) ∧
      start.Dealt last (earlier ++ references) := by
  induction references generalizing pager earlier with
  | nil => exact ⟨pager, rfl, by rwa [List.append_nil]⟩
  | cons reference references ih =>
      have happend : earlier ++ reference :: references =
          earlier ++ [reference] ++ references := by simp
      rw [happend] at hroom ⊢
      obtain ⟨next, haccess, hnext⟩ :=
        hdealt.access reference ((length_eraseDups_named_le start _ _).trans hroom)
      obtain ⟨last, hrest, hlast⟩ := ih hnext hroom
      exact ⟨last, accessAll_cons haccess hrest, hlast⟩

theorem getElem?_logInTurn (start : Pager) (earlier before after : List Reference)
    (reference : Reference) :
    (start.logInTurn earlier (before ++ reference :: after))[before.length]? =
      some (reference, start.resolutionInTurn (earlier ++ before) reference) := by
  induction before generalizing earlier with
  | nil => simp [logInTurn]
  | cons head before ih => simpa [logInTurn] using ih (earlier ++ [head])

/-- A reference in its turn neither takes a frame from a page nor goes without one. -/
theorem resolutionInTurn_ne (start : Pager) (earlier : List Reference) (reference : Reference) :
    start.resolutionInTurn earlier reference ≠ .starved ∧
      ∀ frame victim, start.resolutionInTurn earlier reference ≠ .replaced frame victim := by
  unfold resolutionInTurn
  split
  next => split <;> simp
  next => simp

theorem exists_of_mem_logInTurn {entry : Reference × Resolution}
    (hmem : entry ∈ start.logInTurn earlier references) :
    ∃ before, entry.2 = start.resolutionInTurn before entry.1 := by
  induction references generalizing earlier with
  | nil => exact absurd hmem (by simp [logInTurn])
  | cons reference references ih =>
      rcases List.mem_cons.mp hmem with rfl | hlater
      · exact ⟨earlier, rfl⟩
      · exact ih hlater

theorem anonymous_resolutionInTurn (start : Pager) (earlier : List Reference)
    (reference : Reference) :
    (start.resolutionInTurn (earlier.filter (·.pid == reference.pid)) reference).anonymous =
      (start.resolutionInTurn earlier reference).anonymous := by
  have hmem : reference.target ∈ start.named (earlier.filter (·.pid == reference.pid)) ↔
      reference.target ∈ start.named earlier := mem_named_filter
  simp only [resolutionInTurn, hmem]
  split
  next =>
    split
    next => rfl
    next => rfl
  next => rfl

/-- What a process is told, the frames apart, depends on its own references only. -/
theorem anonymous_logInTurn (start : Pager) (pid : Nat) (earlier references : List Reference) :
    (resolutionsOf pid (start.logInTurn earlier references)).map Resolution.anonymous =
      (start.logInTurn (earlier.filter (·.pid == pid)) (references.filter (·.pid == pid))).map
        (·.2.anonymous) := by
  induction references generalizing earlier with
  | nil => rfl
  | cons reference references ih =>
      have hrest := ih (earlier ++ [reference])
      rw [List.filter_append] at hrest
      by_cases hpid : reference.pid = pid
      · subst hpid
        rw [List.filter_singleton, beq_self_eq_true] at hrest
        rw [List.filter_cons_of_pos (by simp), logInTurn, logInTurn, List.map_cons,
          anonymous_resolutionInTurn, resolutionsOf, List.filter_cons_of_pos (by simp)]
        exact congrArg (List.cons _) hrest
      · rw [List.filter_singleton, beq_false_of_ne hpid, cond_false, List.append_nil] at hrest
        rw [List.filter_cons_of_neg (by simpa using hpid), logInTurn, ← hrest, resolutionsOf,
          List.filter_cons_of_neg (by simpa using hpid)]
        rfl

theorem named_perm {others : List Reference} (hperm : references.Perm others) :
    (start.named references).Perm (start.named others) :=
  (hperm.filter _).map _

/-- A fresh pager with a frame for every page that legal references name replaces no page
and lets no reference starve: the first reference to a page gets the frame that has its
number in the order of first references, and later ones find the page there. The faults of
a process are its distinct pages, and how the references of the processes are interleaved
makes no difference to what each is told, but for the frames. -/
theorem enough_frames_go_out_in_turn {processes pages frames : Nat}
    (hfresh : fresh processes pages frames = .ok start) (references : List Reference)
    (hroom : (start.named references).eraseDups.length ≤ frames) :
    ∃ last log, start.accessAll references = .ok (last, log) ∧
      (∀ entry ∈ log, entry.2 ≠ .starved ∧ ∀ frame victim, entry.2 ≠ .replaced frame victim) ∧
      (∀ before reference after, references = before ++ reference :: after →
        ∃ resolution, log[before.length]? = some (reference, resolution) ∧
          (¬start.Admits reference → resolution = .illegal) ∧
          ∀ place, start.Admits reference →
            (start.named references).eraseDups[place]? = some reference.target →
            resolution =
              if reference.target ∈ start.named before then .hit place else .loaded place) ∧
      (∀ pid, (last.countersOf pid).faults =
        (start.named references).eraseDups.countP (·.pid == pid)) ∧
      ∀ others : List Reference,
        (∀ pid, references.filter (·.pid == pid) = others.filter (·.pid == pid)) →
        ∃ otherLast otherLog, start.accessAll others = .ok (otherLast, otherLog) ∧
          ∀ pid, (resolutionsOf pid log).map Resolution.anonymous =
            (resolutionsOf pid otherLog).map Resolution.anonymous := by
  obtain ⟨-, -, htotal, -⟩ := fresh_eq_ok hfresh
  have hstart := dealt_fresh hfresh
  rw [← htotal] at hroom
  obtain ⟨last, hrun, hlast⟩ := hstart.accessAll hroom
  refine ⟨last, _, hrun, ?_, ?_, hlast.faults_eq, ?_⟩
  · intro entry hmem
    obtain ⟨before, hentry⟩ := exists_of_mem_logInTurn hmem
    rw [hentry]
    exact resolutionInTurn_ne start before entry.1
  · rintro before reference after rfl
    refine ⟨_, getElem?_logInTurn start [] before after reference, ?_, ?_⟩
    · intro hnot
      rw [resolutionInTurn, if_neg hnot]
    · intro place hadmits hplace
      obtain ⟨hlt, hget⟩ := List.getElem?_eq_some_iff.mp hplace
      have hnumber := (nodup_eraseDups _).idxOf_getElem place hlt
      rw [hget, idxOf_target_named hadmits] at hnumber
      rw [List.nil_append, resolutionInTurn, if_pos hadmits, hnumber]
  · intro others hsame
    have hperm := perm_of_filter_eq Reference.pid hsame
    rw [length_eraseDups_of_perm (named_perm hperm)] at hroom
    obtain ⟨otherLast, hotherRun, -⟩ := hstart.accessAll hroom
    refine ⟨otherLast, _, hotherRun, fun pid => ?_⟩
    rw [anonymous_logInTurn, anonymous_logInTurn, hsame]

/-- Two processes on three frames, with references that are illegal or of an unknown process
in between: the last page named gets the last frame. -/
theorem three_frames_go_out_in_turn :
    ∃ start last log, fresh 2 4 3 = .ok start ∧
      (start.named [⟨1, 2, 4⟩, ⟨0, 2, 2⟩, ⟨0, 2, 4⟩, ⟨7, 0, 4⟩, ⟨1, 2, 3⟩, ⟨1, 0, 1⟩,
        ⟨0, 2, 9⟩]).eraseDups.length ≤ 3 ∧
      start.accessAll [⟨1, 2, 4⟩, ⟨0, 2, 2⟩, ⟨0, 2, 4⟩, ⟨7, 0, 4⟩, ⟨1, 2, 3⟩, ⟨1, 0, 1⟩,
        ⟨0, 2, 9⟩] = .ok (last, log) ∧
      log[5]? = some (⟨1, 0, 1⟩, .loaded 2) ∧ log[6]? = some (⟨0, 2, 9⟩, .hit 1) ∧
      (last.countersOf 1).faults = 2 := by
  obtain ⟨last, log, hrun, -, hplaces, hfaults, -⟩ :=
    enough_frames_go_out_in_turn (show fresh 2 4 3 = .ok _ from rfl)
      [⟨1, 2, 4⟩, ⟨0, 2, 2⟩, ⟨0, 2, 4⟩, ⟨7, 0, 4⟩, ⟨1, 2, 3⟩, ⟨1, 0, 1⟩, ⟨0, 2, 9⟩] (by decide)
  obtain ⟨resolution, hfirst, -, hresolution⟩ := hplaces
    [⟨1, 2, 4⟩, ⟨0, 2, 2⟩, ⟨0, 2, 4⟩, ⟨7, 0, 4⟩, ⟨1, 2, 3⟩] ⟨1, 0, 1⟩ [⟨0, 2, 9⟩] rfl
  obtain rfl := hresolution 2 (by decide) (by decide)
  obtain ⟨resolution, hagain, -, hresolution⟩ := hplaces
    [⟨1, 2, 4⟩, ⟨0, 2, 2⟩, ⟨0, 2, 4⟩, ⟨7, 0, 4⟩, ⟨1, 2, 3⟩, ⟨1, 0, 1⟩] ⟨0, 2, 9⟩ [] rfl
  obtain rfl := hresolution 1 (by decide) (by decide)
  exact ⟨_, last, log, rfl, by decide, hrun, hfirst, hagain, (hfaults 1).trans (by decide)⟩

end Pager

end DemandPaging
