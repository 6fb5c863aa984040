import DemandPaging.Proofs.Pager.Conservation
import DemandPaging.Proofs.Pager.Isolation
import DemandPaging.Proofs.Pager.References

/-!
# Interleaving of references

A process that finds no free frame lives on its own frames. Once the pool is empty the
processes have nothing in common but the clock, so how their references are interleaved
makes no difference to any of them: only the times of use depend on it.
-/

namespace DemandPaging

/-- Lists that agree on each part, as told by a key, are the same up to their order. -/
theorem perm_of_filter_eq {α κ : Type} [DecidableEq α] [DecidableEq κ] (keyOf : α → κ)
    {items others : List α}
    (hsame : ∀ key, items.filter (keyOf · == key) = others.filter (keyOf · == key)) :
    items.Perm others := by
  rw [List.perm_iff_count]
  intro item
  have hpart : ∀ list : List α, (list.filter (keyOf · == keyOf item)).count item =
      list.count item := fun list => List.count_filter (by simp)
  rw [← hpart items, ← hpart others, hsame]

theorem renameFrames_id (recent : List (Nat × Nat)) : renameFrames id recent = recent :=
  List.map_id recent

theorem Resolution.rename_id (resolution : Resolution) : resolution.rename id = resolution := by
  cases resolution <;> rfl

namespace ListPager

variable {lists alone : ListPager} {pid : Nat}

/-! ## Without a free frame -/

theorem free_access_of_nil (hnil : lists.free = []) (pid : Nat) (page bound : Int) :
    (lists.access pid page bound).1.free = [] := by
  have hrefer : (lists.refer pid page.toNat).1.free = [] := by
    unfold refer
    split
    next => exact hnil
    next =>
      split
      next hcons => exact absurd (hnil.symm.trans hcons) (by simp)
      next => split <;> exact hnil
  unfold access
  split
  next =>
    split
    next => exact hrefer
    next => exact hnil
  next => exact hnil

/-- What a process meets with is what it meets with when only its own references are made. -/
theorem Renames.accessAll (hrenames : Renames id pid pid alone lists) (hnil : lists.free = [])
    (references : List Reference) :
    (lists.accessAll references).2.filter (·.1.pid == pid) =
        (alone.accessAll (references.filter (·.pid == pid))).2 ∧
      Renames id pid pid (alone.accessAll (references.filter (·.pid == pid))).1
        (lists.accessAll references).1 := by
  induction references generalizing alone lists with
  | nil => exact ⟨rfl, hrenames⟩
  | cons reference references ih =>
      obtain ⟨sender, page, bound⟩ := reference
      have hfree := free_access_of_nil hnil sender page bound
      rw [accessAll_cons]
      by_cases hsender : sender = pid
      · subst hsender
        obtain ⟨hresolution, hnext⟩ := hrenames.access page bound
        rw [Resolution.rename_id] at hresolution
        obtain ⟨hlog, hlast⟩ := ih hnext hfree
        rw [List.filter_cons_of_pos (by simp), List.filter_cons_of_pos (by simp),
          accessAll_cons]
        exact ⟨List.cons_eq_cons.mpr ⟨congrArg _ hresolution, hlog⟩, hlast⟩
      · have hsame := sameBut_access lists sender page bound
        rw [List.filter_cons_of_neg (by simpa using hsender),
          List.filter_cons_of_neg (by simpa using hsender)]
        -- The reference of another process leaves alone all that this one goes by.
        refine ih ⟨?_, ?_, ?_, ?_, ?_⟩ hfree
        · rw [hsame.processes_eq]
          exact hrenames.known_iff
        · exact hsame.pages_eq.trans hrenames.pages_eq
        · exact (hsame.recent_eq pid (Ne.symm hsender)).trans hrenames.recent_eq
        · rw [hfree, ← hnil]
          exact hrenames.free_eq
        · exact (hsame.counters_eq pid (Ne.symm hsender)).trans hrenames.counters_eq

/-- What becomes of a process does not depend on how its references are interleaved with
those of the others. -/
theorem accessAll_agrees (hnil : lists.free = []) {references others : List Reference}
    (hsame : references.filter (·.pid == pid) = others.filter (·.pid == pid)) :
    (lists.accessAll references).2.filter (·.1.pid == pid) =
        (lists.accessAll others).2.filter (·.1.pid == pid) ∧
      (lists.accessAll references).1.recent pid = (lists.accessAll others).1.recent pid ∧
      (lists.accessAll references).1.counters pid = (lists.accessAll others).1.counters pid := by
  have hself : Renames id pid pid lists lists :=
    ⟨Iff.rfl, rfl, (renameFrames_id _).symm, (List.map_id _).symm, rfl⟩
  -- Both runs are compared with the one in which the process makes its references alone.
  obtain ⟨hlog, hlast⟩ := hself.accessAll hnil references
  obtain ⟨hotherLog, hotherLast⟩ := hself.accessAll hnil others
  refine ⟨?_, ?_, ?_⟩
  · rw [hlog, hotherLog, hsame]
  · rw [hlast.recent_eq, hotherLast.recent_eq, hsame]
  · rw [hlast.counters_eq, hotherLast.counters_eq, hsame]

/-! ## The clock -/

theorem clock_access (lists : ListPager) (pid : Nat) (page bound : Int) :
    (lists.access pid page bound).1.clock =
      lists.clock + (!(lists.access pid page bound).2.outcome.endsReferences).toNat := by
  have hrefer : (lists.refer pid page.toNat).1.clock =
      lists.clock + (!(lists.refer pid page.toNat).2.outcome.endsReferences).toNat := by
    unfold refer
    split
    next => rfl
    next =>
      split
      next => rfl
      next => split <;> rfl
  unfold access
  split
  next =>
    split
    next => exact hrefer
    next => rfl
  next => rfl

/-- The clock counts the references that were resolved to a frame. -/
theorem clock_accessAll (lists : ListPager) (references : List Reference) :
    (lists.accessAll references).1.clock = lists.clock +
      (lists.accessAll references).2.countP (!·.2.outcome.endsReferences) := by
  induction references generalizing lists with
  | nil => rfl
  | cons reference references ih =>
      rw [accessAll_cons, ih, clock_access, List.countP_cons,
        Nat.add_assoc, Nat.add_comm (List.countP _ _)]
      cases (lists.access reference.pid reference.page reference.bound).2.outcome.endsReferences <;>
        rfl

end ListPager

/-! ## Equal but for the times of use -/

/-- In both orders of the same entries, the same entries come later. -/
theorem RecencyOrder.lastUsed_lt_iff {entryOf otherOf : Nat → Entry} {recent : List (Nat × Nat)}
    (horder : RecencyOrder entryOf recent) (hother : RecencyOrder otherOf recent)
    {earlier later : Nat × Nat} (hearlier : earlier ∈ recent) (hlater : later ∈ recent) :
    (otherOf earlier.1).lastUsed < (otherOf later.1).lastUsed ↔
      (entryOf earlier.1).lastUsed < (entryOf later.1).lastUsed := by
  have hboth := horder.ordered.and hother.ordered
  refine List.Pairwise.forall_of_forall_of_flip (R := fun earlier later =>
    (otherOf earlier.1).lastUsed < (otherOf later.1).lastUsed ↔
      (entryOf earlier.1).lastUsed < (entryOf later.1).lastUsed) ?_ ?_ ?_ hearlier hlater
  · intro entry _
    simp
  · refine hboth.imp ?_
    rintro newer older ⟨hlt, hotherLt⟩
    exact iff_of_false (Nat.lt_asymm hotherLt) (Nat.lt_asymm hlt)
  · refine hboth.imp ?_
    rintro newer older ⟨hlt, hotherLt⟩
    exact iff_of_true hotherLt hlt

namespace Pager

/-- Two pagers differ in the times of use only, and each process has used its resident
pages in the same order. -/
structure SameButTimes (pager other : Pager) : Prop where
  sameShape : pager.SameShape other
  pool_eq : other.pool = pager.pool
  owners_eq : other.owners = pager.owners
  clock_eq : other.clock = pager.clock
  counters_eq : other.counters = pager.counters
  valid_eq : ∀ pid page,
    (other.tables.cell pid page).valid = (pager.tables.cell pid page).valid
  frame_eq : ∀ pid page,
    (other.tables.cell pid page).frame = (pager.tables.cell pid page).frame
  order_iff : ∀ pid page later, (pager.tables.cell pid page).valid = true →
    (pager.tables.cell pid later).valid = true →
    ((other.tables.cell pid page).lastUsed < (other.tables.cell pid later).lastUsed ↔
      (pager.tables.cell pid page).lastUsed < (pager.tables.cell pid later).lastUsed)

variable {pager other next start : Pager} {pid processes pages frames : Nat} {page bound : Int}
  {resolution : Resolution}

/-- The owner records of a coherent pager follow from its tables. -/
theorem Coherent.owners_eq (hcoherent : pager.Coherent none) (hother : other.Coherent none)
    (hshape : pager.SameShape other)
    (hframes : ∀ pid page,
      (other.tables.cell pid page).frame = (pager.tables.cell pid page).frame) :
    other.owners = pager.owners := by
  have hsize : other.owners.size = pager.owners.size := by
    rw [hother.owners_size, hcoherent.owners_size, hshape.frames_eq]
  have howned : ∀ (frame : Nat) (owner : Owner),
      other.owners[frame]? = some (some owner) ↔ pager.owners[frame]? = some (some owner) := by
    rintro frame ⟨pid, page⟩
    rw [hother.owner_iff, hcoherent.owner_iff, hframes]
  refine Array.ext hsize fun frame hframe hinside => ?_
  refine Option.ext fun owner => ?_
  simpa [hframe, hinside] using howned frame owner

/-- Two pagers that hold what the same lists say of each process. -/
theorem Follows.sameButTimes {lists otherLists : ListPager} (hfollows : pager.Follows lists)
    (hother : other.Follows otherLists) (hshape : pager.SameShape other)
    (hpool : other.pool = pager.pool) (hclock : otherLists.clock = lists.clock)
    (hrecent : ∀ pid, otherLists.recent pid = lists.recent pid)
    (hcounters : ∀ pid, otherLists.counters pid = lists.counters pid) :
    pager.SameButTimes other := by
  have horder : ∀ pid, RecencyOrder (other.tables.cell pid) (lists.recent pid) :=
    fun pid => hrecent pid ▸ hother.order pid
  have hframes : ∀ pid page,
      (other.tables.cell pid page).frame = (pager.tables.cell pid page).frame := by
    intro pid page
    rw [← hother.coherent.residentFrame?_eq, ← hfollows.coherent.residentFrame?_eq,
      ← (horder pid).lookup_eq, ← (hfollows.order pid).lookup_eq]
  refine ⟨hshape, hpool, hfollows.coherent.owners_eq hother.coherent hshape hframes, ?_, ?_, ?_,
    hframes, ?_⟩
  · rw [← hother.clock_eq, ← hfollows.clock_eq, hclock]
  · have hsize := hfollows.coherent.counters_size
    have hotherSize := hother.coherent.counters_size
    refine Array.ext (by rw [hotherSize, hsize, hshape.processes_eq]) fun pid hpid hinside => ?_
    have hleft := hother.counters_eq pid (hotherSize ▸ hpid)
    have hright := hfollows.counters_eq pid (hsize ▸ hinside)
    rw [hcounters, ← hright, Array.getElem?_eq_getElem hpid,
      Array.getElem?_eq_getElem hinside] at hleft
    exact Option.some.inj hleft
  · intro pid page
    rw [hother.coherent.valid_eq, hfollows.coherent.valid_eq, hframes]
  · intro pid page later hpage hlater
    rw [hfollows.coherent.valid_eq] at hpage hlater
    obtain ⟨frame, hframe⟩ := Option.isSome_iff_exists.mp hpage
    obtain ⟨laterFrame, hlaterFrame⟩ := Option.isSome_iff_exists.mp hlater
    rw [← hfollows.coherent.residentFrame?_eq] at hframe hlaterFrame
    exact (hfollows.order pid).lastUsed_lt_iff (horder pid)
      (((hfollows.order pid).mem_iff page frame).mpr hframe)
      (((hfollows.order pid).mem_iff later laterFrame).mpr hlaterFrame)

/-! ## An empty pool -/

/-- An empty pool is left as it is. -/
theorem pool_eq_of_access (hcoherent : pager.Coherent none) (hnil : pager.pool.toList = [])
    (haccess : pager.access pid page bound = .ok (next, resolution)) :
    next.pool = pager.pool := by
  rcases access_eq hcoherent pid page bound with
    ⟨-, heq⟩ | ⟨-, -, heq⟩ | ⟨-, -, after, found, hresolves, heq⟩
  all_goals obtain ⟨rfl, rfl⟩ := Prod.mk.inj (Except.ok.inj (heq.symm.trans haccess))
  · rfl
  · rfl
  · cases hresolves with
    | hit | replaced | starved => rfl
    | loaded _ hcons => exact absurd (hnil.symm.trans hcons) (by simp)

theorem pool_eq_of_accessAll {references : List Reference} {log : List (Reference × Resolution)}
    (hcoherent : pager.Coherent none) (hnil : pager.pool.toList = [])
    (hrun : pager.accessAll references = .ok (next, log)) :
    next.pool = pager.pool ∧ pager.SameShape next := by
  have hinvariant : next.Coherent none ∧ next.pool = pager.pool ∧ pager.SameShape next :=
    accessAll_invariant
      (fun state => state.Coherent none ∧ state.pool = pager.pool ∧ pager.SameShape state)
      ?_ ⟨hcoherent, rfl, .refl pager⟩ hrun
  · exact hinvariant.2
  · rintro before after pid page bound resolution ⟨hbefore, hpool, hshape⟩ haccess
    obtain ⟨hafter, hstep⟩ := coherent_of_access hbefore haccess
    exact ⟨hafter, (pool_eq_of_access hbefore (hpool ▸ hnil) haccess).trans hpool,
      hshape.trans hstep⟩

/-- As long as the limit of legal pages is negative, no page becomes resident. -/
theorem frame_eq_none_of_perform {call : Call} {response : Response}
    (hcoherent : pager.Coherent none) (hlimit : signedWord pager.tables.pages < 0)
    (hnone : ∀ pid page, (pager.tables.cell pid page).frame = none)
    (hcall : pager.perform call = .ok (next, response)) (pid page : Nat) :
    (next.tables.cell pid page).frame = none := by
  cases call with
  | access sender reference bound =>
      rcases access_eq hcoherent sender reference bound with
        ⟨-, heq⟩ | ⟨-, -, heq⟩ | ⟨-, hwithin, -⟩
      case inr.inr =>
        rw [isWithin_iff, limit] at hwithin
        omega
      all_goals
        rw [perform, heq] at hcall
        obtain ⟨rfl, -⟩ := Prod.mk.inj (Except.ok.inj hcall)
        exact hnone pid page
  | evacuate sender =>
      by_cases hsender : sender < pager.processes
      · obtain ⟨other, heq, -, hreleased⟩ := evacuate_of_lt hcoherent hsender
        rw [perform, heq] at hcall
        obtain ⟨rfl, -⟩ := Prod.mk.inj (Except.ok.inj hcall)
        rw [hreleased.cell_eq]
        split
        next => rfl
        next => exact hnone pid page
      · rw [perform, evacuate_of_le (Nat.le_of_not_lt hsender)] at hcall
        exact absurd hcall (by simp [Except.map])

/-- Of tables too long for a signed word no page is ever legal, and none is ever resident. -/
theorem resident_eq_nil_of_le (hfresh : fresh processes pages frames = .ok start)
    (hlarge : halfWordCount ≤ pages) (calls : List Call) : (start.run calls).1.resident = [] := by
  obtain ⟨-, hpages, -, -, -, -, -, -, hcells⟩ := fresh_eq_ok hfresh
  obtain ⟨hpos, hlt, -⟩ := exists_fresh_iff.mp ⟨start, hfresh⟩
  have hlimit : signedWord start.tables.pages < 0 := by
    have hle : pages ≤ processes * pages :=
      Nat.le_mul_of_pos_left pages (Nat.pos_of_mul_pos_right hpos)
    rw [hpages]
    unfold signedWord Int.bmod
    simp only [wordCount, halfWordCount] at *
    omega
  have hrun : (start.run calls).1.Coherent none ∧ start.SameShape (start.run calls).1 ∧
      ∀ pid page, ((start.run calls).1.tables.cell pid page).frame = none :=
    runCalls_invariant
      (fun state : Pager => state.Coherent none ∧ start.SameShape state ∧
        ∀ pid page, (state.tables.cell pid page).frame = none)
      ?_ calls ⟨fresh_coherent hfresh, .refl start, fun pid page => by rw [hcells]⟩
  · obtain ⟨hcoherent, -, hnone⟩ := hrun
    rw [List.eq_nil_iff_forall_not_mem]
    intro r hr
    exact absurd ((hcoherent.mem_resident r).mp hr) (by simp [hnone])
  · rintro before call after response ⟨hbefore, hshape, hnone⟩ hcall
    obtain ⟨hafter, hstep⟩ := coherent_of_perform hbefore hcall
    exact ⟨hafter, hshape.trans hstep,
      frame_eq_none_of_perform hbefore (hshape.pages_eq ▸ hlimit) hnone hcall⟩

/-- Of such tables no frame leaves the pool, so the pool is empty only beside shorter ones. -/
theorem pages_lt_of_no_free (hfresh : fresh processes pages frames = .ok start)
    (calls : List Call) (hnil : (start.run calls).1.pool.toList = []) : pages < halfWordCount := by
  refine Nat.lt_of_not_le fun hlarge => ?_
  have hlength := (run_coherent hfresh calls).1.perm_range.length_eq
  rw [hnil, resident_eq_nil_of_le hfresh hlarge calls, List.map_nil, List.append_nil,
    List.length_nil, List.length_range] at hlength
  exact absurd hlength (Nat.ne_of_lt (FramePool.total_pos _))

/-- With an empty pool, two interleavings of the same references of each process come to
the same, but for the times of use. -/
theorem interleaving_is_irrelevant (hfresh : fresh processes pages frames = .ok start)
    (calls : List Call) (hempty : (start.run calls).1.pool.count = 0)
    (references others : List Reference)
    (hsame : ∀ pid, references.filter (·.pid == pid) = others.filter (·.pid == pid)) :
    ∃ last log otherLast otherLog,
      (start.run calls).1.accessAll references = .ok (last, log) ∧
      (start.run calls).1.accessAll others = .ok (otherLast, otherLog) ∧
      (∀ pid, resolutionsOf pid log = resolutionsOf pid otherLog) ∧
      last.SameButTimes otherLast := by
  have hnil := FramePool.toList_eq_nil_iff.mpr hempty
  have hpages := pages_lt_of_no_free hfresh calls hnil
  obtain ⟨hcoherent, hshape⟩ := run_coherent hfresh calls
  have hfollows := ((Follows.fresh hfresh).run
    ((fresh_eq_ok hfresh).2.1 ▸ hpages) calls).2
  generalize (start.run calls).1 = pager at *
  generalize ((ListPager.fresh processes pages frames).run calls).1 = lists at *
  have hshort : pager.tables.pages < halfWordCount := by
    rw [hshape.pages_eq, (fresh_eq_ok hfresh).2.1]
    exact hpages
  obtain ⟨last, hrun, hlast⟩ := hfollows.accessAll hshort references
  obtain ⟨otherLast, hotherRun, hotherLast⟩ := hfollows.accessAll hshort others
  have hfree : lists.free = [] := hfollows.free_eq.trans hnil
  have hagrees := fun pid => ListPager.accessAll_agrees hfree (hsame pid)
  have hperm := perm_of_filter_eq (fun entry : Reference × Resolution => entry.1.pid)
    fun pid => (hagrees pid).1
  obtain ⟨hpool, hlastShape⟩ := pool_eq_of_accessAll hcoherent hnil hrun
  obtain ⟨hotherPool, hotherShape⟩ := pool_eq_of_accessAll hcoherent hnil hotherRun
  refine ⟨last, _, otherLast, _, hrun, hotherRun, ?_,
    hlast.sameButTimes hotherLast ⟨?_, ?_, ?_⟩ (hotherPool.trans hpool.symm) ?_
      (fun pid => (hagrees pid).2.1.symm) (fun pid => (hagrees pid).2.2.symm)⟩
  · intro pid
    rw [resolutionsOf, resolutionsOf, (hagrees pid).1]
  · rw [hotherShape.processes_eq, hlastShape.processes_eq]
  · rw [hotherShape.pages_eq, hlastShape.pages_eq]
  · rw [hotherShape.frames_eq, hlastShape.frames_eq]
  · rw [ListPager.clock_accessAll, ListPager.clock_accessAll, hperm.countP_eq]

/-- Two processes with a frame each, and an unknown one, in two orders. -/
theorem interleaving_is_irrelevant_on_two_frames :
    ∃ start, fresh 2 3 2 = .ok start ∧
      (start.run [.access 1 0 3, .access 0 0 3]).1.pool.count = 0 ∧
      ∃ last log otherLast otherLog,
        (start.run [.access 1 0 3, .access 0 0 3]).1.accessAll
          [⟨0, 1, 3⟩, ⟨1, 2, 3⟩, ⟨0, 0, 3⟩, ⟨7, 0, 3⟩, ⟨1, 2, 2⟩, ⟨1, 0, 3⟩] = .ok (last, log) ∧
        (start.run [.access 1 0 3, .access 0 0 3]).1.accessAll
          [⟨7, 0, 3⟩, ⟨1, 2, 3⟩, ⟨1, 2, 2⟩, ⟨1, 0, 3⟩, ⟨0, 1, 3⟩, ⟨0, 0, 3⟩] =
            .ok (otherLast, otherLog) ∧
        (∀ pid, resolutionsOf pid log = resolutionsOf pid otherLog) ∧
        last.SameButTimes otherLast := by
  have hsame : ∀ pid,
      ([⟨0, 1, 3⟩, ⟨1, 2, 3⟩, ⟨0, 0, 3⟩, ⟨7, 0, 3⟩, ⟨1, 2, 2⟩, ⟨1, 0, 3⟩] :
        List Reference).filter (·.pid == pid) =
      ([⟨7, 0, 3⟩, ⟨1, 2, 3⟩, ⟨1, 2, 2⟩, ⟨1, 0, 3⟩, ⟨0, 1, 3⟩, ⟨0, 0, 3⟩] :
        List Reference).filter (·.pid == pid) := by
    intro pid
    by_cases hpid : pid < 8
    · decide +revert
    · have hne : ∀ other, other < 8 → (other == pid) = false := by
        intro other hother
        simpa using Nat.ne_of_lt (Nat.lt_of_lt_of_le hother (Nat.le_of_not_lt hpid))
      simp [List.filter, hne]
  exact ⟨_, rfl, by decide,
    interleaving_is_irrelevant (show fresh 2 3 2 = .ok _ from rfl) _ (by decide) _ _ hsame⟩

end Pager

end DemandPaging
