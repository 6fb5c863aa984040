import DemandPaging.Proofs.Pager.Conservation

/-!
# Pagers that never fail

In whatever state calls have left a pager, each reference is resolved, and an evacuation
fails only for a process that does not exist. The tables by process and by frame have the
right sizes for every look-up, and the clock and the counters count no further than the
calls go.
-/

namespace DemandPaging

/-- The number of references that the counters account for. -/
def Counters.references (counters : Counters) : Nat :=
  counters.hits + counters.faults + counters.illegal + counters.starved

theorem Counters.references_record (counters : Counters) (resolution : Resolution) :
    (counters.record resolution).references = counters.references + 1 := by
  cases resolution <;> simp only [references, record] <;> omega

/-- Only a fault counts as an eviction. -/
theorem Counters.evictions_record_le {counters : Counters}
    (hle : counters.evictions ≤ counters.faults) (resolution : Resolution) :
    (counters.record resolution).evictions ≤ (counters.record resolution).faults := by
  cases resolution <;> simp only [record] <;> omega

namespace Pager

/-- The clock and the references counted for a process are not above the given number. -/
structure Counts (pager : Pager) (count : Nat) : Prop where
  clock_le : pager.clock ≤ count
  references_le : ∀ (pid : Nat) (counters : Counters), pager.counters[pid]? = some counters →
    counters.references ≤ count
  evictions_le : ∀ (pid : Nat) (counters : Counters), pager.counters[pid]? = some counters →
    counters.evictions ≤ counters.faults

/-- A pager of `processes` processes and `frames` frames, after `count` calls, at which
nothing can break. -/
structure Reliable (pager : Pager) (processes frames count : Nat) : Prop where
  access_eq_ok : ∀ pid page bound, ∃ next resolution,
    pager.access pid page bound = .ok (next, resolution)
  evacuate_eq_ok_iff : ∀ pid,
    (∃ next released, pager.evacuate pid = .ok (next, released)) ↔ pid < processes
  evacuate_unknown : ∀ pid, processes ≤ pid → pager.run [.evacuate pid] =
    (pager, [.error (.memory (.noSuchProcess pid processes))])
  audit_eq : pager.audit = .ok ()
  counters_size : pager.counters.size = processes
  owners_size : pager.owners.size = frames
  free_lt : ∀ frame ∈ pager.pool.toList, frame < frames
  counts : pager.Counts count

variable {pager next : Pager} {pid count : Nat} {resolution : Resolution}

/-! ## Clock and counters -/

theorem Counts.mono {more : Nat} (hcounts : pager.Counts count) (hle : count ≤ more) :
    pager.Counts more where
  clock_le := Nat.le_trans hcounts.clock_le hle
  references_le := fun pid counters hcounters =>
    Nat.le_trans (hcounts.references_le pid counters hcounters) hle
  evictions_le := hcounts.evictions_le

theorem getElem?_counters_tally {counters : Counters} {other : Nat}
    (hother : (pager.tally pid (·.record resolution)).counters[other]? = some counters) :
    ∃ before, pager.counters[other]? = some before ∧
      (counters = before ∨ counters = before.record resolution) := by
  simp only [Pager.tally, Array.getElem?_modify] at hother
  split at hother
  next =>
    obtain ⟨before, hbefore, rfl⟩ := Option.map_eq_some_iff.mp hother
    exact ⟨before, hbefore, .inr rfl⟩
  next => exact ⟨counters, hother, .inl rfl⟩

/-- A reference counts once, and takes one instant at most. -/
theorem Counts.tally (hcounts : pager.Counts count) (hclock : next.clock ≤ pager.clock + 1)
    (hcounters : next.counters = pager.counters) (pid : Nat) (resolution : Resolution) :
    (next.tally pid (·.record resolution)).Counts (count + 1) := by
  refine ⟨Nat.le_trans hclock (Nat.succ_le_succ hcounts.clock_le), ?_, ?_⟩
  all_goals
    intro other counters hother
    obtain ⟨before, hbefore, hcases⟩ := getElem?_counters_tally hother
    rw [hcounters] at hbefore
  · have hle := hcounts.references_le other before hbefore
    rcases hcases with rfl | rfl
    · exact Nat.le_succ_of_le hle
    · rw [Counters.references_record]
      exact Nat.succ_le_succ hle
  · have hle := hcounts.evictions_le other before hbefore
    rcases hcases with rfl | rfl
    · exact hle
    · exact Counters.evictions_record_le hle resolution

theorem Resolves.clock_le {page : Nat} (hresolves : Resolves pager pid page next resolution) :
    next.clock ≤ pager.clock + 1 := by
  cases hresolves with
  | hit | loaded | replaced => exact Nat.le_refl _
  | starved => exact Nat.le_succ _

theorem Resolves.counters_eq {page : Nat}
    (hresolves : Resolves pager pid page next resolution) : next.counters = pager.counters := by
  cases hresolves <;> rfl

/-- No call counts more than once. -/
theorem Counts.perform (hcounts : pager.Counts count) (hcoherent : pager.Coherent none)
    {call : Call} {response : Response} (hcall : pager.perform call = .ok (next, response)) :
    next.Counts (count + 1) := by
  cases call with
  | access pid page bound =>
      rcases access_eq hcoherent pid page bound with
        ⟨-, heq⟩ | ⟨-, -, heq⟩ | ⟨-, -, other, resolution, hresolves, heq⟩
      all_goals
        rw [Pager.perform, heq] at hcall
        obtain ⟨rfl, -⟩ := Prod.mk.inj (Except.ok.inj hcall)
      · exact hcounts.mono (Nat.le_succ count)
      · exact hcounts.tally (Nat.le_succ _) rfl pid .illegal
      · exact hcounts.tally hresolves.clock_le hresolves.counters_eq pid resolution
  | evacuate pid =>
      by_cases hpid : pid < pager.processes
      · obtain ⟨other, heq, -, hreleased⟩ := evacuate_of_lt hcoherent hpid
        rw [Pager.perform, heq] at hcall
        obtain ⟨rfl, -⟩ := Prod.mk.inj (Except.ok.inj hcall)
        have hmore := hcounts.mono (Nat.le_succ count)
        refine ⟨hreleased.clock_eq ▸ hmore.clock_le, ?_, ?_⟩
        · rw [hreleased.counters_eq]
          exact hmore.references_le
        · rw [hreleased.counters_eq]
          exact hmore.evictions_le
      · rw [Pager.perform, evacuate_of_le (Nat.le_of_not_lt hpid)] at hcall
        exact absurd hcall (by simp [Except.map])

theorem run_counts {processes pages frames : Nat}
    (hfresh : fresh processes pages frames = .ok pager) (calls : List Call) :
    (pager.run calls).1.Counts calls.length := by
  obtain ⟨-, -, -, -, -, -, hclock, hcounters, -⟩ := fresh_eq_ok hfresh
  have hstart : pager.Counts 0 := by
    have hblank : ∀ (pid : Nat) (counters : Counters),
        pager.counters[pid]? = some counters → counters = {} := by
      intro pid counters hpid
      rw [hcounters, Array.getElem?_replicate] at hpid
      simpa [eq_comm] using (Option.ite_none_right_eq_some.mp hpid).2
    refine ⟨Nat.le_of_eq hclock, ?_, ?_⟩
    all_goals
      intro pid counters hpid
      obtain rfl := hblank pid counters hpid
      exact Nat.le_refl 0
  have hrun : (pager.run calls).1.Coherent none ∧ (pager.run calls).1.Counts (0 + calls.length) :=
    runCalls_counted (fun count (state : Pager) => state.Coherent none ∧ state.Counts count)
      ?_ ?_ calls 0 ⟨fresh_coherent hfresh, hstart⟩
  · rw [Nat.zero_add] at hrun
    exact hrun.2
  · rintro count state call next response ⟨hcoherent, hcounts⟩ hcall
    exact ⟨(coherent_of_perform hcoherent hcall).1, hcounts.perform hcoherent hcall⟩
  · rintro count state ⟨hcoherent, hcounts⟩
    exact ⟨hcoherent, hcounts.mono (Nat.le_succ count)⟩

/-! ## All calls -/

theorem Coherent.reliable (hcoherent : pager.Coherent none) (hcounts : pager.Counts count) :
    pager.Reliable pager.processes pager.pool.total count where
  access_eq_ok := by
    intro pid page bound
    obtain ⟨next, resolution, haccess, -⟩ := access_coherent hcoherent pid page bound
    exact ⟨next, resolution, haccess⟩
  evacuate_eq_ok_iff := by
    intro pid
    constructor
    · rintro ⟨next, released, hevacuate⟩
      by_contra hpid
      rw [evacuate_of_le (Nat.le_of_not_lt hpid)] at hevacuate
      exact absurd hevacuate (by simp)
    · intro hpid
      obtain ⟨next, hevacuate, -⟩ := evacuate_of_lt hcoherent hpid
      exact ⟨next, _, hevacuate⟩
  evacuate_unknown := by
    intro pid hpid
    simp only [run, runCalls, perform, evacuate_of_le hpid]
    rfl
  audit_eq := hcoherent.audit_eq
  counters_size := hcoherent.counters_size
  owners_size := hcoherent.owners_size
  free_lt := hcoherent.pool_sound.lt_total
  counts := hcounts

/-- After any calls to a fresh pager nothing can break. -/
theorem run_reliable {processes pages frames : Nat}
    (hfresh : fresh processes pages frames = .ok pager) (calls : List Call) :
    (pager.run calls).1.Reliable processes frames calls.length := by
  obtain ⟨hcoherent, hshape⟩ := run_coherent hfresh calls
  obtain ⟨hprocesses, -, htotal, -⟩ := fresh_eq_ok hfresh
  rw [← hprocesses, ← htotal, ← hshape.processes_eq, ← hshape.frames_eq]
  exact hcoherent.reliable (run_counts hfresh calls)

end Pager

end DemandPaging
