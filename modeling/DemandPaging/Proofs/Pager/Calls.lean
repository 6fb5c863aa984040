import DemandPaging.Proofs.Failure.Result
import DemandPaging.Proofs.Pager.Evacuation

/-!
# Calls to a pager

A pager is used through two calls, a reference and an evacuation, in any order
and with any arguments. A call that fails changes nothing. Whatever the calls,
the pager stays coherent, and only the evacuation of an unknown process fails.
-/

namespace DemandPaging

namespace Pager

/-- A call to a pager. -/
inductive Call where
  | access (pid : Nat) (page bound : Int)
  | evacuate (pid : Nat)
  deriving DecidableEq, Repr

/-- What a call gives back. -/
inductive Response where
  | resolved (resolution : Resolution)
  | released (count : Nat)
  deriving DecidableEq, Repr

end Pager

/-- Makes calls one after another and lists what they give back. -/
def runCalls {σ : Type} (perform : σ → Pager.Call → Except Failure (σ × Pager.Response)) :
    σ → List Pager.Call → σ × List (Except Failure Pager.Response)
  | state, [] => (state, [])
  | state, call :: calls =>
    match perform state call with
    | .ok (next, response) => (runCalls perform next calls).map id (.ok response :: ·)
    | .error failure => (runCalls perform state calls).map id (.error failure :: ·)

/-- An invariant that goes by the number of calls so far, and that no call breaks, holds
after all calls. A call that fails counts, too. -/
theorem runCalls_counted {σ : Type}
    {perform : σ → Pager.Call → Except Failure (σ × Pager.Response)}
    (invariant : Nat → σ → Prop)
    (hperform : ∀ count state call next response, invariant count state →
      perform state call = .ok (next, response) → invariant (count + 1) next)
    (hidle : ∀ count state, invariant count state → invariant (count + 1) state)
    (calls : List Pager.Call) (count : Nat) {state : σ} (hstate : invariant count state) :
    invariant (count + calls.length) (runCalls perform state calls).1 := by
  induction calls generalizing count state with
  | nil => exact hstate
  | cons call calls ih =>
      rw [runCalls, List.length_cons, ← Nat.add_assoc, Nat.add_right_comm]
      split
      next next response hcall => exact ih _ (hperform _ _ _ _ _ hstate hcall)
      next => exact ih _ (hidle _ _ hstate)

/-- An invariant that no successful call breaks holds after all calls. -/
theorem runCalls_invariant {σ : Type}
    {perform : σ → Pager.Call → Except Failure (σ × Pager.Response)} (invariant : σ → Prop)
    (hperform : ∀ state call next response, invariant state →
      perform state call = .ok (next, response) → invariant next)
    (calls : List Pager.Call) {state : σ} (hstate : invariant state) :
    invariant (runCalls perform state calls).1 :=
  runCalls_counted (fun _ => invariant) (fun _ => hperform) (fun _ _ => id) calls 0 hstate

/-- Two machines that give the same answer to every call from related states give
the same answers to all calls. -/
theorem runCalls_related {σ τ : Type}
    {perform : σ → Pager.Call → Except Failure (σ × Pager.Response)}
    {other : τ → Pager.Call → Except Failure (τ × Pager.Response)} (related : σ → τ → Prop)
    (hstep : ∀ state partner call, related state partner →
      (∃ next after response, perform state call = .ok (next, response) ∧
        other partner call = .ok (after, response) ∧ related next after) ∨
      ∃ failure, perform state call = .error failure ∧ other partner call = .error failure)
    (calls : List Pager.Call) {state : σ} {partner : τ} (hrelated : related state partner) :
    (runCalls perform state calls).2 = (runCalls other partner calls).2 ∧
      related (runCalls perform state calls).1 (runCalls other partner calls).1 := by
  induction calls generalizing state partner with
  | nil => exact ⟨rfl, hrelated⟩
  | cons call calls ih =>
      rcases hstep state partner call hrelated with
        ⟨next, after, response, hcall, hother, hnext⟩ | ⟨failure, hcall, hother⟩
      · obtain ⟨hanswers, hrest⟩ := ih hnext
        simp only [runCalls, hcall, hother, Prod.map]
        exact ⟨congrArg _ hanswers, hrest⟩
      · obtain ⟨hanswers, hrest⟩ := ih hrelated
        simp only [runCalls, hcall, hother, Prod.map]
        exact ⟨congrArg _ hanswers, hrest⟩

namespace Pager

/-- Makes one call. -/
def perform (pager : Pager) : Call → Except Failure (Pager × Response)
  | .access pid page bound => (pager.access pid page bound).map fun (next, resolution) =>
      (next, .resolved resolution)
  | .evacuate pid => (pager.evacuate pid).map fun (next, count) => (next, .released count)

/-- The pager after calls, and what they gave back. -/
def run (pager : Pager) (calls : List Call) : Pager × List (Except Failure Response) :=
  runCalls perform pager calls

variable {pager next : Pager}

/-- What a call does to a coherent pager. -/
theorem perform_coherent (hcoherent : pager.Coherent none) (call : Call) :
    (∃ next response, pager.perform call = .ok (next, response) ∧ next.Coherent none ∧
        pager.SameShape next) ∨
      ∃ pid, call = .evacuate pid ∧ pager.processes ≤ pid ∧
        pager.perform call = .error (.memory (.noSuchProcess pid pager.processes)) := by
  cases call with
  | access pid page bound =>
      obtain ⟨next, resolution, heq, hnext, hshape⟩ := access_coherent hcoherent pid page bound
      exact .inl ⟨next, .resolved resolution, by rw [perform, heq]; rfl, hnext, hshape⟩
  | evacuate pid =>
      by_cases hpid : pid < pager.processes
      · obtain ⟨next, heq, hnext, hreleased⟩ := evacuate_of_lt hcoherent hpid
        exact .inl ⟨next, .released _, by rw [perform, heq]; rfl, hnext, hreleased.sameShape⟩
      · have hle := Nat.le_of_not_lt hpid
        exact .inr ⟨pid, rfl, hle, by rw [perform, evacuate_of_le hle]; rfl⟩

theorem coherent_of_perform (hcoherent : pager.Coherent none) {call : Call}
    {response : Response} (hcall : pager.perform call = .ok (next, response)) :
    next.Coherent none ∧ pager.SameShape next := by
  rcases perform_coherent hcoherent call with ⟨other, _, heq, hnext⟩ | ⟨_, _, _, heq⟩
  · rw [heq] at hcall
    obtain ⟨rfl, -⟩ := Prod.mk.inj (Except.ok.inj hcall)
    exact hnext
  · rw [heq] at hcall
    exact absurd hcall (by simp)

theorem coherent_of_access (hcoherent : pager.Coherent none) {pid : Nat} {page bound : Int}
    {resolution : Resolution} (haccess : pager.access pid page bound = .ok (next, resolution)) :
    next.Coherent none ∧ pager.SameShape next := by
  have hcall : pager.perform (.access pid page bound) = .ok (next, .resolved resolution) := by
    rw [perform, haccess]
    rfl
  exact coherent_of_perform hcoherent hcall

theorem coherent_of_evacuate (hcoherent : pager.Coherent none) {pid count : Nat}
    (hevacuate : pager.evacuate pid = .ok (next, count)) :
    next.Coherent none ∧ pager.SameShape next := by
  have hcall : pager.perform (.evacuate pid) = .ok (next, .released count) := by
    rw [perform, hevacuate]
    rfl
  exact coherent_of_perform hcoherent hcall

/-! ## The pager before its first call -/

/-- A fresh pager has blank tables, all frames free, and nothing counted. -/
theorem fresh_eq_ok {processes pages frames : Nat}
    (hfresh : fresh processes pages frames = .ok pager) :
    pager.processes = processes ∧ pager.tables.pages = pages ∧ pager.pool.total = frames ∧
      pager.pool.toList = List.range frames ∧ pager.pool.Sound ∧
      pager.owners = Array.replicate frames none ∧ pager.clock = 0 ∧
      pager.counters = Array.replicate processes {} ∧
      ∀ pid page, pager.tables.cell pid page = {} := by
  obtain ⟨tables, hblank, hrest⟩ := exists_of_bind_eq_ok hfresh
  obtain ⟨pool, hfull, hresult⟩ := exists_of_bind_eq_ok hrest
  obtain rfl := Except.ok.inj hresult
  obtain ⟨hprocesses, hpages, -, -, hcells⟩ := PageTables.blank_eq_ok hblank
  obtain ⟨-, htotal, hlist, hsound⟩ := FramePool.full_eq_ok hfull
  exact ⟨hprocesses, hpages, htotal, hlist, hsound, rfl, rfl, rfl, hcells⟩

/-- A fresh pager has at least one entry in its tables, not too many of them, and a
frame. -/
theorem exists_fresh_iff {processes pages frames : Nat} :
    (∃ pager, fresh processes pages frames = .ok pager) ↔
      0 < processes * pages ∧ processes * pages < wordCount ∧ 0 < frames := by
  unfold fresh PageTables.blank FramePool.full
  split
  next htables =>
    split
    next hframes =>
      exact iff_of_true ⟨_, rfl⟩ ⟨htables.1, htables.2, hframes⟩
    next hframes =>
      exact iff_of_false (by simp [bind, Except.bind]) fun hall => hframes hall.2.2
  next htables =>
    exact iff_of_false (by simp [bind, Except.bind]) fun hall => htables ⟨hall.1, hall.2.1⟩

theorem fresh_coherent {processes pages frames : Nat}
    (hfresh : fresh processes pages frames = .ok pager) : pager.Coherent none := by
  obtain ⟨hprocesses, -, htotal, hlist, hsound, howners, -, hcounters, hcells⟩ :=
    fresh_eq_ok hfresh
  refine ⟨hsound, ?_, ?_, ?_, ?_, ?_, by simp⟩
  · rw [howners, htotal, Array.size_replicate]
  · rw [hcounters, hprocesses, Array.size_replicate]
  · intro pid page
    rw [hcells]
    rfl
  · intro frame pid page
    rw [howners, hcells]
    simp [Array.getElem?_replicate]
  · intro frame
    rw [howners, hlist]
    simp [Array.getElem?_replicate]

/-- After any calls to a fresh pager, the pager is coherent and has its first dimensions. -/
theorem run_coherent {processes pages frames : Nat}
    (hfresh : fresh processes pages frames = .ok pager) (calls : List Call) :
    (pager.run calls).1.Coherent none ∧ pager.SameShape (pager.run calls).1 := by
  refine runCalls_invariant (fun next => next.Coherent none ∧ pager.SameShape next) ?_ calls
    ⟨fresh_coherent hfresh, .refl pager⟩
  rintro state call next response ⟨hcoherent, hshape⟩ hcall
  obtain ⟨hnext, hstep⟩ := coherent_of_perform hcoherent hcall
  exact ⟨hnext, hshape.trans hstep⟩

end Pager

end DemandPaging
