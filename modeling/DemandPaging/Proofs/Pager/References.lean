import DemandPaging.Proofs.Failure.Result
import DemandPaging.Proofs.Pager.ListPager

/-!
# Runs of references

References of any processes are resolved one after another, and no process is evacuated
in between. Such a run never fails. It keeps a log, and the list pager keeps the same one.
-/

namespace DemandPaging

/-- A reference of a process to a page, legal below a bound. -/
structure Reference where
  pid : Nat
  page : Int
  bound : Int
  deriving DecidableEq, Repr

/-- The resolutions of the references of one process, in order. -/
def resolutionsOf (pid : Nat) (log : List (Reference × Resolution)) : List Resolution :=
  (log.filter (·.1.pid == pid)).map Prod.snd

namespace Pager

/-- Resolves references one after another. The log holds each reference with its
resolution. -/
def accessAll (pager : Pager) :
    List Reference → Except Failure (Pager × List (Reference × Resolution))
  | [] => .ok (pager, [])
  | reference :: references => do
    let (next, resolution) ← pager.access reference.pid reference.page reference.bound
    let (last, log) ← next.accessAll references
    return (last, (reference, resolution) :: log)

theorem accessAll_cons {pager next last : Pager} {reference : Reference}
    {references : List Reference} {resolution : Resolution} {log : List (Reference × Resolution)}
    (haccess : pager.access reference.pid reference.page reference.bound =
      .ok (next, resolution))
    (hrest : next.accessAll references = .ok (last, log)) :
    pager.accessAll (reference :: references) = .ok (last, (reference, resolution) :: log) := by
  simp only [accessAll, haccess, bind, Except.bind, hrest]
  rfl

/-- The first reference of a run, and the run of the rest. -/
theorem accessAll_cons_eq_ok {pager last : Pager} {reference : Reference}
    {references : List Reference} {log : List (Reference × Resolution)}
    (hrun : pager.accessAll (reference :: references) = .ok (last, log)) :
    ∃ next resolution rest,
      pager.access reference.pid reference.page reference.bound = .ok (next, resolution) ∧
        next.accessAll references = .ok (last, rest) ∧ log = (reference, resolution) :: rest := by
  obtain ⟨⟨next, resolution⟩, haccess, hlater⟩ := exists_of_bind_eq_ok hrun
  obtain ⟨⟨final, rest⟩, hrest, hresult⟩ := exists_of_bind_eq_ok hlater
  obtain ⟨rfl, rfl⟩ := Prod.mk.inj (Except.ok.inj hresult)
  exact ⟨next, resolution, rest, haccess, hrest, rfl⟩

/-- An invariant that no reference breaks holds after all references. -/
theorem accessAll_invariant {pager last : Pager} {references : List Reference}
    {log : List (Reference × Resolution)} (invariant : Pager → Prop)
    (hstep : ∀ pager next pid page bound resolution, invariant pager →
      pager.access pid page bound = .ok (next, resolution) → invariant next)
    (hpager : invariant pager) (hrun : pager.accessAll references = .ok (last, log)) :
    invariant last := by
  induction references generalizing pager log with
  | nil =>
      obtain ⟨rfl, -⟩ := Prod.mk.inj (Except.ok.inj hrun)
      exact hpager
  | cons reference references ih =>
      obtain ⟨next, resolution, rest, haccess, hrest, -⟩ := accessAll_cons_eq_ok hrun
      exact ih (hstep _ _ _ _ _ _ hpager haccess) hrest

/-- A reference of a marked kind brings the invariant about, and no reference breaks it. So
it holds after a run with a marked one in its log. -/
theorem accessAll_since {pager last : Pager} {references : List Reference}
    {log : List (Reference × Resolution)} (marked : Reference → Resolution → Prop)
    (invariant : Pager → Prop)
    (hmarked : ∀ (pager next : Pager) reference resolution, pager.Coherent none →
      pager.access reference.pid reference.page reference.bound = .ok (next, resolution) →
      marked reference resolution → invariant next)
    (hstep : ∀ (pager next : Pager) pid page bound resolution, pager.Coherent none →
      invariant pager → pager.access pid page bound = .ok (next, resolution) → invariant next)
    (hcoherent : pager.Coherent none) (hrun : pager.accessAll references = .ok (last, log))
    (hmem : ∃ entry ∈ log, marked entry.1 entry.2) : invariant last := by
  induction references generalizing pager log with
  | nil =>
      obtain ⟨-, rfl⟩ := Prod.mk.inj (Except.ok.inj hrun)
      exact absurd hmem (by simp)
  | cons reference references ih =>
      obtain ⟨next, resolution, rest, haccess, hrest, rfl⟩ := accessAll_cons_eq_ok hrun
      have hnext := (coherent_of_access hcoherent haccess).1
      obtain ⟨entry, hentry, hmark⟩ := hmem
      rcases List.mem_cons.mp hentry with rfl | hlater
      · refine (accessAll_invariant (fun state => state.Coherent none ∧ invariant state) ?_
          ⟨hnext, hmarked _ _ _ _ hcoherent haccess hmark⟩ hrest).2
        rintro before after pid page bound resolution ⟨hbefore, hholds⟩ hafter
        exact ⟨(coherent_of_access hbefore hafter).1, hstep _ _ _ _ _ _ hbefore hholds hafter⟩
      · exact ih hnext hrest ⟨entry, hlater, hmark⟩

/-- A coherent pager resolves all references. -/
theorem exists_accessAll {pager : Pager} (hcoherent : pager.Coherent none)
    (references : List Reference) :
    ∃ last log, pager.accessAll references = .ok (last, log) ∧ last.Coherent none ∧
      pager.SameShape last := by
  induction references generalizing pager with
  | nil => exact ⟨pager, [], rfl, hcoherent, .refl pager⟩
  | cons reference references ih =>
      obtain ⟨next, resolution, haccess, hnext, hshape⟩ :=
        access_coherent hcoherent reference.pid reference.page reference.bound
      obtain ⟨last, log, hrest, hlast, hrestShape⟩ := ih hnext
      exact ⟨last, _, accessAll_cons haccess hrest, hlast, hshape.trans hrestShape⟩

end Pager

namespace ListPager

/-- Resolves references one after another, with a log. -/
def accessAll (lists : ListPager) :
    List Reference → ListPager × List (Reference × Resolution)
  | [] => (lists, [])
  | reference :: references =>
    let (next, resolution) := lists.access reference.pid reference.page reference.bound
    let (last, log) := next.accessAll references
    (last, (reference, resolution) :: log)

theorem accessAll_cons (lists : ListPager) (reference : Reference)
    (references : List Reference) :
    lists.accessAll (reference :: references) =
      (((lists.access reference.pid reference.page reference.bound).1.accessAll references).1,
        (reference, (lists.access reference.pid reference.page reference.bound).2) ::
          ((lists.access reference.pid reference.page reference.bound).1.accessAll references).2) :=
  rfl

end ListPager

/-- Both resolve all references, with the same log. -/
theorem Pager.Follows.accessAll {pager : Pager} {lists : ListPager}
    (hfollows : pager.Follows lists) (hpages : pager.tables.pages < halfWordCount)
    (references : List Reference) :
    ∃ last, pager.accessAll references = .ok (last, (lists.accessAll references).2) ∧
      last.Follows (lists.accessAll references).1 := by
  induction references generalizing pager lists with
  | nil => exact ⟨pager, rfl, hfollows⟩
  | cons reference references ih =>
      obtain ⟨next, after, resolution, haccess, hafter, hnext⟩ :=
        hfollows.access hpages reference.pid reference.page reference.bound
      have hshape := sameShape_of_access hfollows.coherent haccess
      obtain ⟨last, hrest, hlast⟩ := ih hnext (hshape.pages_eq ▸ hpages)
      rw [ListPager.accessAll_cons, hafter]
      exact ⟨last, accessAll_cons haccess hrest, hlast⟩

end DemandPaging
