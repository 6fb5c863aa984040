import Mathlib.Data.Bool.Basic
import DemandPaging.Proofs.Pager.ListPager

/-!
# Two list pagers side by side

Two list pagers that receive the same calls, one of them with more free frames,
stay ordered: for each process the recency list of the smaller one is an initial
part of the list of the larger one, and the larger one has at least as many free
frames. A surplus frame may be free, or hold a page that the smaller pager had to
give up; the order does not say which, and no call breaks it.
-/

namespace DemandPaging

namespace Resolution

def isHit : Resolution → Bool
  | .hit _ => true
  | .illegal | .loaded _ | .replaced _ _ | .starved => false

/-- Whether a legal reference did not find its page resident. -/
def isMiss : Resolution → Bool
  | .loaded _ | .replaced _ _ | .starved => true
  | .illegal | .hit _ => false

/-- The other resolution of the same reference is at least as good. -/
structure NoBetter (resolution other : Resolution) : Prop where
  hit : resolution.isHit = true → other.isHit = true
  miss : other.isMiss = true → resolution.isMiss = true
  starved : other = .starved → resolution = .starved

theorem NoBetter.refl (resolution : Resolution) : resolution.NoBetter resolution :=
  ⟨id, id, id⟩

theorem NoBetter.of_isHit {resolution other : Resolution} (hhit : other.isHit = true) :
    resolution.NoBetter other := by
  cases other with
  | hit => exact ⟨fun _ => rfl, by simp [isMiss], by simp⟩
  | illegal | loaded | replaced | starved => exact absurd hhit (by simp [isHit])

theorem NoBetter.of_isMiss {resolution other : Resolution} (hmiss : resolution.isMiss = true)
    (hother : other ≠ .starved) : resolution.NoBetter other := by
  refine ⟨?_, fun _ => hmiss, fun hstarved => absurd hstarved hother⟩
  cases resolution <;> simp_all [isHit, isMiss]

end Resolution

namespace Counters

/-- The legal references that did not find their page resident. -/
def misses (counters : Counters) : Nat := counters.faults + counters.starved

theorem hits_record (counters : Counters) (resolution : Resolution) :
    (counters.record resolution).hits = counters.hits + resolution.isHit.toNat := by
  cases resolution <;> rfl

theorem misses_record (counters : Counters) (resolution : Resolution) :
    (counters.record resolution).misses = counters.misses + resolution.isMiss.toNat := by
  cases resolution <;> simp [record, misses, Resolution.isMiss] <;> omega

end Counters

namespace ListPager

/-- The resident pages of a process, the last used first. -/
def pagesOf (lists : ListPager) (pid : Nat) : List Nat := (lists.recent pid).map Prod.fst

/-- The larger pager holds all that the smaller one holds, in the same order, and
has fared no worse. -/
structure Below (small large : ListPager) : Prop where
  processes_eq : large.processes = small.processes
  pages_eq : large.pages = small.pages
  pagesOf_initial : ∀ pid, small.pagesOf pid <+: large.pagesOf pid
  free_le : small.free.length ≤ large.free.length
  hits_le : ∀ pid, (small.counters pid).hits ≤ (large.counters pid).hits
  misses_le : ∀ pid, (large.counters pid).misses ≤ (small.counters pid).misses

variable {lists small large : ListPager} {pid page : Nat}

theorem lookup_eq_none_iff : (lists.recent pid).lookup page = none ↔ page ∉ lists.pagesOf pid := by
  rw [List.lookup_eq_none_iff, pagesOf, List.mem_map]
  constructor
  · rintro hnone ⟨entry, hentry, rfl⟩
    exact absurd (hnone entry hentry) (by simp)
  · intro hnot entry hentry
    have hne : entry.1 ≠ page := fun heq => hnot ⟨entry, hentry, heq⟩
    simpa using Ne.symm hne

theorem map_withoutPage (recent : List (Nat × Nat)) :
    (withoutPage page recent).map Prod.fst = (recent.map Prod.fst).filter (· != page) := by
  rw [withoutPage, List.filter_map]
  rfl

theorem pagesOf_use {frame : Nat} {others : List (Nat × Nat)} (other : Nat) :
    (lists.use pid page frame others).pagesOf other =
      if other = pid then page :: others.map Prod.fst else lists.pagesOf other := by
  by_cases hsame : other = pid
  · subst hsame
    simp [use, pagesOf]
  · simp [use, pagesOf, hsame]

theorem dropLast_prefix_dropLast {α : Type} {shorter longer : List α} (hle : shorter <+: longer) :
    shorter.dropLast <+: longer.dropLast := by
  obtain ⟨rest, rfl⟩ := hle
  cases rest with
  | nil => simp
  | cons item rest =>
      rw [List.dropLast_append_of_ne_nil (by simp)]
      exact (List.dropLast_prefix shorter).trans (List.prefix_append _ _)

namespace Below

theorem fresh {processes pages frames more : Nat} (hle : frames ≤ more) :
    (ListPager.fresh processes pages frames).Below (ListPager.fresh processes pages more) where
  processes_eq := rfl
  pages_eq := rfl
  pagesOf_initial := fun _ => List.prefix_refl _
  free_le := by simpa [ListPager.fresh] using hle
  hits_le := fun _ => Nat.le_refl _
  misses_le := fun _ => Nat.le_refl _

theorem tally (hbelow : small.Below large) {resolution other : Resolution}
    (hnoBetter : resolution.NoBetter other) (pid : Nat) :
    (small.tally pid resolution).Below (large.tally pid other) := by
  refine ⟨hbelow.processes_eq, hbelow.pages_eq, hbelow.pagesOf_initial, hbelow.free_le, ?_, ?_⟩
  · intro otherPid
    have hle := hbelow.hits_le otherPid
    by_cases hsame : otherPid = pid
    · subst hsame
      have hbit := Bool.toNat_le_toNat (Bool.le_iff_imp.mpr hnoBetter.hit)
      simp only [ListPager.tally, Function.update_self, Counters.hits_record]
      omega
    · simpa [ListPager.tally, hsame] using hle
  · intro otherPid
    have hle := hbelow.misses_le otherPid
    by_cases hsame : otherPid = pid
    · subst hsame
      have hbit := Bool.toNat_le_toNat (Bool.le_iff_imp.mpr hnoBetter.miss)
      simp only [ListPager.tally, Function.update_self, Counters.misses_record]
      omega
    · simpa [ListPager.tally, hsame] using hle

/-- Both put the page in front, the larger one with no fewer pages behind it. -/
theorem use (hbelow : small.Below large) {frame otherFrame : Nat}
    {free otherFree : List Nat} {others otherOthers : List (Nat × Nat)}
    (hfree : free.length ≤ otherFree.length)
    (hothers : others.map Prod.fst <+: otherOthers.map Prod.fst) :
    (ListPager.use { small with free } pid page frame others).Below
      (ListPager.use { large with free := otherFree } pid page otherFrame otherOthers) := by
  refine ⟨hbelow.processes_eq, hbelow.pages_eq, ?_, hfree, hbelow.hits_le, hbelow.misses_le⟩
  intro other
  rw [pagesOf_use, pagesOf_use]
  split
  next => exact (List.prefix_cons_inj page).mpr hothers
  next => exact hbelow.pagesOf_initial other

/-- The smaller pager has no page of the process, so anything may come in front. -/
theorem use_large (hbelow : small.Below large) {otherFrame : Nat}
    {otherFree : List Nat} {otherOthers : List (Nat × Nat)} (hnil : small.recent pid = [])
    (hfree : small.free = []) :
    small.Below
      (ListPager.use { large with free := otherFree } pid page otherFrame otherOthers) := by
  refine ⟨hbelow.processes_eq, hbelow.pages_eq, ?_, by simp [hfree], hbelow.hits_le,
    hbelow.misses_le⟩
  intro other
  rw [pagesOf_use]
  split
  next heq => simp [pagesOf, heq, hnil]
  next => exact hbelow.pagesOf_initial other

/-- The smaller pager faults on a page for which the larger one keeps all that
the smaller one held: a free frame more than the one taken makes no difference. -/
theorem refer_of_absent (hbelow : small.Below large) (habsent : page ∉ small.pagesOf pid)
    {otherFrame : Nat} {otherFree : List Nat} {otherOthers : List (Nat × Nat)}
    (hfree : small.free.length ≤ otherFree.length + 1)
    (hothers : small.pagesOf pid <+: otherOthers.map Prod.fst) :
    (small.refer pid page).1.Below
        (ListPager.use { large with free := otherFree } pid page otherFrame otherOthers) ∧
      (small.refer pid page).2.isMiss = true := by
  have hlookup := lookup_eq_none_iff.mpr habsent
  cases hcases : small.free with
  | cons head free =>
      rw [refer_of_cons hlookup hcases]
      rw [hcases, List.length_cons] at hfree
      exact ⟨hbelow.use (Nat.le_of_succ_le_succ hfree) hothers, rfl⟩
  | nil =>
      cases hlast : (small.recent pid).getLast? with
      | some last =>
          rw [refer_of_getLast? hlookup hcases hlast]
          refine ⟨hbelow.use (by simp [hcases]) (List.IsPrefix.trans ?_ hothers), rfl⟩
          rw [List.map_dropLast]
          exact List.dropLast_prefix _
      | none =>
          have hnil := List.getLast?_eq_none_iff.mp hlast
          rw [refer_of_nil hcases hnil]
          exact ⟨hbelow.use_large hnil hcases, rfl⟩

/-- One reference to a legal page, resolved by both. -/
theorem refer (hbelow : small.Below large) (pid page : Nat) :
    (small.refer pid page).1.Below (large.refer pid page).1 ∧
      (small.refer pid page).2.NoBetter (large.refer pid page).2 := by
  have hinitial := hbelow.pagesOf_initial pid
  cases hlarge : (large.recent pid).lookup page with
  | some frame =>
      rw [refer_of_lookup hlarge]
      refine ⟨?_, .of_isHit rfl⟩
      have hfilter := hinitial.filter (· != page)
      rw [pagesOf, pagesOf, ← map_withoutPage, ← map_withoutPage] at hfilter
      cases hsmall : (small.recent pid).lookup page with
      | some smallFrame =>
          rw [refer_of_lookup hsmall]
          exact hbelow.use hbelow.free_le hfilter
      | none =>
          -- The page is resident for the larger pager only, behind all pages of the smaller one.
          have habsent := lookup_eq_none_iff.mp hsmall
          have hself : (withoutPage page (small.recent pid)).map Prod.fst = small.pagesOf pid := by
            rw [map_withoutPage]
            refine List.filter_eq_self.mpr fun other hother => ?_
            simpa using fun heq : other = page => habsent (heq ▸ hother)
          rw [hself] at hfilter
          exact (hbelow.refer_of_absent habsent (Nat.le_succ_of_le hbelow.free_le) hfilter).1
  | none =>
      -- What the larger pager misses the smaller one misses too.
      have habsent : page ∉ small.pagesOf pid :=
        fun hmem => lookup_eq_none_iff.mp hlarge (hinitial.subset hmem)
      cases hlargeFree : large.free with
      | cons head free =>
          rw [refer_of_cons hlarge hlargeFree]
          have hfree := hbelow.free_le
          rw [hlargeFree, List.length_cons] at hfree
          obtain ⟨hafter, hmiss⟩ := hbelow.refer_of_absent habsent hfree hinitial
          exact ⟨hafter, .of_isMiss hmiss (by simp)⟩
      | nil =>
          have hfree : small.free = [] := by
            rw [← List.length_eq_zero_iff]
            simpa [hlargeFree] using hbelow.free_le
          cases hlast : (small.recent pid).getLast? with
          | none =>
              have hnil := List.getLast?_eq_none_iff.mp hlast
              rw [refer_of_nil hfree hnil]
              cases hlargeLast : (large.recent pid).getLast? with
              | some largeLast =>
                  rw [refer_of_getLast? hlarge hlargeFree hlargeLast]
                  exact ⟨hbelow.use_large hnil hfree, .of_isMiss rfl (by simp)⟩
              | none =>
                  rw [refer_of_nil hlargeFree (List.getLast?_eq_none_iff.mp hlargeLast)]
                  exact ⟨hbelow, .refl _⟩
          | some last =>
              -- Both give up their last page. What the larger one has in excess lies behind.
              cases hlargeLast : (large.recent pid).getLast? with
              | some largeLast =>
                  rw [refer_of_getLast? (lookup_eq_none_iff.mpr habsent) hfree hlast,
                    refer_of_getLast? hlarge hlargeFree hlargeLast]
                  refine ⟨hbelow.use hbelow.free_le ?_, .of_isMiss rfl (by simp)⟩
                  rw [List.map_dropLast, List.map_dropLast]
                  exact dropLast_prefix_dropLast hinitial
              | none =>
                  have hlargeNil := List.getLast?_eq_none_iff.mp hlargeLast
                  have hnil : small.recent pid = [] := by
                    simpa [pagesOf, hlargeNil] using hinitial
                  rw [hnil] at hlast
                  exact absurd hlast (by simp)

/-- One reference, legal or not. -/
theorem access (hbelow : small.Below large) (pid : Nat) (page bound : Int) :
    (small.access pid page bound).1.Below (large.access pid page bound).1 ∧
      (small.access pid page bound).2.NoBetter (large.access pid page bound).2 := by
  simp only [ListPager.access, hbelow.processes_eq, hbelow.pages_eq]
  split
  next =>
    split
    next =>
      obtain ⟨hafter, hnoBetter⟩ := hbelow.refer pid page.toNat
      exact ⟨hafter.tally hnoBetter pid, hnoBetter⟩
    next => exact ⟨hbelow.tally (.refl _) pid, .refl _⟩
  next => exact ⟨hbelow, .refl _⟩

theorem evacuate (hbelow : small.Below large) (pid : Nat) :
    (small.evacuate pid).1.Below (large.evacuate pid).1 := by
  refine ⟨hbelow.processes_eq, hbelow.pages_eq, ?_, ?_, hbelow.hits_le, hbelow.misses_le⟩
  · intro other
    by_cases hsame : other = pid
    · subst hsame
      simp [ListPager.evacuate, pagesOf]
    · simpa [ListPager.evacuate, pagesOf, hsame] using hbelow.pagesOf_initial other
  · have hlength := (hbelow.pagesOf_initial pid).length_le
    simp only [pagesOf, List.length_map] at hlength
    simpa [ListPager.evacuate] using Nat.add_le_add hbelow.free_le hlength

end Below

end ListPager

end DemandPaging
