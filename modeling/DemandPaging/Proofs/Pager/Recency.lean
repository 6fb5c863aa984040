import Mathlib.Data.List.Nodup
import Mathlib.Logic.Function.Basic
import DemandPaging.PageTable.Entry

/-!
# Recency lists

A recency list holds the resident pages of one process with their frames, the
most recently used page first. It says of a table what replacement depends on,
without the times themselves: to use a page is to move it to the front, and the
page that makes room is the last one.
-/

namespace DemandPaging

/-- The list holds exactly the resident pages of a process with their frames, and
it is ordered by the time of their last use, the latest first. -/
structure RecencyOrder (entryOf : Nat → Entry) (recent : List (Nat × Nat)) : Prop where
  mem_iff : ∀ page frame,
    (page, frame) ∈ recent ↔ (entryOf page).residentFrame? = some frame
  ordered : recent.Pairwise fun newer older =>
    (entryOf older.1).lastUsed < (entryOf newer.1).lastUsed

/-- The list without a page. -/
def withoutPage (page : Nat) (recent : List (Nat × Nat)) : List (Nat × Nat) :=
  recent.filter fun entry => entry.1 != page

theorem mem_withoutPage {page : Nat} {entry : Nat × Nat} {recent : List (Nat × Nat)} :
    entry ∈ withoutPage page recent ↔ entry ∈ recent ∧ entry.1 ≠ page := by
  simp [withoutPage]

/-- The order by page. -/
def byPage (low high : Nat × Nat) : Bool := low.1 ≤ high.1

theorem pairwise_mergeSort_byPage (entries : List (Nat × Nat)) :
    (entries.mergeSort byPage).Pairwise fun low high => byPage low high = true := by
  apply List.pairwise_mergeSort
  · intro low middle high hlow hhigh
    exact decide_eq_true (Nat.le_trans (of_decide_eq_true hlow) (of_decide_eq_true hhigh))
  · intro low high
    simpa [byPage] using Nat.le_total low.1 high.1

theorem Entry.valid_of_residentFrame? {entry : Entry} {frame : Nat}
    (hframe : entry.residentFrame? = some frame) : entry.valid = true :=
  (residentFrame?_eq_some_iff.mp hframe).1

namespace RecencyOrder

variable {entryOf : Nat → Entry} {recent : List (Nat × Nat)} {page frame : Nat}

theorem nodup_pages (horder : RecencyOrder entryOf recent) : (recent.map Prod.fst).Nodup := by
  refine List.pairwise_map.mpr (horder.ordered.imp ?_)
  intro newer older hlt heq
  rw [heq] at hlt
  exact Nat.lt_irrefl _ hlt

theorem nodup (horder : RecencyOrder entryOf recent) : recent.Nodup :=
  horder.nodup_pages.of_map

/-- Looking up a page finds the frame that it occupies. -/
theorem lookup_eq (horder : RecencyOrder entryOf recent) (page : Nat) :
    recent.lookup page = (entryOf page).residentFrame? := by
  cases hlookup : recent.lookup page with
  | some frame =>
      obtain ⟨before, after, rfl, -⟩ := List.lookup_eq_some_iff.mp hlookup
      exact ((horder.mem_iff page frame).mp (by simp)).symm
  | none =>
      symm
      rw [Option.eq_none_iff_forall_ne_some]
      intro frame hframe
      have hmem := (horder.mem_iff page frame).mpr hframe
      exact absurd (List.lookup_eq_none_iff.mp hlookup _ hmem) (by simp)

theorem eq_nil_iff (horder : RecencyOrder entryOf recent) :
    recent = [] ↔ ∀ page, (entryOf page).residentFrame? = none := by
  constructor
  · rintro rfl page
    rw [← horder.lookup_eq page]
    rfl
  · intro hnone
    rw [List.eq_nil_iff_forall_not_mem]
    rintro ⟨page, frame⟩ hmem
    have hframe := (horder.mem_iff page frame).mp hmem
    rw [hnone page] at hframe
    exact absurd hframe (by simp)

/-- A page that is not resident, or no longer, leaves the list. -/
theorem remove (horder : RecencyOrder entryOf recent) {entry : Entry}
    (hentry : entry.residentFrame? = none) :
    RecencyOrder (Function.update entryOf page entry) (withoutPage page recent) := by
  constructor
  · intro other frame
    rw [mem_withoutPage, horder.mem_iff]
    by_cases hsame : other = page
    · subst hsame
      simp [hentry]
    · simp [hsame]
  · apply (horder.ordered.filter _).imp_of_mem
    intro newer older hnewer holder hlt
    rw [Function.update_of_ne (mem_withoutPage.mp holder).2,
      Function.update_of_ne (mem_withoutPage.mp hnewer).2]
    exact hlt

/-- A page that is used now moves, or comes, to the front. -/
theorem use (horder : RecencyOrder entryOf recent) {entry : Entry}
    (hentry : entry.residentFrame? = some frame)
    (hnow : ∀ other, (entryOf other).valid = true → (entryOf other).lastUsed < entry.lastUsed) :
    RecencyOrder (Function.update entryOf page entry)
      ((page, frame) :: withoutPage page recent) := by
  constructor
  · intro other otherFrame
    rw [List.mem_cons, mem_withoutPage, horder.mem_iff]
    by_cases hsame : other = page
    · subst hsame
      simp [hentry, eq_comm]
    · simp [hsame]
  · refine List.pairwise_cons.mpr ⟨?_, (horder.ordered.filter _).imp_of_mem ?_⟩
    · rintro ⟨other, otherFrame⟩ hother
      obtain ⟨hmem, hne⟩ := mem_withoutPage.mp hother
      simp only [Function.update_self, Function.update_of_ne hne]
      have hframe := (horder.mem_iff other otherFrame).mp hmem
      exact hnow other (Entry.valid_of_residentFrame? hframe)
    · intro newer older hnewer holder hlt
      rw [Function.update_of_ne (mem_withoutPage.mp holder).2,
        Function.update_of_ne (mem_withoutPage.mp hnewer).2]
      exact hlt

theorem withoutPage_eq_self (horder : RecencyOrder entryOf recent)
    (hnot : (entryOf page).residentFrame? = none) : withoutPage page recent = recent := by
  apply List.filter_eq_self.mpr
  rintro ⟨other, frame⟩ hmem
  have hframe := (horder.mem_iff other frame).mp hmem
  have hne : other ≠ page := by
    rintro rfl
    rw [hnot] at hframe
    exact absurd hframe (by simp)
  simp [hne]

/-- The page that no resident page was used before is the last of the list. -/
theorem getLast?_eq (horder : RecencyOrder entryOf recent)
    (hframe : (entryOf page).residentFrame? = some frame)
    (holdest : ∀ other, (entryOf other).valid = true →
      (entryOf page).lastUsed ≤ (entryOf other).lastUsed) :
    recent.getLast? = some (page, frame) := by
  have hmem := (horder.mem_iff page frame).mpr hframe
  rcases List.eq_nil_or_concat' recent with rfl | ⟨init, last, rfl⟩
  · exact absurd hmem List.not_mem_nil
  · rw [List.getLast?_concat]
    rcases List.mem_append.mp hmem with hinit | hlast
    · have hlastFrame := (horder.mem_iff last.1 last.2).mp (by simp)
      have hle := holdest last.1 (Entry.valid_of_residentFrame? hlastFrame)
      have hlt := (List.pairwise_append.mp horder.ordered).2.2 _ hinit last (by simp)
      exact absurd hle (Nat.not_le.mpr hlt)
    · rw [List.mem_singleton.mp hlast]

/-- The last entry is the only one of its page. -/
theorem dropLast_eq (horder : RecencyOrder entryOf recent)
    (hlast : recent.getLast? = some (page, frame)) : recent.dropLast = withoutPage page recent := by
  obtain ⟨init, rfl⟩ := List.getLast?_eq_some_iff.mp hlast
  have hnodup := horder.nodup_pages
  rw [List.map_append, List.nodup_append] at hnodup
  rw [List.dropLast_concat, withoutPage, List.filter_append, List.filter_eq_self.mpr]
  · simp
  · intro entry hentry
    simpa using hnodup.2.2 entry.1 (List.mem_map_of_mem hentry) page (by simp)

/-- A table without a resident page has an empty list. -/
theorem clear (hnone : ∀ page, (entryOf page).residentFrame? = none) : RecencyOrder entryOf [] :=
  ⟨fun page _ => by simp [hnone page], .nil⟩

/-- Sorted by page, the list is the list of the resident pages. -/
theorem mergeSort_eq (horder : RecencyOrder entryOf recent) {resident : List (Nat × Nat)}
    (hmem : ∀ page frame, (page, frame) ∈ resident ↔
      (entryOf page).residentFrame? = some frame)
    (hsorted : resident.Pairwise fun low high => low.1 < high.1) :
    recent.mergeSort byPage = resident := by
  have hperm := List.mergeSort_perm recent byPage
  have hpairwise : (recent.mergeSort byPage).Pairwise fun low high => low.1 ≤ high.1 :=
    (pairwise_mergeSort_byPage recent).imp of_decide_eq_true
  refine List.Perm.eq_of_pairwise ?_ hpairwise (hsorted.imp Nat.le_of_lt) ?_
  · rintro ⟨page, frame⟩ ⟨other, otherFrame⟩ hlow hhigh hle hge
    obtain rfl : page = other := Nat.le_antisymm hle hge
    have hframe := (horder.mem_iff page frame).mp (hperm.subset hlow)
    have hother := (hmem page otherFrame).mp hhigh
    rw [hframe] at hother
    rw [Option.some.inj hother]
  · refine hperm.trans ((List.perm_ext_iff_of_nodup horder.nodup ?_).mpr ?_)
    · apply hsorted.imp
      rintro low high hlt rfl
      exact Nat.lt_irrefl _ hlt
    · rintro ⟨page, frame⟩
      rw [horder.mem_iff, hmem]

end RecencyOrder

end DemandPaging
