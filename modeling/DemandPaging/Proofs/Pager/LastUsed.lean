import Mathlib.Data.Finset.Card
import DemandPaging.Proofs.List.FirstOccurrence
import DemandPaging.Proofs.Pager.Inclusion

/-!
# The pages that were used last

A process has frames in its reach: its own and the free ones. While no other process
takes a turn, their number stays the same, and the process holds the pages that it
used last, as many as it has frames in its reach. So what is resident follows from
the pages that the process used, without any time of use.
-/

namespace DemandPaging

/-- The distinct pages of a history, the last used first. -/
def lastUsed (history : List Nat) : List Nat := history.reverse.eraseDups

theorem lastUsed_concat (history : List Nat) (page : Nat) :
    lastUsed (history ++ [page]) = page :: (lastUsed history).filter (· != page) := by
  rw [lastUsed, List.reverse_append, List.reverse_singleton, List.singleton_append,
    List.eraseDups_cons, lastUsed, filter_eraseDups]
  simp only [bne]

example : lastUsed [0, 1, 0, 2] = [2, 0, 1] := by decide

theorem nodup_lastUsed (history : List Nat) : (lastUsed history).Nodup :=
  nodup_eraseDups history.reverse

theorem length_lastUsed (history : List Nat) :
    (lastUsed history).length = history.toFinset.card := by
  rw [← List.toFinset_card_of_nodup (nodup_lastUsed history)]
  congr 1
  ext page
  simp [lastUsed, List.mem_eraseDups]

section Take

variable {items : List Nat} {item count : Nat}

theorem take_filter_ne_of_notMem (hnot : item ∉ items.take count) :
    (items.filter (· != item)).take count = items.take count := by
  induction items generalizing count with
  | nil => rfl
  | cons head items ih =>
      cases count with
      | zero => rfl
      | succ count =>
          rw [List.take_succ_cons, List.mem_cons, not_or] at hnot
          rw [List.filter_cons_of_pos (by simpa using Ne.symm hnot.1), List.take_succ_cons,
            List.take_succ_cons, ih hnot.2]

/-- Without one of its items, an initial part is one item shorter. -/
theorem filter_ne_take_succ (hnodup : items.Nodup) (hmem : item ∈ items.take (count + 1)) :
    (items.take (count + 1)).filter (· != item) = (items.filter (· != item)).take count := by
  induction items generalizing count with
  | nil => exact absurd hmem (by simp)
  | cons head items ih =>
      obtain ⟨hhead, htail⟩ := List.nodup_cons.mp hnodup
      rw [List.take_succ_cons] at hmem ⊢
      by_cases hsame : head = item
      · subst hsame
        have hkeep : ∀ other ∈ items, (other != head) = true := by
          intro other hother
          simpa using ne_of_mem_of_not_mem hother hhead
        rw [List.filter_cons_of_neg (by simp), List.filter_cons_of_neg (by simp),
          List.filter_eq_self.mpr hkeep,
          List.filter_eq_self.mpr fun other hother => hkeep other (List.mem_of_mem_take hother)]
      · have hmem := (List.mem_cons.mp hmem).resolve_left (Ne.symm hsame)
        cases count with
        | zero => exact absurd hmem (by simp)
        | succ count =>
            rw [List.filter_cons_of_pos (by simpa using hsame),
              List.filter_cons_of_pos (by simpa using hsame), List.take_succ_cons, ih htail hmem]

end Take

namespace ListPager

/-- A process with this number of frames in its reach holds the pages that it used
last. -/
structure Keeps (lists : ListPager) (pid reach : Nat) (history : List Nat) : Prop where
  pagesOf_eq : lists.pagesOf pid = (lastUsed history).take reach
  reach_eq : lists.free.length + (lists.pagesOf pid).length = reach

variable {lists : ListPager} {pid reach : Nat} {history : List Nat}

theorem keeps_nil (hnil : lists.recent pid = []) : lists.Keeps pid lists.free.length [] := by
  have hpages : lists.pagesOf pid = [] := by rw [pagesOf, hnil, List.map_nil]
  exact ⟨by simp [hpages, lastUsed], by simp [hpages]⟩

namespace Keeps

theorem recount (hkeeps : lists.Keeps pid reach history) (counters : Nat → Counters) :
    ({ lists with counters } : ListPager).Keeps pid reach history :=
  ⟨hkeeps.pagesOf_eq, hkeeps.reach_eq⟩

/-- Without a frame in reach there is no page, whatever was used. -/
theorem of_reach_zero (hkeeps : lists.Keeps pid 0 history) (other : List Nat) :
    lists.Keeps pid 0 other :=
  ⟨by rw [hkeeps.pagesOf_eq, List.take_zero, List.take_zero], hkeeps.reach_eq⟩

theorem nodup_pagesOf (hkeeps : lists.Keeps pid reach history) : (lists.pagesOf pid).Nodup := by
  rw [hkeeps.pagesOf_eq]
  exact (nodup_lastUsed history).sublist (List.take_sublist _ _)

theorem length_pagesOf (hkeeps : lists.Keeps pid reach history) :
    (lists.pagesOf pid).length = min reach history.toFinset.card := by
  rw [hkeeps.pagesOf_eq, List.length_take, length_lastUsed]

/-- With a frame in reach, a reference gets one, and its page goes in front of the
pages used last. -/
theorem refer_eq (hkeeps : lists.Keeps pid (reach + 1) history) (page : Nat) :
    ∃ frame free others resolution,
      lists.refer pid page = (use { lists with free } pid page frame others, resolution) ∧
      resolution.outcome = .frame frame ∧
      others.map Prod.fst = ((lastUsed history).filter (· != page)).take reach ∧
      free.length + others.length = reach := by
  have hlength := hkeeps.reach_eq
  have hpages := hkeeps.pagesOf_eq
  cases hlookup : (lists.recent pid).lookup page with
  | some frame =>
      have hmem : page ∈ lists.pagesOf pid := by
        by_contra hnot
        rw [lookup_eq_none_iff.mpr hnot] at hlookup
        exact absurd hlookup (by simp)
      have hothers : (withoutPage page (lists.recent pid)).map Prod.fst =
          (lists.pagesOf pid).filter (· != page) := map_withoutPage (lists.recent pid)
      have hcount : (withoutPage page (lists.recent pid)).length + 1 =
          (lists.pagesOf pid).length := by
        rw [← List.length_map Prod.fst, hothers, ← hkeeps.nodup_pagesOf.erase_eq_filter,
          List.length_erase_add_one hmem]
      refine ⟨frame, lists.free, _, _, refer_of_lookup hlookup, rfl, ?_, by omega⟩
      rw [hpages] at hmem hothers
      rw [hothers, filter_ne_take_succ (nodup_lastUsed history) hmem]
  | none =>
      have hnot := lookup_eq_none_iff.mp hlookup
      have hrest : (lists.pagesOf pid).take reach =
          ((lastUsed history).filter (· != page)).take reach := by
        rw [hpages] at hnot ⊢
        rw [List.take_take, Nat.min_eq_left (Nat.le_succ reach), take_filter_ne_of_notMem]
        exact fun hmem => hnot (List.take_subset_take_left _ (Nat.le_succ reach) hmem)
      cases hfree : lists.free with
      | cons frame free =>
          rw [hfree, List.length_cons] at hlength
          refine ⟨frame, free, _, _, refer_of_cons hlookup hfree, rfl, ?_, ?_⟩
          · rw [← hrest, List.take_of_length_le (by omega), pagesOf]
          · rw [pagesOf, List.length_map] at hlength
            omega
      | nil =>
          rw [hfree, List.length_nil, Nat.zero_add] at hlength
          have hcount : (lists.recent pid).length = reach + 1 := by
            rw [← hlength, pagesOf, List.length_map]
          rcases List.eq_nil_or_concat' (lists.recent pid) with hnil | ⟨init, last, hrecent⟩
          · rw [hnil] at hcount
            exact absurd hcount (by simp)
          · have hlast : (lists.recent pid).getLast? = some last := by
              rw [hrecent, List.getLast?_concat]
            refine ⟨last.2, lists.free, _, _, refer_of_getLast? hlookup hfree hlast, rfl, ?_, ?_⟩
            · rw [← hrest, pagesOf, ← List.map_take, List.dropLast_eq_take, hcount,
                Nat.add_sub_cancel]
            · rw [List.length_dropLast, hcount, hfree]
              simp

/-- With a frame in reach, a legal reference gets one at the next instant, and the
process goes on to hold the pages used last. -/
theorem access (hkeeps : lists.Keeps pid reach history) (hreach : 0 < reach)
    (hpid : pid < lists.processes) {page bound : Int}
    (hlegal : isWithin page (min bound lists.pages) = true) :
    ∃ next resolution frame, lists.access pid page bound = (next, resolution) ∧
      resolution.outcome = .frame frame ∧ next.Keeps pid reach (history ++ [page.toNat]) ∧
      next.clock = lists.clock + 1 := by
  obtain ⟨room, rfl⟩ := Nat.exists_eq_succ_of_ne_zero (Nat.ne_of_gt hreach)
  obtain ⟨frame, free, others, resolution, heq, hframe, hothers, hcount⟩ :=
    hkeeps.refer_eq page.toNat
  have hused : (use { lists with free } pid page.toNat frame others).Keeps pid (room + 1)
      (history ++ [page.toNat]) := by
    constructor
    · rw [pagesOf_use, if_pos rfl, lastUsed_concat, List.take_succ_cons, hothers]
    · rw [pagesOf_use, if_pos rfl, List.length_cons, List.length_map]
      show free.length + (others.length + 1) = room + 1
      omega
  refine ⟨(use { lists with free } pid page.toNat frame others).tally pid resolution, resolution,
    frame, ?_, hframe, hused.recount _, rfl⟩
  rw [access_of_legal hpid (isWithin_iff.mp hlegal), heq]

end Keeps

end ListPager

end DemandPaging
