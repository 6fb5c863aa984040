import Mathlib.Data.List.Nodup

/-!
# First occurrences

`List.eraseDups` keeps the first occurrence of each item, `List.eraseDupsBy` the
first of each class of items. What is kept behind an item is what is kept of the
items of other classes behind it, so the induction is over filtered tails.
-/

namespace DemandPaging

/-- Induction on a list in which what is known of the tail is known of what any
filter leaves of it. -/
theorem filtered_induction {α : Type} {motive : List α → Prop} (nil : motive [])
    (cons : ∀ head tail, (∀ keep : α → Bool, motive (tail.filter keep)) → motive (head :: tail))
    (items : List α) : motive items := by
  induction hlength : items.length using Nat.strongRecOn generalizing items with
  | ind length ih =>
      cases items with
      | nil => exact nil
      | cons head tail =>
          refine cons head tail fun keep => ih _ ?_ _ rfl
          rw [← hlength]
          exact Nat.lt_succ_of_le (List.length_filter_le keep tail)

variable {α β : Type}

theorem eraseDupsBy_sublist (same : α → α → Bool) (items : List α) :
    (items.eraseDupsBy same).Sublist items := by
  induction items using filtered_induction with
  | nil => exact .refl _
  | cons head tail ih =>
      rw [List.eraseDupsBy_cons]
      exact .cons_cons head ((ih _).trans List.filter_sublist)

theorem map_eraseDupsBy [BEq β] (f : α → β) (items : List α) :
    (items.eraseDupsBy fun later earlier => f later == f earlier).map f =
      (items.map f).eraseDups := by
  induction items using filtered_induction with
  | nil => rfl
  | cons head tail ih =>
      rw [List.eraseDupsBy_cons, List.map_cons, List.map_cons, List.eraseDups_cons, ih,
        List.filter_map]
      simp only [Bool.decide_eq_false, Function.comp_def]

theorem nodup_eraseDups [BEq α] [LawfulBEq α] (items : List α) : items.eraseDups.Nodup := by
  induction items using filtered_induction with
  | nil => exact .nil
  | cons head tail ih =>
      rw [List.eraseDups_cons, List.nodup_cons]
      refine ⟨?_, ih _⟩
      simp [List.mem_eraseDups]

theorem eraseDups_of_nodup [BEq α] [LawfulBEq α] {items : List α} (hnodup : items.Nodup) :
    items.eraseDups = items := by
  induction items with
  | nil => rfl
  | cons head tail ih =>
      obtain ⟨hhead, htail⟩ := List.nodup_cons.mp hnodup
      have hkeep : ∀ item ∈ tail, (!item == head) = true := by
        intro item hitem
        simpa using ne_of_mem_of_not_mem hitem hhead
      rw [List.eraseDups_cons, List.filter_eq_self.mpr hkeep, ih htail]

/-- It is the same to drop items before or after the repetitions. -/
theorem filter_eraseDups [BEq α] [LawfulBEq α] (keep : α → Bool) (items : List α) :
    items.eraseDups.filter keep = (items.filter keep).eraseDups := by
  induction items using filtered_induction with
  | nil => rfl
  | cons head tail ih =>
      rw [List.eraseDups_cons]
      cases hkeep : keep head with
      | true =>
          rw [List.filter_cons_of_pos hkeep, List.filter_cons_of_pos hkeep, List.eraseDups_cons, ih,
            List.filter_filter, List.filter_filter]
          simp only [Bool.and_comm]
      | false =>
          rw [List.filter_cons_of_neg (by simp [hkeep]), List.filter_cons_of_neg (by simp [hkeep]),
            ih, List.filter_filter]
          -- What is equal to the head is dropped anyway.
          congr 1
          refine List.filter_congr fun item _ => ?_
          by_cases hsame : item = head
          · simp [hsame, hkeep]
          · simp [hsame]

theorem eraseDups_concat_of_mem [BEq α] [LawfulBEq α] {items : List α} {item : α}
    (hmem : item ∈ items) : (items ++ [item]).eraseDups = items.eraseDups := by
  simp [List.eraseDups_append, List.removeAll, hmem]

theorem eraseDups_concat_of_notMem [BEq α] [LawfulBEq α] {items : List α} {item : α}
    (hnot : item ∉ items) : (items ++ [item]).eraseDups = items.eraseDups ++ [item] := by
  simp [List.eraseDups_append, List.removeAll, List.eraseDups_cons, hnot]

/-- The same items in another order leave equally many. -/
theorem length_eraseDups_of_perm [BEq α] [LawfulBEq α] {items others : List α}
    (hperm : items.Perm others) : items.eraseDups.length = others.eraseDups.length := by
  refine List.Perm.length_eq ?_
  refine (List.perm_ext_iff_of_nodup (nodup_eraseDups items) (nodup_eraseDups others)).mpr ?_
  intro item
  rw [List.mem_eraseDups, List.mem_eraseDups, hperm.mem_iff]

end DemandPaging
