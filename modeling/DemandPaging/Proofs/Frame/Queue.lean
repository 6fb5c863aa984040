import Mathlib.Data.List.Nodup
import DemandPaging.Frame.Pool

/-!
# The pool of free frames as a queue

Read from its head, the ring is a queue without duplicates. Taking a frame
removes the first one and giving a frame back appends it, however often the
cursors have gone round the ring.
-/

namespace DemandPaging.FramePool

/-- The occupied stretch of the ring ends at the tail and holds distinct frames
of the memory. -/
structure Sound (pool : FramePool) : Prop where
  count_le : pool.count ≤ pool.total
  tail_eq : pool.tail = (pool.head + pool.count) % pool.total
  nodup : pool.toList.Nodup
  lt_total : ∀ frame ∈ pool.toList, frame < pool.total

variable {pool : FramePool} {frame : Nat}

@[simp] theorem length_toList : pool.toList.length = pool.count := by
  simp [toList]

theorem isFree_iff : pool.isFree frame = true ↔ frame ∈ pool.toList := by
  simp [isFree]

theorem toList_eq_nil_iff : pool.toList = [] ↔ pool.count = 0 := by
  rw [← length_toList, List.length_eq_zero_iff]

theorem frameAt_zero :
    pool.frameAt 0 = pool.slots[(⟨pool.head, pool.head_lt⟩ : Fin pool.slots.size)] := by
  simp [frameAt, Nat.mod_eq_of_lt pool.head_lt]

/-- Two offsets below the size of the ring reach different slots. -/
theorem offset_ne {head size near far : Nat} (hnear : near < far) (hfar : far < size) :
    (head + near) % size ≠ (head + far) % size := by
  intro heq
  have hzero := Nat.sub_mod_eq_zero_of_mod_eq heq.symm
  have hdiff : head + far - (head + near) = far - near := by omega
  rw [hdiff, Nat.mod_eq_of_lt (by omega)] at hzero
  omega

/-! ## A full pool -/

theorem full_eq_ok {total : Nat} (hfull : full total = .ok pool) :
    0 < total ∧ pool.total = total ∧ pool.toList = List.range total ∧ pool.Sound := by
  unfold full at hfull
  split at hfull
  next hpos =>
    have hpool := Except.ok.inj hfull
    have htotal : pool.total = total := by
      simp [← hpool, FramePool.total]
    have hlist : pool.toList = List.range total := by
      rw [← hpool, toList]
      refine (List.map_congr_left fun i hi => ?_).trans (List.map_id _)
      simp [frameAt, Nat.mod_eq_of_lt (List.mem_range.mp hi)]
    have hcount : pool.count = total := by
      rw [← length_toList, hlist, List.length_range]
    refine ⟨hpos, htotal, hlist, ?_, ?_, ?_, ?_⟩
    · exact Nat.le_of_eq (hcount.trans htotal.symm)
    · rw [htotal, hcount, ← hpool]
      simp
    · rw [hlist]
      exact List.nodup_range
    · intro frame hframe
      rw [hlist] at hframe
      rw [htotal]
      exact List.mem_range.mp hframe
  next => exact absurd hfull (by simp)

/-! ## Taking and giving back -/

theorem take?_of_nil (hnil : pool.toList = []) : pool.take? = none := by
  simp [take?, toList_eq_nil_iff.mp hnil]

/-- Taking a frame removes the first of the queue. -/
theorem take?_of_cons (hpool : pool.Sound) {rest : List Nat} (hcons : pool.toList = frame :: rest) :
    ∃ next, pool.take? = some (frame, next) ∧ next.toList = rest ∧
      next.total = pool.total ∧ next.Sound := by
  obtain ⟨count, hcount⟩ : ∃ count, pool.count = count + 1 :=
    ⟨rest.length, by rw [← length_toList, hcons, List.length_cons]⟩
  -- The new head reaches the slots of the old one, each at an offset less.
  have hstep : ∀ i, ((pool.head + 1) % pool.slots.size + i) % pool.slots.size =
      (pool.head + (i + 1)) % pool.slots.size := by
    intro i
    rw [Nat.mod_add_mod, Nat.add_assoc, Nat.add_comm 1 i]
  have hlist : pool.toList =
      pool.frameAt 0 :: (List.range count).map fun i => pool.frameAt (i + 1) := by
    rw [toList, hcount, List.range_succ_eq_map, List.map_cons, List.map_map]
    rfl
  obtain ⟨hhead, hrest⟩ := List.cons.inj (hcons.symm.trans hlist)
  let next : FramePool :=
    { pool with
      head := (pool.head + 1) % pool.slots.size
      count := pool.count - 1
      head_lt := Nat.mod_lt _ pool.total_pos }
  have hnext : next.toList = rest := by
    rw [hrest, toList]
    have hnextCount : next.count = count := by
      simp [next, hcount]
    rw [hnextCount]
    refine List.map_congr_left fun i _ => ?_
    simp only [frameAt, next, hstep]
  have htake : pool.take? = some (frame, next) := by
    simp [take?, hcount, hhead, frameAt_zero, next]
  refine ⟨next, htake, hnext, rfl, ?_⟩
  have hsublist : rest.Sublist pool.toList := by
    rw [hcons]
    exact List.sublist_cons_self frame rest
  refine ⟨?_, ?_, ?_, ?_⟩
  · have hle := hpool.count_le
    simp only [next, total] at hle ⊢
    omega
  · have htail := hpool.tail_eq
    simp only [next, total] at htail ⊢
    rw [htail, hcount, Nat.add_sub_cancel, hstep]
  · rw [hnext]
    exact hpool.nodup.sublist hsublist
  · rw [hnext]
    exact fun other hother => hpool.lt_total other (hsublist.subset hother)

/-- A pool that lacks a frame of the memory is not full. -/
theorem count_lt_total (hpool : pool.Sound) (hframe : frame < pool.total)
    (hnot : frame ∉ pool.toList) : pool.count < pool.total := by
  have hsubset : frame :: pool.toList ⊆ List.range pool.total := by
    intro other hother
    rcases List.mem_cons.mp hother with rfl | hother
    · exact List.mem_range.mpr hframe
    · exact List.mem_range.mpr (hpool.lt_total other hother)
  have hlength := (List.nodup_cons.mpr ⟨hnot, hpool.nodup⟩).length_le_of_subset hsubset
  simp only [List.length_cons, length_toList, List.length_range] at hlength
  exact hlength

/-- A frame of the memory that is not free is appended to the queue. -/
theorem giveBack_of_not_mem (hpool : pool.Sound) (hframe : frame < pool.total)
    (hnot : frame ∉ pool.toList) :
    ∃ next, pool.giveBack frame = .ok next ∧ next.toList = pool.toList ++ [frame] ∧
      next.total = pool.total ∧ next.Sound := by
  have hcount := count_lt_total hpool hframe hnot
  let next : FramePool :=
    { slots := pool.slots.set pool.tail frame pool.tail_lt
      head := pool.head
      tail := (pool.tail + 1) % pool.slots.size
      count := pool.count + 1
      head_lt := by simpa using pool.head_lt
      tail_lt := by rw [Array.size_set]; exact Nat.mod_lt _ pool.total_pos }
  have hgive : pool.giveBack frame = .ok next := by
    have hfree : ¬pool.isFree frame = true := isFree_iff.not.mpr hnot
    simp only [giveBack, Nat.not_le.mpr hframe, Nat.not_le.mpr hcount, hfree, if_false]
    rfl
  have htotal : next.total = pool.total := by
    simp [next, total]
  have hlast : next.frameAt pool.count = frame := by
    have htail := hpool.tail_eq
    simp only [total] at htail
    simp [frameAt, next, ← htail]
  have hlist : next.toList = pool.toList ++ [frame] := by
    rw [toList]
    change (List.range (pool.count + 1)).map next.frameAt = _
    rw [List.range_succ, List.map_append, List.map_singleton, hlast]
    congr 1
    refine List.map_congr_left fun i hi => ?_
    have hne : pool.tail ≠ (pool.head + i) % pool.slots.size := by
      rw [hpool.tail_eq]
      exact (offset_ne (List.mem_range.mp hi) hcount).symm
    simp [frameAt, next, Array.getElem_set, hne]
  refine ⟨next, hgive, hlist, htotal, ?_, ?_, ?_, ?_⟩
  · rw [htotal]
    exact hcount
  · rw [htotal]
    have htail := hpool.tail_eq
    simp only [next, total] at htail ⊢
    rw [htail, Nat.mod_add_mod, Nat.add_assoc]
  · rw [hlist]
    exact List.nodup_append.mpr ⟨hpool.nodup, List.nodup_singleton frame, by
      intro other hother last hlast heq
      rw [List.mem_singleton.mp hlast] at heq
      exact hnot (heq ▸ hother)⟩
  · rw [hlist, htotal]
    intro other hother
    rcases List.mem_append.mp hother with hold | hnew
    · exact hpool.lt_total other hold
    · rw [List.mem_singleton.mp hnew]
      exact hframe

end DemandPaging.FramePool
