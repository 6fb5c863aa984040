import DemandPaging.Proofs.Frame.Queue
import DemandPaging.Proofs.List.Answers

/-!
# Calls to the pool of free frames

Whatever frames are taken and given back, in whatever order, the pool answers like
a queue of distinct frames of the memory, and holds what the queue holds. A call
that cannot be met is refused with its cause and changes nothing.
-/

namespace DemandPaging

namespace FramePool

/-- A call to a pool. -/
inductive Call where
  | take
  | giveBack (frame : Nat)
  deriving DecidableEq, Repr

/-- What a call gives back. -/
inductive Answer where
  /-- The frame that was taken; an empty pool has none. -/
  | taken (frame? : Option Nat)
  | givenBack
  | refused (fault : MemoryFault)
  deriving DecidableEq, Repr

/-- Whether a call was in vain: it got no frame, or was refused. -/
def Answer.isVain : Answer → Bool
  | .taken none | .refused _ => true
  | .taken (some _) | .givenBack => false

/-- The answer to a call and the pool after it. A pool without a frame to take, or
one that refuses a frame, stays as it is. -/
def answer (pool : FramePool) : Call → Answer × FramePool
  | .take =>
    match pool.take? with
    | some (frame, next) => (.taken (some frame), next)
    | none => (.taken none, pool)
  | .giveBack frame =>
    match pool.giveBack frame with
    | .ok next => (.givenBack, next)
    | .error fault => (.refused fault, pool)

end FramePool

namespace FrameQueue

/-- Why a queue of frames of a memory refuses a frame: the memory does not have it,
or it is in the queue. With every frame in the queue the cause is that the queue is full. -/
def refusal? (total : Nat) (queue : List Nat) (frame : Nat) : Option MemoryFault :=
  if total ≤ frame then some (.noSuchFrame frame total)
  else if frame ∈ queue then
    some (if queue.length = total then .poolFull frame else .alreadyFree frame)
  else none

/-- The answer to a call and the queue after it: the first frame leaves the queue, and
a frame that is not refused joins it at the end. -/
def answer (total : Nat) (queue : List Nat) : FramePool.Call → FramePool.Answer × List Nat
  | .take => (.taken queue.head?, queue.tail)
  | .giveBack frame =>
    match refusal? total queue frame with
    | some fault => (.refused fault, queue)
    | none => (.givenBack, queue ++ [frame])

theorem refusal?_eq_none_iff {total frame : Nat} {queue : List Nat} :
    refusal? total queue frame = none ↔ frame < total ∧ frame ∉ queue := by
  unfold refusal?
  split
  next hle => simp [Nat.not_lt.mpr hle]
  next hlt =>
    split
    next hmem => simp [hmem]
    next hnot => simp [hnot, Nat.lt_of_not_le hlt]

end FrameQueue

namespace FramePool

variable {pool : FramePool} {frame total : Nat} {queue : List Nat}

theorem answer_of_isVain {call : Call} (hvain : (pool.answer call).1.isVain = true) :
    (pool.answer call).2 = pool := by
  cases call with
  | take =>
      simp only [answer] at hvain ⊢
      split at hvain
      next => exact nomatch hvain
      next => rfl
  | giveBack frame =>
      simp only [answer] at hvain ⊢
      split at hvain
      next => exact nomatch hvain
      next => rfl

/-- A pool that holds a queue: the queue has distinct frames of the memory, and lies in
the ring from the head up to the tail. -/
structure Holds (pool : FramePool) (total : Nat) (queue : List Nat) : Prop where
  toList_eq : pool.toList = queue
  total_eq : pool.total = total
  count_eq : pool.count = queue.length
  length_le : queue.length ≤ total
  nodup : queue.Nodup
  lt_total : ∀ frame ∈ queue, frame < total
  isFree_iff : ∀ frame, pool.isFree frame = true ↔ frame ∈ queue
  head_lt : pool.head < total
  tail_lt : pool.tail < total
  tail_eq : pool.tail = (pool.head + pool.count) % total
  /-- A call in vain leaves the whole ring as it is. -/
  answer_of_isVain : ∀ call, (pool.answer call).1.isVain = true → (pool.answer call).2 = pool

theorem Sound.holds (hpool : pool.Sound) : pool.Holds pool.total pool.toList where
  toList_eq := rfl
  total_eq := rfl
  count_eq := length_toList.symm
  length_le := by rw [length_toList]; exact hpool.count_le
  nodup := hpool.nodup
  lt_total := hpool.lt_total
  isFree_iff := fun _ => isFree_iff
  head_lt := pool.head_lt
  tail_lt := pool.tail_lt
  tail_eq := hpool.tail_eq
  answer_of_isVain := fun _ => FramePool.answer_of_isVain

/-- A pool refuses the frames that the queue refuses, for the same cause. -/
theorem giveBack_of_refusal (hpool : pool.Sound) {fault : MemoryFault}
    (hrefusal : FrameQueue.refusal? pool.total pool.toList frame = some fault) :
    pool.giveBack frame = .error fault := by
  unfold FrameQueue.refusal? at hrefusal
  unfold giveBack
  split at hrefusal
  next hle => rw [if_pos hle, Option.some.inj hrefusal]
  next hlt =>
    rw [if_neg hlt]
    split at hrefusal
    next hmem =>
      -- The pool looks whether it is full before it looks for the frame; the order is
      -- of no matter to the queue, since a full one has every frame.
      have hcount : pool.total ≤ pool.count ↔ pool.toList.length = pool.total := by
        rw [length_toList]
        exact ⟨Nat.le_antisymm hpool.count_le, Nat.le_of_eq ∘ Eq.symm⟩
      rw [if_pos (isFree_iff.mpr hmem), ← Option.some.inj hrefusal]
      simp only [hcount]
      split <;> rfl
    next => exact nomatch hrefusal

theorem answer_take (hpool : pool.Sound) :
    (pool.answer .take).1 = .taken pool.toList.head? ∧
      (pool.answer .take).2.toList = pool.toList.tail ∧
      (pool.answer .take).2.total = pool.total ∧ (pool.answer .take).2.Sound := by
  cases hlist : pool.toList with
  | nil =>
      have hanswer : pool.answer .take = (.taken none, pool) := by
        simp only [answer, take?_of_nil hlist]
      rw [hanswer]
      exact ⟨rfl, hlist, rfl, hpool⟩
  | cons frame rest =>
      obtain ⟨next, htake, hnext⟩ := take?_of_cons hpool hlist
      have hanswer : pool.answer .take = (.taken (some frame), next) := by
        simp only [answer, htake]
      rw [hanswer]
      exact ⟨rfl, hnext⟩

theorem answer_giveBack_of_refusal (hpool : pool.Sound) {fault : MemoryFault}
    (hrefusal : FrameQueue.refusal? pool.total pool.toList frame = some fault) :
    pool.answer (.giveBack frame) = (.refused fault, pool) := by
  simp only [answer, giveBack_of_refusal hpool hrefusal]

theorem answer_giveBack (hpool : pool.Sound) (hframe : frame < pool.total)
    (hnot : frame ∉ pool.toList) :
    (pool.answer (.giveBack frame)).1 = .givenBack ∧
      (pool.answer (.giveBack frame)).2.toList = pool.toList ++ [frame] ∧
      (pool.answer (.giveBack frame)).2.total = pool.total ∧
      (pool.answer (.giveBack frame)).2.Sound := by
  obtain ⟨next, hgive, hnext⟩ := giveBack_of_not_mem hpool hframe hnot
  have hanswer : pool.answer (.giveBack frame) = (.givenBack, next) := by
    simp only [answer, hgive]
  rw [hanswer]
  exact ⟨rfl, hnext⟩

/-- The pool answers a call like its queue. -/
theorem answer_eq_queue (hpool : pool.Sound) (call : Call) :
    (pool.answer call).1 = (FrameQueue.answer pool.total pool.toList call).1 ∧
      (pool.answer call).2.toList = (FrameQueue.answer pool.total pool.toList call).2 ∧
      (pool.answer call).2.total = pool.total ∧ (pool.answer call).2.Sound := by
  cases call with
  | take => exact answer_take hpool
  | giveBack frame =>
      rw [FrameQueue.answer]
      split
      next fault hrefusal =>
        rw [answer_giveBack_of_refusal hpool hrefusal]
        exact ⟨rfl, rfl, rfl, hpool⟩
      next hnone =>
        obtain ⟨hframe, hnot⟩ := FrameQueue.refusal?_eq_none_iff.mp hnone
        exact answer_giveBack hpool hframe hnot

/-- Whatever the calls, a pool answers like a queue in which all frames of the memory
lie at first, and holds what the queue holds. -/
theorem answers_like_a_queue (htotal : 0 < total) (calls : List Call) :
    ∃ pool, full total = .ok pool ∧ pool.toList = List.range total ∧
      (answerAll answer pool calls).1 =
        (answerAll (FrameQueue.answer total) (List.range total) calls).1 ∧
      (answerAll answer pool calls).2.Holds total
        (answerAll (FrameQueue.answer total) (List.range total) calls).2 := by
  obtain ⟨pool, hfull⟩ : ∃ pool, full total = .ok pool := ⟨_, dif_pos htotal⟩
  obtain ⟨-, rfl, hlist, hpool⟩ := full_eq_ok hfull
  obtain ⟨hanswers, hqueue, hsame, hsound⟩ := answerAll_related
    (fun (next : FramePool) queue =>
      next.toList = queue ∧ next.total = pool.total ∧ next.Sound)
    (fun next queue call ⟨hqueue, hsame, hsound⟩ => by
      obtain ⟨hanswer, hafter, htotal, hnext⟩ := answer_eq_queue hsound call
      rw [hqueue, hsame] at hanswer hafter
      exact ⟨hanswer, hafter, htotal.trans hsame, hnext⟩)
    calls ⟨hlist, rfl, hpool⟩
  refine ⟨pool, hfull, hlist, hanswers, ?_⟩
  rw [← hqueue, ← hsame]
  exact hsound.holds

/-- Three frames: the ring is full, empty, and gone round once. -/
theorem three_frames_queue_up :
    0 < 3 ∧ ∃ pool, full 3 = .ok pool ∧
      (answerAll answer pool [.giveBack 1, .take, .take, .giveBack 2, .giveBack 1, .take,
        .giveBack 0, .giveBack 3, .take, .take, .take, .take]).1 =
      [.refused (.poolFull 1), .taken (some 0), .taken (some 1), .refused (.alreadyFree 2),
        .givenBack, .taken (some 2), .givenBack, .refused (.noSuchFrame 3 3), .taken (some 1),
        .taken (some 0), .taken none, .taken none] := by
  obtain ⟨pool, hfull, -, hanswers, -⟩ := answers_like_a_queue (show 0 < 3 by decide) _
  exact ⟨by decide, pool, hfull, hanswers.trans (by decide)⟩

end FramePool

end DemandPaging
