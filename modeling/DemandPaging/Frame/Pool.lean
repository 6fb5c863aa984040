import DemandPaging.Failure.Basic

/-!
# The pool of free frames

Free frames wait in a ring of as many slots as there are frames. They leave at
the head and come back at the tail, so the frame that has been free longest is
taken first. Slots outside the occupied stretch keep stale numbers that nothing
reads; `FramePool.toList` is the view that counts.
-/

namespace DemandPaging

/-- The free frames of a memory with `slots.size` frames. -/
structure FramePool where
  slots : Array Nat
  /-- Slot of the frame that is taken next. -/
  head : Nat
  /-- Slot that the next released frame gets. -/
  tail : Nat
  /-- Number of free frames. -/
  count : Nat
  head_lt : head < slots.size
  tail_lt : tail < slots.size
  deriving DecidableEq, Repr

namespace FramePool

/-- The pool in which each of the frames `0, …, total - 1` is free. -/
def full (total : Nat) : Except MemoryFault FramePool :=
  if h : 0 < total then
    .ok { slots := Array.range total, head := 0, tail := 0, count := total,
          head_lt := by simpa using h, tail_lt := by simpa using h }
  else .error .noFrames

/-- Number of frames of the memory, free or not. -/
def total (pool : FramePool) : Nat := pool.slots.size

theorem total_pos (pool : FramePool) : 0 < pool.total :=
  Nat.zero_lt_of_lt pool.head_lt

def isEmpty (pool : FramePool) : Bool := pool.count = 0

/-- The frame `i` slots behind the head, going round the ring. -/
def frameAt (pool : FramePool) (i : Nat) : Nat :=
  have _inside : (pool.head + i) % pool.slots.size < pool.slots.size := Nat.mod_lt _ pool.total_pos
  pool.slots[(pool.head + i) % pool.slots.size]

/-- The free frames in the order in which they will be taken. -/
def toList (pool : FramePool) : List Nat := (List.range pool.count).map pool.frameAt

def isFree (pool : FramePool) (frame : Nat) : Bool := pool.toList.contains frame

/-- Takes the frame that has been free longest; an empty pool gives none. -/
def take? (pool : FramePool) : Option (Nat × FramePool) :=
  if pool.count = 0 then none
  else
    have _inside := pool.head_lt
    some (pool.slots[pool.head],
      { pool with
        head := (pool.head + 1) % pool.slots.size
        count := pool.count - 1
        head_lt := Nat.mod_lt _ pool.total_pos })

/-- Gives a frame back. The frame has to exist, and must not be free already. -/
def giveBack (pool : FramePool) (frame : Nat) : Except MemoryFault FramePool :=
  if pool.total ≤ frame then .error (.noSuchFrame frame pool.total)
  else if pool.total ≤ pool.count then .error (.poolFull frame)
  else if pool.isFree frame then .error (.alreadyFree frame)
  else
    .ok {
      slots := pool.slots.set pool.tail frame pool.tail_lt
      head := pool.head
      tail := (pool.tail + 1) % pool.slots.size
      count := pool.count + 1
      head_lt := by simpa using pool.head_lt
      tail_lt := by rw [Array.size_set]; exact Nat.mod_lt _ pool.total_pos }

end FramePool

end DemandPaging
