import DemandPaging.Number.Power
import DemandPaging.Random.ChaCha

/-!
# Reading random words

A stream is a key and a position; the block at hand is kept so that it is
computed once for the eight words that it holds.
-/

namespace DemandPaging.Random

/-- The 64-bit word at place `n` of a block, of eight. -/
def Block.word (block : Block) (n : Fin 8) : UInt64 :=
  block[2 * n.val].toUInt64 ||| (block[2 * n.val + 1].toUInt64 <<< 32)

/-- A place in the stream of a key. -/
structure Stream where
  key : Key
  /-- Number of 64-bit words read so far. -/
  position : Nat
  block : Block
  block_eq : block = keyBlock key (UInt64.ofNat (position / 8))

namespace Stream

/-- The number of 64-bit words after which a stream repeats. -/
def period : Nat := twoPow 67

def ofSeed (seed : UInt64) : Stream :=
  let key := Key.ofSeed seed
  { key, position := 0, block := keyBlock key 0, block_eq := rfl }

/-- The word at the position of the stream. -/
def word (stream : Stream) : UInt64 :=
  Block.word stream.block ⟨stream.position % 8, Nat.mod_lt _ (by decide)⟩

/-- The stream one word further on. -/
def advance (stream : Stream) : Stream :=
  if h : (stream.position + 1) % 8 = 0 then
    { key := stream.key
      position := stream.position + 1
      block := keyBlock stream.key (UInt64.ofNat ((stream.position + 1) / 8))
      block_eq := rfl }
  else
    { key := stream.key
      position := stream.position + 1
      block := stream.block
      block_eq := by
        have hsame : (stream.position + 1) / 8 = stream.position / 8 := by omega
        rw [hsame]
        exact stream.block_eq }

end Stream

end DemandPaging.Random
