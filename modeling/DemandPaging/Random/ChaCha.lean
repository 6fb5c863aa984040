/-!
# The ChaCha key stream with twelve rounds

A key of eight words and the number of a block determine sixteen words. The
stream of a key is the sequence of its blocks; it is read two words at a time,
the low half first.
-/

namespace DemandPaging.Random

/-- A key: eight words of 32 bits. -/
abbrev Key := Vector UInt32 8

/-- The sixteen words of one block. -/
abbrev Block := Vector UInt32 16

def rotateLeft (x n : UInt32) : UInt32 := (x <<< n) ||| (x >>> (32 - n))

def rotateRight (x n : UInt32) : UInt32 := (x >>> n) ||| (x <<< (32 - n))

/-- Mixes four words of a block. -/
def quarterRound (block : Block) (i j k l : Fin 16) : Block :=
  let a := block[i]
  let b := block[j]
  let c := block[k]
  let d := block[l]
  let a := a + b
  let d := rotateLeft (d ^^^ a) 16
  let c := c + d
  let b := rotateLeft (b ^^^ c) 12
  let a := a + b
  let d := rotateLeft (d ^^^ a) 8
  let c := c + d
  let b := rotateLeft (b ^^^ c) 7
  (((block.set i a).set j b).set k c).set l d

/-- One round over the columns of the block and one over its diagonals. -/
def doubleRound (block : Block) : Block :=
  let block := quarterRound block 0 4 8 12
  let block := quarterRound block 1 5 9 13
  let block := quarterRound block 2 6 10 14
  let block := quarterRound block 3 7 11 15
  let block := quarterRound block 0 5 10 15
  let block := quarterRound block 1 6 11 12
  let block := quarterRound block 2 7 8 13
  quarterRound block 3 4 9 14

/-- The words that go into block number `counter`: a constant, the key, and the
counter with its low word first. -/
def seedBlock (key : Key) (counter : UInt64) : Block :=
  #v[0x61707865, 0x3320646e, 0x79622d32, 0x6b206574,
    key[0], key[1], key[2], key[3], key[4], key[5], key[6], key[7],
    counter.toUInt32, (counter >>> 32).toUInt32, 0, 0]

/-- Block number `counter` of the stream of a key. -/
def keyBlock (key : Key) (counter : UInt64) : Block :=
  let start := seedBlock key counter
  let mixed := (List.range 6).foldl (fun block _ => doubleRound block) start
  start.zipWith (· + ·) mixed

/-- One step of the sequence that spreads a seed over the words of a key. -/
def spread (state : UInt64) : UInt64 := state * 6364136223846793005 + 11634580027462260723

/-- The key word that a state of the spreading sequence gives. -/
def keyWord (state : UInt64) : UInt32 :=
  rotateRight (((state >>> 18) ^^^ state) >>> 27).toUInt32 (state >>> 59).toUInt32

/-- The key of a seed: the words of the next eight states. -/
def Key.ofSeed (seed : UInt64) : Key :=
  Vector.ofFn fun i => keyWord ((List.range (i + 1)).foldl (fun state _ => spread state) seed)

end DemandPaging.Random
