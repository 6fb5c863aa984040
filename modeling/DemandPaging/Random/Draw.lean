import DemandPaging.Number.Binary64
import DemandPaging.Random.Stream

/-!
# Drawing numbers and chances

A number from a range is drawn by multiplying a random word with the length of
the range and keeping the high half of the product. Words whose product has its
low half past a bound that depends on the range are thrown away, so that every
number of the range is equally likely.
-/

namespace DemandPaging.Random

/-- Why nothing can be drawn. -/
inductive DrawFault where
  /-- The range has no number in it. -/
  | emptyRange
  /-- An end of the range is no signed 64-bit number. -/
  | overflow
  /-- No word of the whole stream is acceptable. -/
  | exhausted
  deriving DecidableEq, Repr

/-- The largest low half of a product that is kept. -/
def acceptedLow (range : Nat) : Nat := range * twoPow (63 - range.log2) - 1

/-- Draws a number below `range`, looking at no more than `fuel` words. -/
def Stream.below (range : Nat) : Nat → Stream → Except DrawFault (Nat × Stream)
  | 0, _ => .error .exhausted
  | fuel + 1, stream =>
    let product := stream.word.toNat * range
    if product % wordCount ≤ acceptedLow range then .ok (product / wordCount, stream.advance)
    else below range fuel stream.advance

/-- Draws a number from `low` to `high`, both included. -/
def Stream.between (stream : Stream) (low high : Int) : Except DrawFault (Int × Stream) :=
  if high < low then .error .emptyRange
  else do
    let (offset, stream) ← Stream.below (high - low + 1).toNat Stream.period stream
    return (low + offset, stream)

/-- Draws true with the given probability. Certainty needs no random word. -/
def Stream.chance (stream : Stream) (probability : Binary64) : Bool × Stream :=
  if probability = .one then (true, stream)
  else (stream.word.toNat < probability.scaledBy64, stream.advance)

end DemandPaging.Random
