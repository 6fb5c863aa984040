import DemandPaging.Number.Power

/-!
# Binary floating point numbers of 64 bits

A number is its 64 bits: one sign bit, eleven exponent bits and a fraction of
52 bits. Nothing here calls a floating point unit, so every statement about
these numbers is a statement about natural numbers and integers.
-/

namespace DemandPaging

/-- A binary64 number, given by its bits. -/
structure Binary64 where
  bits : BitVec 64
  deriving DecidableEq, Repr

namespace Binary64

/-- Two to the power 52: the number of fractions, and the leading bit of a
significand that the fraction leaves out. -/
def hiddenBit : Nat := 4503599627370496

/-- The bits below the sign, read as one number. -/
def magnitude (x : Binary64) : Nat := x.bits.toNat % halfWordCount

def negative (x : Binary64) : Bool := x.bits.msb

def fraction (x : Binary64) : Nat := x.bits.toNat % hiddenBit

def exponentField (x : Binary64) : Nat := x.magnitude / hiddenBit

/-- The magnitude of both infinities; every larger magnitude is a NaN. -/
def infinityMagnitude : Nat := 2047 * hiddenBit

def isNaN (x : Binary64) : Bool := infinityMagnitude < x.magnitude

def isInfinite (x : Binary64) : Bool := x.magnitude = infinityMagnitude

/-- Order of the numbers that are not NaN: magnitudes are ordered like the
numbers they encode, and both zeros have the key zero. -/
def orderKey (x : Binary64) : Int := if x.negative then -x.magnitude else x.magnitude

/-- A NaN is neither below nor above anything. -/
def lt (x y : Binary64) : Bool := !x.isNaN && !y.isNaN && x.orderKey < y.orderKey

def le (x y : Binary64) : Bool := !x.isNaN && !y.isNaN && x.orderKey ≤ y.orderKey

def zero : Binary64 := ⟨0⟩

def one : Binary64 := ⟨0x3ff0000000000000⟩

/-- Whether the number is a probability: at least zero and at most one. The
negative zero is one, a NaN is not. -/
def isProbability (x : Binary64) : Bool := zero.le x && x.le one

/-- Moves a number outside `[low, high]` to the nearer end. A NaN and a zero of
either sign stay as they are. -/
def clamp (x low high : Binary64) : Binary64 :=
  if x.lt low then low else if high.lt x then high else x

/-- The integer `m` of the value `m * 2 ^ e` of a finite number. -/
def significand (x : Binary64) : Nat :=
  if x.exponentField = 0 then x.fraction else hiddenBit + x.fraction

/-- The exponent `e` of the value `m * 2 ^ e` of a finite number. -/
def exponent (x : Binary64) : Int :=
  if x.exponentField = 0 then -1074 else (x.exponentField : Int) - 1075

/-- The whole part of `m * 2 ^ e`. -/
def floorScaled (m : Nat) (e : Int) : Nat :=
  if 0 ≤ e then m * twoPow e.toNat else m / twoPow (-e).toNat

/-- The whole part of `2 ^ 64` times the absolute value of a finite number. -/
def scaledBy64 (x : Binary64) : Nat := floorScaled x.significand (x.exponent + 64)

/-- The number with the given sign whose absolute value is nearest to
`numerator / denominator`, of two nearest the one with the even significand. -/
def ofRatio (negative : Bool) (numerator denominator : Nat) : Binary64 :=
  let sign := if negative then halfWordCount else 0
  if numerator = 0 ∨ denominator = 0 then ⟨BitVec.ofNat 64 sign⟩
  else
    let guess : Int := (numerator.log2 : Int) - denominator.log2 - 52
    let quotient (e : Int) : Nat × Nat :=
      (numerator * twoPow (-e).toNat, denominator * twoPow e.toNat)
    let whole (e : Int) : Nat := (quotient e).1 / (quotient e).2
    let e := max (if whole guess < hiddenBit then guess - 1 else guess) (-1074)
    let (n, d) := quotient e
    let down := n / d
    let twice := 2 * (n % d)
    let m := if twice > d ∨ (twice = d ∧ down % 2 = 1) then down + 1 else down
    let magnitude := (e + 1074).toNat * hiddenBit + m
    ⟨BitVec.ofNat 64 (sign + min magnitude infinityMagnitude)⟩

end Binary64

end DemandPaging
