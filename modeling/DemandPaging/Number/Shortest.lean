import DemandPaging.Number.Binary64
import DemandPaging.Number.Decimal

/-!
# The shortest decimal that reads back

A decimal reads back as a given binary number if it lies in the interval of
reals that round to it; the ends belong to the interval when the significand is
even. The shortest decimal is found on the coarsest power-of-ten grid that has
a point in the interval, and it is the point of that grid nearest to the number,
the upper one if two are equally near.
-/

namespace DemandPaging.Binary64

/-- The value and both ends of the rounding interval, over one denominator. -/
structure Interval where
  low : Nat
  value : Nat
  high : Nat
  denominator : Nat
  closed : Bool

/-- The rounding interval of a finite number that is not zero. Below a power of
two the neighbour is half as far away as above it. -/
def interval (x : Binary64) : Interval :=
  let m := x.significand
  let e := x.exponent - 2
  let scale := twoPow e.toNat
  let below := if m = hiddenBit then 1 else 2
  { low := (4 * m - below) * scale
    value := 4 * m * scale
    high := (4 * m + 2) * scale
    denominator := twoPow (-e).toNat
    closed := m % 2 = 0 }

namespace Interval

/-- Whether `digits * 10 ^ exponent` lies in the interval. -/
def holds (i : Interval) (d : Decimal) : Bool :=
  let point := d.digits * tenPow d.exponent.toNat * i.denominator
  let unit := tenPow (-d.exponent).toNat
  if i.closed then i.low * unit ≤ point && point ≤ i.high * unit
  else i.low * unit < point && point < i.high * unit

/-- The point of the grid `10 ^ exponent` that reads back, the nearer one if
both neighbours of the value do. -/
def onGrid? (i : Interval) (exponent : Int) : Option Decimal :=
  let numerator := i.value * tenPow (-exponent).toNat
  let denominator := i.denominator * tenPow exponent.toNat
  let down : Decimal := ⟨numerator / denominator, exponent⟩
  let up : Decimal := ⟨numerator / denominator + 1, exponent⟩
  match i.holds down, i.holds up with
  | true, true => some (if denominator ≤ 2 * (numerator % denominator) then up else down)
  | true, false => some down
  | false, true => some up
  | false, false => none

end Interval

/-- An exponent of ten whose power exceeds the number. -/
def coarsestExponent (x : Binary64) : Int :=
  (x.significand.log2 + 1 + x.exponent) * 30103 / 100000 + 1

/-- The shortest decimal of the absolute value of a finite number. Seventeen
digits always suffice, so a hit comes within the grids that are tried. -/
def shortest (x : Binary64) : Decimal :=
  if x.magnitude = 0 then ⟨0, 0⟩
  else
    ((List.range 24).findSome? fun (step : Nat) =>
      x.interval.onGrid? (x.coarsestExponent - step)).getD
      ⟨0, 0⟩

/-- Shortest digits in plain notation; the sign of zero is kept and that of a
NaN is not. -/
def text (x : Binary64) : String :=
  if x.isNaN then "NaN"
  else (if x.negative then "-" else "") ++ if x.isInfinite then "inf" else x.shortest.plain

end DemandPaging.Binary64
