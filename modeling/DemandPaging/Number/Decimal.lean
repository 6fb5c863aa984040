import DemandPaging.Number.Power

/-!
# Decimal numbers and their plain notation

Plain notation never uses an exponent, and writes no zero at the end of the
fraction and no point without a fraction.
-/

namespace DemandPaging

/-- The number `digits * 10 ^ exponent`. -/
structure Decimal where
  digits : Nat
  exponent : Int
  deriving DecidableEq, Repr

namespace Decimal

/-- The digits of `n` behind enough zeros to fill `width` places. -/
def padded (width n : Nat) : List Char :=
  let digits := Nat.toDigits 10 n
  List.replicate (width - digits.length) '0' ++ digits

/-- Drops the zeros at the end. -/
def trimZeros (digits : List Char) : List Char :=
  (digits.reverse.dropWhile (· = '0')).reverse

/-- Plain notation. -/
def plain (d : Decimal) : String :=
  if 0 ≤ d.exponent then toString (d.digits * tenPow d.exponent.toNat)
  else
    let places := (-d.exponent).toNat
    let whole := toString (d.digits / tenPow places)
    match trimZeros (padded places (d.digits % tenPow places)) with
    | [] => whole
    | fraction => whole ++ "." ++ String.ofList fraction

end Decimal

end DemandPaging
