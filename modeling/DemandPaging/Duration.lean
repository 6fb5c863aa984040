import DemandPaging.Number.Decimal

/-!
# Text of a duration

A duration is a number of nanoseconds. It is written in the largest of the
units second, millisecond, microsecond and nanosecond that it reaches, with the
exact fraction.
-/

namespace DemandPaging.Duration

def ofMilliseconds (n : Nat) : Nat := n * 1000000

def text (nanoseconds : Nat) : String :=
  if 1000000000 ≤ nanoseconds then Decimal.plain ⟨nanoseconds, -9⟩ ++ "s"
  else if 1000000 ≤ nanoseconds then Decimal.plain ⟨nanoseconds, -6⟩ ++ "ms"
  else if 1000 ≤ nanoseconds then Decimal.plain ⟨nanoseconds, -3⟩ ++ "µs"
  else toString nanoseconds ++ "ns"

end DemandPaging.Duration
