/-!
# Powers of two and ten, and the sizes of words
-/

namespace DemandPaging

/-- Two to the power `n`. -/
def twoPow (n : Nat) : Nat := Nat.pow 2 n

/-- Ten to the power `n`. -/
def tenPow (n : Nat) : Nat := Nat.pow 10 n

/-- The number of words of 64 bits: two to the power 64. -/
def wordCount : Nat := 18446744073709551616

/-- Half the number of words, two to the power 63: signed words lie between minus
this number and the one below it. -/
def halfWordCount : Nat := 9223372036854775808

/-- A number as a signed word: the one congruent to it modulo the number of words. -/
def signedWord (n : Int) : Int := Int.bmod n wordCount

theorem signedWord_of_lt {n : Nat} (hn : n < halfWordCount) : signedWord n = n := by
  unfold signedWord Int.bmod
  simp only [wordCount, halfWordCount] at *
  omega

end DemandPaging
