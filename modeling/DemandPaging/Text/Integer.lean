import DemandPaging.Number.Power

/-!
# Integers in text

An integer is an optional sign and one or more ASCII digits. Zeros in front are
allowed; other digits, blanks and separators are not.
-/

namespace DemandPaging.Text

/-- The number that a non-empty run of ASCII digits denotes. -/
def digits? (text : List Char) : Option Nat :=
  if text ≠ [] ∧ text.all Char.isDigit then
    some (Nat.ofDigitChars 10 text 0)
  else none

/-- Reads an integer with an optional sign. -/
def integer? : List Char → Option Int
  | '-' :: text => (digits? text).map fun number => -(number : Int)
  | '+' :: text => (digits? text).map fun number => (number : Int)
  | text => (digits? text).map fun number => (number : Int)

/-- Reads a signed integer of 64 bits. -/
def signed64? (text : List Char) : Option Int :=
  (integer? text).filter fun number => -halfWordCount ≤ number && number < halfWordCount

/-- Reads a natural number of 64 bits; a plus sign may stand in front. -/
def unsigned64? (text : List Char) : Option Nat :=
  let number? :=
    match text with
    | '+' :: text => digits? text
    | text => digits? text
  number?.filter fun number => number < wordCount

end DemandPaging.Text
