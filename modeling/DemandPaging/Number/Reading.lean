import DemandPaging.Number.Binary64
import DemandPaging.Text.Integer

/-!
# Reading binary floating point numbers

A number is an optional sign and then digits with an optional point and an
optional exponent, or one of the words for infinity and for NaN in any case.
Digits have to stand before or behind the point. The result is the nearest
binary number.
-/

namespace DemandPaging.Binary64

def infinite (negative : Bool) : Binary64 :=
  ⟨BitVec.ofNat 64 ((if negative then halfWordCount else 0) + infinityMagnitude)⟩

def nan : Binary64 := ⟨0x7ff8000000000000⟩

/-- The number nearest to `digits * 10 ^ exponent`. Powers far outside the range
of the format are not computed. -/
def ofScientific (negative : Bool) (digits : Nat) (exponent : Int) : Binary64 :=
  let places : Int := (Nat.toDigits 10 digits).length
  if digits = 0 ∨ places + exponent < -400 then ofRatio negative 0 1
  else if 400 < places + exponent then infinite negative
  else ofRatio negative (digits * tenPow exponent.toNat) (tenPow (-exponent).toNat)

/-- Splits a text at the first character that `cut` marks. -/
def cutAt (cut : Char → Bool) (text : List Char) : List Char × Option (List Char) :=
  match text.dropWhile (!cut ·) with
  | [] => (text, none)
  | _ :: rest => (text.takeWhile (!cut ·), some rest)

/-- Reads a number without its sign. -/
def unsignedOfText? (negative : Bool) (text : List Char) : Option Binary64 :=
  let lower := String.ofList (text.map Char.toLower)
  if lower = "inf" ∨ lower = "infinity" then some (infinite negative)
  else if lower = "nan" then some nan
  else do
    let (mantissa, exponent?) := cutAt (fun c => c = 'e' || c = 'E') text
    let (whole, fraction?) := cutAt (· = '.') mantissa
    let fraction := fraction?.getD []
    if whole.isEmpty && fraction.isEmpty then none
    else
      let digits ← Text.digits? (whole ++ fraction)
      let exponent ← match exponent? with
        | none => some 0
        | some exponent => Text.integer? exponent
      return ofScientific negative digits (exponent - fraction.length)

def ofText? : List Char → Option Binary64
  | '-' :: text => unsignedOfText? true text
  | '+' :: text => unsignedOfText? false text
  | text => unsignedOfText? false text

end DemandPaging.Binary64
