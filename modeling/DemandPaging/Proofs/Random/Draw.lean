import DemandPaging.Proofs.Failure.Result
import DemandPaging.Random.Draw

/-!
# What can be drawn

Whatever the words of a stream, a number that is drawn from a range lies in the range. What
a rate is drawn for, never or every time, is decided by its place in the order of numbers.
-/

namespace DemandPaging

namespace Random.Stream

variable {stream next : Stream} {range fuel number : Nat} {low high drawn : Int}

/-- The high half of a product of a word with the length of the range is below the length. -/
theorem below_lt (hrange : 0 < range) (hbelow : below range fuel stream = .ok (number, next)) :
    number < range := by
  induction fuel generalizing stream with
  | zero => exact absurd hbelow (by simp [below])
  | succ fuel ih =>
      simp only [below] at hbelow
      split at hbelow
      next =>
        obtain ⟨rfl, -⟩ := Prod.mk.inj (Except.ok.inj hbelow)
        refine Nat.div_lt_of_lt_mul (Nat.mul_lt_mul_of_pos_right ?_ hrange)
        exact UInt64.toNat_lt stream.word
      next => exact ih hbelow

theorem between_mem (hbetween : stream.between low high = .ok (drawn, next)) :
    low ≤ drawn ∧ drawn ≤ high := by
  unfold between at hbetween
  split at hbetween
  next => exact absurd hbetween (by simp)
  next hrange =>
    obtain ⟨⟨offset, rest⟩, hbelow, hdrawn⟩ := exists_of_bind_eq_ok hbetween
    obtain ⟨rfl, -⟩ := Prod.mk.inj (Except.ok.inj hdrawn)
    have hoffset := below_lt (by omega) hbelow
    omega

theorem below_eq_error {fault : DrawFault} (hbelow : below range fuel stream = .error fault) :
    fault = .exhausted := by
  induction fuel generalizing stream with
  | zero => exact (Except.error.inj hbelow).symm
  | succ fuel ih =>
      simp only [below] at hbelow
      split at hbelow
      next => exact absurd hbelow (by simp)
      next => exact ih hbelow

/-- A range with a number in it is drawn from unless no word is acceptable. -/
theorem between_eq_error {fault : DrawFault} (hrange : low ≤ high)
    (hbetween : stream.between low high = .error fault) : fault = .exhausted := by
  rw [between, if_neg (Int.not_lt.mpr hrange), bind_eq_error_iff] at hbetween
  rcases hbetween with hbelow | ⟨drawn, -, hdrawn⟩
  · exact below_eq_error hbelow
  · exact absurd hdrawn (by simp [pure, Except.pure])

end Random.Stream

/-! ## Rates -/

namespace Binary64

variable {x y rate : Binary64}

theorem lt_iff :
    x.lt y = true ↔ x.isNaN = false ∧ y.isNaN = false ∧ x.orderKey < y.orderKey := by
  simp [lt, and_assoc]

theorem le_iff :
    x.le y = true ↔ x.isNaN = false ∧ y.isNaN = false ∧ x.orderKey ≤ y.orderKey := by
  simp [le, and_assoc]

theorem not_isNaN_zero : zero.isNaN = false := by decide

theorem not_isNaN_one : one.isNaN = false := by decide

theorem orderKey_zero : zero.orderKey = 0 := by decide

theorem orderKey_one : one.orderKey = 4607182418800017408 := by decide

theorem not_zero_lt_of_magnitude (hzero : rate.magnitude = 0) : zero.lt rate = false := by
  have hkey : rate.orderKey = 0 := by simp [orderKey, hzero]
  rw [Bool.eq_false_iff, Ne, lt_iff, orderKey_zero, hkey]
  exact fun habove => Int.lt_irrefl _ habove.2.2

/-- No other number has the place of one in the order. -/
theorem eq_one_of_orderKey (horder : rate.orderKey = one.orderKey) : rate = .one := by
  rw [orderKey_one] at horder
  unfold orderKey at horder
  split at horder
  next => omega
  next hpositive =>
    have hbits : rate.bits.toNat < halfWordCount := by
      simpa [negative, BitVec.msb_eq_decide, halfWordCount] using hpositive
    rw [magnitude, Nat.mod_eq_of_lt hbits] at horder
    obtain ⟨bits⟩ := rate
    congr 1
    refine BitVec.eq_of_toNat_eq ?_
    exact Int.ofNat.inj horder

/-- A rate is above zero exactly if it is after it was moved into the unit interval. -/
theorem zero_lt_clamp (rate : Binary64) : zero.lt (rate.clamp zero .one) = zero.lt rate := by
  unfold clamp
  split
  next hbelow =>
    have hkey := (lt_iff.mp hbelow).2.2
    rw [Bool.eq_iff_iff, lt_iff, lt_iff]
    constructor
    · rintro ⟨-, -, hlt⟩
      exact absurd hlt (Int.lt_irrefl _)
    · rintro ⟨-, -, hlt⟩
      exact absurd hlt (Int.lt_asymm hkey)
  next =>
    split
    next habove =>
      obtain ⟨-, hnumber, hkey⟩ := lt_iff.mp habove
      rw [orderKey_one] at hkey
      rw [Bool.eq_iff_iff, lt_iff, lt_iff, orderKey_zero, orderKey_one]
      exact iff_of_true ⟨not_isNaN_zero, not_isNaN_one, by decide⟩
        ⟨not_isNaN_zero, hnumber, by omega⟩
    next => rfl

theorem clamp_of_one_le (hrate : one.le rate = true) : rate.clamp zero .one = .one := by
  obtain ⟨-, hnumber, hle⟩ := le_iff.mp hrate
  rw [clamp, if_neg]
  · split
    next => rfl
    next hnot =>
      refine eq_one_of_orderKey (Int.le_antisymm (Int.not_lt.mp fun hlt => hnot ?_) hle)
      exact lt_iff.mpr ⟨not_isNaN_one, hnumber, hlt⟩
  · intro hbelow
    have hlt := (lt_iff.mp hbelow).2.2
    rw [orderKey_zero] at hlt
    rw [orderKey_one] at hle
    omega

theorem zero_lt_of_one_le (hrate : one.le rate = true) : zero.lt rate = true := by
  rw [← zero_lt_clamp, clamp_of_one_le hrate]
  decide

end Binary64

end DemandPaging
