import PagedReport.Binary64.Decimal
import PagedReport.Proofs.Binary64.Rounding

/-! Decimals read as binary64 numbers. `toBinary64_eq` says that the shortcuts of reading change
nothing: a decimal is read as its exact quotient, rounded once, so zeros moved between its digits and
its exponent do not matter (`toBinary64_shift`). `toBinary64_shortest` is the way back: the shortest
decimal of a number reads back as that number, with its sign. -/
namespace PagedReport

namespace Binary64

theorem two_pow_mul_unitsPerOne (k : Nat) : 2 ^ k * unitsPerOne = 2 ^ (k + 1074) := by
  rw [unitsPerOne_eq, ← Nat.pow_add]

theorem unitsLimit_le_two_pow {k : Nat} (large : 2098 ≤ k) : unitsLimit ≤ 2 ^ k := by
  have bound (n : Nat) (le : n ≤ k) : 2 ^ n ≤ 2 ^ k := Nat.pow_le_pow_right (by decide) le
  rw [unitsLimit_eq]
  exact bound 2098 large

end Binary64

open Binary64

theorem five_pow_mul_two_pow (k : Nat) : 5 ^ k * 2 ^ k = 10 ^ k := (Nat.mul_pow 5 2 k).symm

theorem two_pow_le_ten_pow (k : Nat) : 2 ^ (3 * k) ≤ 10 ^ k := by
  rw [Nat.pow_mul]
  exact Nat.pow_le_pow_left (by decide) k

namespace Decimal

/-- The value of a decimal is the quotient of these two. -/
def numerator (d : Decimal) : Nat := d.digits * 10 ^ d.exponent.toNat

def denominator (d : Decimal) : Nat := 10 ^ (-d.exponent).toNat

theorem denominator_pos (d : Decimal) : 0 < d.denominator := Nat.pow_pos (by decide)

theorem toBinary64_zero (negative : Bool) (exponent : Int) :
    toBinary64 negative ⟨0, exponent⟩ = .finite (.zero negative) := rfl

theorem ofUnits_of_isTiny {d : Decimal} (negative : Bool) (tiny : d.isTiny = true) :
    ofUnits negative (d.numerator * unitsPerOne) d.denominator = .finite (.zero negative) := by
  obtain ⟨digits, exponent⟩ := d
  simp only [isTiny, Bool.and_eq_true, decide_eq_true_eq] at tiny
  obtain ⟨below, bits⟩ := tiny
  have noFactor : exponent.toNat = 0 := by omega
  have fewBits : digits.log2 + 1 + 1074 + 1 ≤ 3 * (-exponent).toNat := by omega
  have digitsBelow : digits < 2 ^ (digits.log2 + 1) := Nat.lt_log2_self
  apply ofUnits_tiny
  simp only [numerator, denominator, noFactor, Nat.pow_zero, Nat.mul_one]
  calc 2 * (digits * unitsPerOne)
      < 2 * (2 ^ (digits.log2 + 1) * unitsPerOne) :=
        Nat.mul_lt_mul_of_pos_left (Nat.mul_lt_mul_of_pos_right digitsBelow unitsPerOne_pos) (by decide)
    _ = 2 ^ (digits.log2 + 1 + 1074 + 1) := by
        rw [two_pow_mul_unitsPerOne, Nat.mul_comm, ← Nat.pow_succ]
    _ ≤ 2 ^ (3 * (-exponent).toNat) := Nat.pow_le_pow_right (by decide) fewBits
    _ ≤ 10 ^ (-exponent).toNat := two_pow_le_ten_pow _

/-- From `10^342` on, every decimal is beyond the finite range. -/
theorem ofUnits_of_large {d : Decimal} (negative : Bool) (power : Nat) (large : 342 ≤ power)
    (bound : 10 ^ power * d.denominator ≤ d.numerator) :
    ofUnits negative (d.numerator * unitsPerOne) d.denominator = .infinite negative := by
  apply ofUnits_huge
  rw [Nat.le_div_iff_mul_le d.denominator_pos]
  have limit : unitsLimit ≤ 10 ^ power * unitsPerOne := by
    calc unitsLimit ≤ 2 ^ (3 * power + 1074) := unitsLimit_le_two_pow (by omega)
      _ = 2 ^ (3 * power) * unitsPerOne := (two_pow_mul_unitsPerOne _).symm
      _ ≤ 10 ^ power * unitsPerOne := Nat.mul_le_mul_right _ (two_pow_le_ten_pow power)
  calc unitsLimit * d.denominator ≤ 10 ^ power * unitsPerOne * d.denominator :=
        Nat.mul_le_mul_right _ limit
    _ = 10 ^ power * d.denominator * unitsPerOne := Nat.mul_right_comm ..
    _ ≤ d.numerator * unitsPerOne := Nat.mul_le_mul_right _ bound

theorem toBinary64_eq (negative : Bool) (d : Decimal) (positive : d.digits ≠ 0) :
    d.toBinary64 negative = ofUnits negative (d.numerator * unitsPerOne) d.denominator := by
  unfold toBinary64
  by_cases tiny : d.isTiny = true
  · rw [if_pos (by simp [tiny]), ofUnits_of_isTiny negative tiny]
  rw [if_neg (by simp [tiny, positive])]
  by_cases huge : d.isHuge = true
  · rw [if_pos huge]
    have exponent : 400 < d.exponent := by simpa [isHuge] using huge
    have whole : (-d.exponent).toNat = 0 := by omega
    symm
    apply ofUnits_of_large negative d.exponent.toNat (by omega)
    rw [denominator, whole, numerator, Nat.pow_zero, Nat.mul_one]
    exact Nat.le_mul_of_pos_left _ (Nat.pos_of_ne_zero positive)
  rw [if_neg huge]
  split
  next below =>
    have noFactor : d.exponent.toNat = 0 := by omega
    have power : d.exponent.natAbs = (-d.exponent).toNat := by omega
    simp only [numerator, denominator, noFactor, power, Nat.pow_eq, Nat.pow_zero, Nat.mul_one]
  next whole =>
    have noDivisor : (-d.exponent).toNat = 0 := by omega
    have power : d.exponent.natAbs = d.exponent.toNat := by omega
    simp only [numerator, denominator, noDivisor, power, Nat.pow_eq, Nat.pow_zero]

theorem toBinary64_congr (negative : Bool) {a b : Decimal} (aPositive : a.digits ≠ 0)
    (bPositive : b.digits ≠ 0)
    (same : a.numerator * b.denominator = b.numerator * a.denominator) :
    a.toBinary64 negative = b.toBinary64 negative := by
  rw [toBinary64_eq negative a aPositive, toBinary64_eq negative b bPositive,
    ← ofUnits_mul negative _ a.denominator b.denominator_pos,
    ← ofUnits_mul negative _ b.denominator a.denominator_pos,
    Nat.mul_comm b.denominator, Nat.mul_right_comm, same, Nat.mul_right_comm]

theorem toBinary64_shift (negative : Bool) (digits zeros : Nat) (exponent : Int) :
    toBinary64 negative ⟨digits * 10 ^ zeros, exponent⟩ =
      toBinary64 negative ⟨digits, exponent + zeros⟩ := by
  by_cases zero : digits = 0
  · rw [zero, Nat.zero_mul, toBinary64_zero, toBinary64_zero]
  apply toBinary64_congr
  · exact Nat.mul_ne_zero zero (Nat.ne_of_gt (Nat.pow_pos (by decide)))
  · exact zero
  · have powers : zeros + exponent.toNat + (-(exponent + zeros)).toNat =
        (exponent + zeros).toNat + (-exponent).toNat := by omega
    simp only [numerator, denominator, Nat.mul_assoc, ← Nat.pow_add]
    rw [powers]

theorem closer_cases (tie : Tie) (low rest grid : Nat) :
    closer tie low rest grid = low ∨ closer tie low rest grid = low + 1 := by
  unfold closer
  grind

/-- The test of the neighbours stays a variable, so that nothing is read back in this proof. -/
theorem reads_of_chosen {reads : Decimal → Bool} {tie : Tie} {low rest grid : Nat} {exponent : Int}
    {below above : Bool} {d : Decimal} (readsLow : reads ⟨low, exponent⟩ = below)
    (readsHigh : reads ⟨low + 1, exponent⟩ = above)
    (found : chosen tie low rest grid exponent below above = some d) : reads d = true := by
  cases below with
  | true =>
    cases above with
    | true =>
      obtain rfl := Option.some.inj found
      rcases closer_cases tie low rest grid with eq | eq
      · rw [eq]
        exact readsLow
      · rw [eq]
        exact readsHigh
    | false =>
      obtain rfl := Option.some.inj found
      exact readsLow
  | false =>
    cases above with
    | true =>
      obtain rfl := Option.some.inj found
      exact readsHigh
    | false => contradiction

end Decimal

namespace Binary64.Finite

theorem toBinary64_of_isReadFrom {x : Finite} {d : Decimal} (reads : x.isReadFrom d = true) :
    d.toBinary64 x.negative = .finite x := of_decide_eq_true reads

theorem toBinary64_exact (x : Finite) {n : Nat} (unit : unitsPerOne = 2 ^ n) :
    Decimal.toBinary64 x.negative ⟨x.units * 5 ^ n, -n⟩ = .finite x := by
  by_cases zero : x.units = 0
  · obtain ⟨negative, units, representable⟩ := x
    obtain rfl : units = 0 := zero
    rw [Nat.zero_mul]
    rfl
  have positive : x.units * 5 ^ n ≠ 0 :=
    Nat.mul_ne_zero zero (Nat.ne_of_gt (Nat.pow_pos (by decide)))
  have numerator : Decimal.numerator ⟨x.units * 5 ^ n, -n⟩ * unitsPerOne = x.units * 10 ^ n := by
    simp [Decimal.numerator, unit, Nat.mul_assoc, five_pow_mul_two_pow]
  have denominator : Decimal.denominator ⟨x.units * 5 ^ n, -n⟩ = 10 ^ n := by
    simp [Decimal.denominator]
  rw [Decimal.toBinary64_eq _ _ positive, numerator, denominator]
  exact ofUnits_exact x (Nat.pow_pos (by decide))

theorem toBinary64_exactDigits (x : Finite) :
    Decimal.toBinary64 x.negative ⟨x.exactDigits, -1074⟩ = .finite x := by
  have unit : ∃ n : Nat, n = 1074 ∧ unitsPerOne = 2 ^ n := ⟨1074, rfl, unitsPerOne_eq⟩
  obtain ⟨n, count, unit⟩ := unit
  have exponent : (-1074 : Int) = -n := by omega
  rw [exactDigits, exponent, ← count]
  exact x.toBinary64_exact unit

theorem isReadFrom_of_onGrid {x : Finite} {d : Decimal} {tie : Decimal.Tie} {cut : Nat}
    (found : x.onGrid tie cut = some d) : x.isReadFrom d = true :=
  Decimal.reads_of_chosen rfl rfl found

theorem toBinary64_shortestFrom (x : Finite) (tie : Decimal.Tie) (cut : Nat) :
    (x.shortestFrom tie cut).toBinary64 x.negative = .finite x := by
  induction cut with
  | zero => exact x.toBinary64_exactDigits
  | succ cut ih =>
    rw [shortestFrom]
    cases found : x.onGrid tie (cut + 1) with
    | none => exact ih
    | some d => exact toBinary64_of_isReadFrom (isReadFrom_of_onGrid found)

theorem toBinary64_shortest (x : Finite) (tie : Decimal.Tie) :
    (x.shortest tie).toBinary64 x.negative = .finite x := by
  unfold shortest
  split
  next zero =>
    obtain ⟨negative, units, representable⟩ := x
    obtain rfl : units = 0 := zero
    exact Decimal.toBinary64_zero negative 0
  next => exact x.toBinary64_shortestFrom tie _

end Binary64.Finite

end PagedReport
