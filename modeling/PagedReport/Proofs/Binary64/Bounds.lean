import Mathlib.Algebra.Group.Nat.Defs
import PagedReport.Binary64.Arithmetic
import PagedReport.Proofs.Binary64.Rounding

/-! Bounds that rounding keeps. A quotient on one side of a representable magnitude is rounded to
that side of it (`le_nearestUnits`, `nearestUnits_le`), so a whole part is known as soon as the exact
quotient lies between two representable magnitudes with that whole part. -/
namespace PagedReport.Binary64

theorem le_roundedQuotient (num den : Nat) : num / den ≤ roundedQuotient num den := by
  simp only [roundedQuotient]
  split <;> omega

theorem roundedQuotient_le_of_le {num den bound : Nat} (positive : 0 < den)
    (le : num ≤ bound * den) : roundedQuotient num den ≤ bound := by
  have low : num / den ≤ bound := Nat.div_le_of_le_mul (Nat.mul_comm bound den ▸ le)
  rcases Nat.lt_or_eq_of_le low with less | equal
  · exact Nat.le_trans (roundedQuotient_le num den) less
  · -- The quotient is exact then, so nothing is left to round up.
    have split : den * bound + num % den = num := equal ▸ Nat.div_add_mod num den
    have exact : num % den = 0 := by
      rw [Nat.mul_comm bound den] at le
      omega
    simp [roundedQuotient, exact, positive, equal]

/-- Magnitudes of one binade have the same neighbours' distance, and it divides them all. -/
theorem spacing_dvd_of_log2_le {units other : Nat} (representable : Representable units)
    (le : other.log2 ≤ units.log2) : spacing other ∣ units := by
  refine Nat.dvd_trans ?_ (spacing_dvd representable)
  rw [spacing_eq, spacing_eq]
  exact Nat.pow_dvd_pow 2 (by omega)

theorem log2_le_log2 {a b : Nat} (le : a ≤ b) : a.log2 ≤ b.log2 := by
  by_cases zero : a = 0
  · simp [zero]
  · exact (Nat.le_log2 (by omega)).2 (Nat.le_trans (Nat.log2_self_le zero) le)

theorem le_nearestUnits {units num den : Nat} (representable : Representable units)
    (positive : 0 < den) (le : units * den ≤ num) : units ≤ nearestUnits num den := by
  have whole : units ≤ num / den := (Nat.le_div_iff_mul_le positive).2 le
  rcases Nat.lt_or_ge units.log2 (num / den).log2 with below | same
  · have nonzero : num / den ≠ 0 := by
      intro zero
      simp [zero] at below
    calc units ≤ 2 ^ (units.log2 + 1) := Nat.le_of_lt Nat.lt_log2_self
      _ ≤ 2 ^ (num / den).log2 := Nat.pow_le_pow_right (by decide) below
      _ ≤ nearestUnits num den := two_pow_le_nearestUnits (Nat.log2_self_le nonzero)
  · let step := spacing (num / den)
    obtain ⟨steps, multiple⟩ : step ∣ units := spacing_dvd_of_log2_le representable same
    have scaled : steps * (den * step) ≤ num := by
      calc steps * (den * step) = step * steps * den := by ac_rfl
        _ = units * den := by rw [multiple]
        _ ≤ num := le
    have kept : steps ≤ num / (den * step) :=
      (Nat.le_div_iff_mul_le (Nat.mul_pos positive (spacing_pos _))).2 scaled
    rw [multiple, Nat.mul_comm]
    exact Nat.mul_le_mul_right _ (Nat.le_trans kept (le_roundedQuotient _ _))

theorem nearestUnits_le_of_dvd {units num den : Nat} (positive : 0 < den)
    (divides : spacing (num / den) ∣ units) (le : num ≤ units * den) : nearestUnits num den ≤ units := by
  let step := spacing (num / den)
  obtain ⟨steps, multiple⟩ : step ∣ units := divides
  have scaled : num ≤ steps * (den * step) := by
    calc num ≤ units * den := le
      _ = step * steps * den := by rw [multiple]
      _ = steps * (den * step) := by ac_rfl
  rw [multiple, Nat.mul_comm]
  exact Nat.mul_le_mul_right _
    (roundedQuotient_le_of_le (Nat.mul_pos positive (spacing_pos _)) scaled)

theorem nearestUnits_le {units num den : Nat} (representable : Representable units)
    (positive : 0 < den) (le : num ≤ units * den) : nearestUnits num den ≤ units := by
  have whole : num / den ≤ units := Nat.div_le_of_le_mul (Nat.mul_comm units den ▸ le)
  exact nearestUnits_le_of_dvd positive
    (spacing_dvd_of_log2_le representable (log2_le_log2 whole)) le

theorem representable_of_small {significand exponent : Nat} (small : significand < 2 ^ 53)
    (inRange : exponent ≤ 2045) : Representable (significand * 2 ^ exponent) := by
  refine ⟨⟨significand, exponent, small, rfl⟩, ?_⟩
  have below (limit : Nat) (le : 53 + exponent ≤ limit) : significand * 2 ^ exponent < 2 ^ limit := by
    calc significand * 2 ^ exponent < 2 ^ 53 * 2 ^ exponent :=
          Nat.mul_lt_mul_of_pos_right small (Nat.two_pow_pos _)
      _ = 2 ^ (53 + exponent) := (Nat.pow_add 2 53 exponent).symm
      _ ≤ 2 ^ limit := Nat.pow_le_pow_right (by decide) le
  rw [unitsLimit_eq]
  exact below 2098 (by omega)

theorem representable_whole {n : Nat} (small : n < 2 ^ 53) : Representable (n * unitsPerOne) := by
  have shifted (exponent : Nat) (inRange : exponent ≤ 2045) : Representable (n * 2 ^ exponent) :=
    representable_of_small small inRange
  rw [unitsPerOne_eq]
  exact shifted 1074 (by decide)

theorem representable_two_pow {k : Nat} (inRange : k ≤ 971) : Representable (2 ^ k * unitsPerOne) := by
  have shifted (exponent : Nat) (le : exponent ≤ 2045) : Representable (1 * 2 ^ exponent) :=
    representable_of_small (by decide) le
  rw [unitsPerOne_eq, ← Nat.pow_add, ← Nat.one_mul (2 ^ _)]
  exact shifted (k + 1074) (by omega)

theorem ofNat_eq {n : Nat} (small : n < 2 ^ 53) :
    ofNat n = .finite ⟨false, n * unitsPerOne, representable_whole small⟩ :=
  ofUnits_of_nearest false (nearestUnits_self (representable_whole small)) _

/-- The whole part of a rounded quotient that lies between a whole number and a representable
magnitude below the next one. -/
theorem toUInt32_ofUnits {num den whole upper : Nat} (positive : 0 < den)
    (wholeFits : Representable (whole * unitsPerOne)) (upperFits : Representable upper)
    (least : whole * unitsPerOne * den ≤ num) (greatest : num ≤ upper * den)
    (below : upper < (whole + 1) * unitsPerOne) :
    (ofUnits false num den).toUInt32 = .ofNat (min whole 0xFFFFFFFF) := by
  have low : whole * unitsPerOne ≤ nearestUnits num den := le_nearestUnits wholeFits positive least
  have high : nearestUnits num den ≤ upper := nearestUnits_le upperFits positive greatest
  have finite : nearestUnits num den < unitsLimit := Nat.lt_of_le_of_lt high upperFits.2
  have part : nearestUnits num den / unitsPerOne = whole :=
    Nat.div_eq_of_lt_le low (Nat.lt_of_le_of_lt high below)
  rw [ofUnits, dif_pos finite]
  simp only [toUInt32, Finite.wholePart, part, Bool.false_eq_true, if_false]

theorem finite_div_finite {a b : Finite} (nonzero : b.units ≠ 0) :
    finite a / finite b =
      ofUnits (a.negative != b.negative) (a.units * unitsPerOne) b.units :=
  if_neg nonzero

/-- The 256th part of one, on whose grid all small magnitudes are representable. -/
theorem exists_part : ∃ part, unitsPerOne = 256 * part ∧
    ∀ significand < 2 ^ 53, Representable (significand * part) := by
  have split (whole exponent : Nat) (sum : whole = 8 + exponent) : 2 ^ whole = 256 * 2 ^ exponent := by
    rw [sum]
    exact Nat.pow_add 2 8 exponent
  refine ⟨2 ^ 1066, ?_, fun _ small => representable_of_small small (by decide)⟩
  rw [unitsPerOne_eq]
  exact split 1074 1066 rfl

/-- The whole part of a count divided by `digits / scale`, one being `scale` units of the divisor, if
the quotient stays a 256th below the next whole number. -/
theorem toUInt32_count_div {count digits scale unit whole : Nat}
    (units : unitsPerOne = scale * unit) (positive : 0 < digits) (small : whole < 2 ^ 45)
    (atLeast : whole * digits ≤ count * scale)
    (atMost : count * scale * 256 ≤ (256 * whole + 255) * digits) :
    (ofUnits false (count * unitsPerOne * unitsPerOne) (digits * unit)).toUInt32 =
      .ofNat (min whole 0xFFFFFFFF) := by
  obtain ⟨part, parts, fits⟩ := exists_part
  have unitPositive : 0 < unit := Nat.pos_of_mul_pos_left (units ▸ unitsPerOne_pos)
  have partPositive : 0 < part := Nat.pos_of_mul_pos_left (parts ▸ unitsPerOne_pos)
  have least : whole * unitsPerOne * (digits * unit) ≤ count * unitsPerOne * unitsPerOne := by
    calc whole * unitsPerOne * (digits * unit)
        = whole * digits * (unitsPerOne * unit) := Nat.mul_mul_mul_comm ..
      _ ≤ count * scale * (unitsPerOne * unit) := Nat.mul_le_mul_right _ atLeast
      _ = count * unitsPerOne * (scale * unit) := Nat.mul_mul_mul_comm ..
      _ = count * unitsPerOne * unitsPerOne := by rw [← units]
  have greatest : count * unitsPerOne * unitsPerOne ≤
      (256 * whole + 255) * part * (digits * unit) := by
    calc count * unitsPerOne * unitsPerOne
        = count * (scale * unit) * (256 * part) := by rw [← units, ← parts]
      _ = count * scale * 256 * (unit * part) := by
          rw [← Nat.mul_assoc count, Nat.mul_mul_mul_comm]
      _ ≤ (256 * whole + 255) * digits * (unit * part) := Nat.mul_le_mul_right _ atMost
      _ = (256 * whole + 255) * part * (digits * unit) := by
          rw [Nat.mul_comm unit, Nat.mul_mul_mul_comm]
  have below : (256 * whole + 255) * part < (whole + 1) * unitsPerOne := by
    rw [parts, ← Nat.mul_assoc]
    exact Nat.mul_lt_mul_of_pos_right (by omega) partPositive
  exact toUInt32_ofUnits (Nat.mul_pos positive unitPositive) (representable_whole (by omega))
    (fits _ (by omega)) least greatest below

end PagedReport.Binary64
