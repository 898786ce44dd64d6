import Mathlib.Algebra.Group.Nat.Defs
import PagedReport.Binary64.Basic

/-! Laws of rounding to binary64 magnitudes. The result depends on the value alone
(`nearestUnits_mul`), a representable magnitude is its own result (`nearestUnits_self`), less than
half a unit is nothing, and a power of two is never rounded below. -/
namespace PagedReport.Binary64

-- Powers this large are compared by their exponents and never evaluated.
theorem unitsPerOne_eq : unitsPerOne = 2 ^ 1074 := by
  delta unitsPerOne
  generalize 1074 = exponent
  rfl

theorem unitsPerOne_pos : 0 < unitsPerOne := by
  delta unitsPerOne
  apply Nat.two_pow_pos

theorem unitsLimit_eq : unitsLimit = 2 ^ 2098 := by
  delta unitsLimit
  generalize 2098 = exponent
  rfl

theorem spacing_eq (units : Nat) : spacing units = 2 ^ (units.log2 - 52) := rfl

theorem spacing_pos (units : Nat) : 0 < spacing units := Nat.two_pow_pos _

theorem Representable.exists_significand {units : Nat} (representable : Representable units) :
    ∃ significand exponent, significand < 2 ^ 53 ∧ units = significand * 2 ^ exponent :=
  representable.1

theorem roundedQuotient_mul (num den : Nat) {k : Nat} (positive : 0 < k) :
    roundedQuotient (num * k) (den * k) = roundedQuotient num den := by
  have low : num * k / (den * k) = num / den := Nat.mul_div_mul_right num den positive
  have rest : 2 * (num * k % (den * k)) = 2 * (num % den) * k := by
    rw [Nat.mul_mod_mul_right, Nat.mul_assoc]
  simp only [roundedQuotient, low, rest, Nat.mul_lt_mul_right positive,
    Nat.mul_left_inj (Nat.ne_of_gt positive)]

theorem nearestUnits_mul (num den : Nat) {k : Nat} (positive : 0 < k) :
    nearestUnits (num * k) (den * k) = nearestUnits num den := by
  have quotient : num * k / (den * k) = num / den := Nat.mul_div_mul_right num den positive
  simp only [nearestUnits, quotient]
  rw [Nat.mul_right_comm den k, roundedQuotient_mul num _ positive]

theorem spacing_mul_two_pow {units : Nat} (normal : 2 ^ 52 ≤ units) (k : Nat) :
    spacing (units * 2 ^ k) = spacing units * 2 ^ k := by
  have nonzero : units ≠ 0 := by omega
  have scaled : units * 2 ^ k ≠ 0 := Nat.mul_ne_zero nonzero (Nat.ne_of_gt (Nat.two_pow_pos k))
  have bits : 52 ≤ units.log2 := (Nat.le_log2 nonzero).2 normal
  have low : 2 ^ (units.log2 + k) ≤ units * 2 ^ k := by
    rw [Nat.pow_add]
    exact Nat.mul_le_mul_right _ (Nat.log2_self_le nonzero)
  have high : units * 2 ^ k < 2 ^ (units.log2 + k + 1) := by
    rw [Nat.add_right_comm, Nat.pow_add]
    exact Nat.mul_lt_mul_of_pos_right Nat.lt_log2_self (Nat.two_pow_pos k)
  rw [spacing_eq, spacing_eq, (Nat.log2_eq_iff scaled).2 ⟨low, high⟩, ← Nat.pow_add]
  congr 1
  omega

/-- A magnitude of at least 53 bits is rounded the same way at every scale. -/
theorem nearestUnits_mul_two_pow {units : Nat} (normal : 2 ^ 52 ≤ units) (k : Nat) :
    nearestUnits (units * 2 ^ k) 1 = nearestUnits units 1 * 2 ^ k := by
  simp only [nearestUnits, Nat.div_one, Nat.one_mul, spacing_mul_two_pow normal]
  rw [roundedQuotient_mul _ _ (Nat.two_pow_pos k), Nat.mul_assoc]

theorem ofUnits_mul (negative : Bool) (num den : Nat) {k : Nat} (positive : 0 < k) :
    ofUnits negative (num * k) (den * k) = ofUnits negative num den := by
  simp only [ofUnits, nearestUnits_mul num den positive]

/-- The distance to the neighbours divides a magnitude of at most 53 significant bits. -/
theorem spacing_dvd {units : Nat} (representable : Representable units) : spacing units ∣ units := by
  obtain ⟨significand, exponent, small, rfl⟩ := representable.exists_significand
  by_cases zero : significand = 0
  · rw [zero, Nat.zero_mul]
    exact Nat.dvd_zero _
  · have nonzero : significand * 2 ^ exponent ≠ 0 := Nat.mul_ne_zero zero (Nat.ne_of_gt (Nat.two_pow_pos _))
    have below : significand * 2 ^ exponent < 2 ^ (53 + exponent) := by
      rw [Nat.pow_add]
      exact Nat.mul_lt_mul_of_pos_right small (Nat.two_pow_pos _)
    have bits := (Nat.log2_lt nonzero).2 below
    exact Nat.dvd_mul_left_of_dvd (Nat.pow_dvd_pow 2 (by omega)) significand

theorem nearestUnits_self {units : Nat} (representable : Representable units) :
    nearestUnits units 1 = units := by
  have divides := spacing_dvd representable
  have exact : units % spacing units = 0 := Nat.mod_eq_zero_of_dvd divides
  have whole : roundedQuotient units (spacing units) = units / spacing units := by
    simp [roundedQuotient, exact, spacing_pos]
  simp only [nearestUnits, Nat.div_one, Nat.one_mul, whole]
  exact Nat.div_mul_cancel divides

theorem ofUnits_of_nearest {num den units : Nat} (negative : Bool) (nearest : nearestUnits num den = units)
    (representable : Representable units) :
    ofUnits negative num den = .finite ⟨negative, units, representable⟩ := by
  subst nearest
  rw [ofUnits, dif_pos representable.2]

theorem ofUnits_exact (x : Finite) {k : Nat} (positive : 0 < k) :
    ofUnits x.negative (x.units * k) k = .finite x := by
  have scaled := ofUnits_mul x.negative x.units 1 positive
  rw [Nat.one_mul] at scaled
  rw [scaled]
  exact ofUnits_of_nearest _ (nearestUnits_self x.representable) x.representable

theorem ofUnits_tiny (negative : Bool) {num den : Nat} (tiny : 2 * num < den) :
    ofUnits negative num den = .finite (.zero negative) := by
  have quotient : num / den = 0 := Nat.div_eq_of_lt (by omega)
  have step : spacing 0 = 1 := rfl
  have nothing : roundedQuotient num den = 0 := by
    simp [roundedQuotient, quotient, Nat.mod_eq_of_lt (show num < den by omega), tiny]
  apply ofUnits_of_nearest
  simp [nearestUnits, quotient, step, nothing]

theorem two_pow_le_nearestUnits {num den k : Nat} (large : 2 ^ k ≤ num / den) :
    2 ^ k ≤ nearestUnits num den := by
  let quotient := num / den
  have nonzero : quotient ≠ 0 := by
    have := Nat.two_pow_pos k
    omega
  have atLeast : k ≤ quotient.log2 := (Nat.le_log2 nonzero).2 large
  have aligned : 2 ^ k ≤ quotient / spacing quotient * spacing quotient := by
    rcases Nat.le_total quotient.log2 52 with fine | coarse
    · have step : spacing quotient = 1 := by simp [spacing, Nat.sub_eq_zero_of_le fine]
      rw [step, Nat.div_one, Nat.mul_one]
      exact large
    · have split : 2 ^ quotient.log2 = 2 ^ 52 * spacing quotient := by
        rw [spacing_eq, ← Nat.pow_add]
        congr 1
        omega
      have kept : 2 ^ 52 ≤ quotient / spacing quotient := by
        rw [Nat.le_div_iff_mul_le (spacing_pos _), ← split]
        exact Nat.log2_self_le nonzero
      calc 2 ^ k ≤ 2 ^ quotient.log2 := Nat.pow_le_pow_right (by decide) atLeast
        _ = 2 ^ 52 * spacing quotient := split
        _ ≤ quotient / spacing quotient * spacing quotient := Nat.mul_le_mul_right _ kept
  have atLeastLow : quotient / spacing quotient ≤ roundedQuotient num (den * spacing quotient) := by
    simp only [roundedQuotient, quotient, Nat.div_div_eq_div_mul]
    split <;> omega
  exact Nat.le_trans aligned (Nat.mul_le_mul_right _ atLeastLow)

theorem ofUnits_huge (negative : Bool) {num den : Nat} (huge : unitsLimit ≤ num / den) :
    ofUnits negative num den = .infinite negative := by
  have beyond : ¬ nearestUnits num den < unitsLimit := by
    have bound (k : Nat) (large : 2 ^ k ≤ num / den) := two_pow_le_nearestUnits large
    rw [unitsLimit_eq] at huge ⊢
    exact Nat.not_lt.2 (bound 2098 huge)
  rw [ofUnits, dif_neg beyond]

end PagedReport.Binary64
