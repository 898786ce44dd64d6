import Mathlib.Algebra.BigOperators.Group.List.Basic
import Mathlib.Algebra.Order.Field.Basic
import Mathlib.Data.List.Induction
import Mathlib.Data.Rat.Cast.Order
import Mathlib.Tactic.Linarith
import PagedReport.Proofs.Binary64.Counts

/-! Running sums of numbers without a sign, as counts of units. Rounding keeps order and errs by at
most the `2^53`th part of what it rounds, so a running sum grows with its terms, stays within what its
terms allow, and drifts from the exact sum by an error that the number of terms bounds. It never leaves
the finite range: from `2^62` on, small terms no longer change it. -/
namespace PagedReport.Binary64

theorem roundedQuotient_mono {num more : Nat} (den : Nat) (le : num ≤ more) :
    roundedQuotient num den ≤ roundedQuotient more den := by
  have low : num / den ≤ more / den := Nat.div_le_div_right le
  rcases Nat.lt_or_eq_of_le low with less | same
  · calc roundedQuotient num den ≤ num / den + 1 := roundedQuotient_le num den
      _ ≤ more / den := less
      _ ≤ roundedQuotient more den := le_roundedQuotient more den
  · have rest : num % den ≤ more % den := by
      have split := Nat.div_add_mod num den
      have splitMore := Nat.div_add_mod more den
      rw [same] at split
      omega
    simp only [roundedQuotient, same]
    split <;> split <;> omega

theorem nearestUnits_le_two_pow {num den k : Nat} (positive : 0 < den) (small : num / den < 2 ^ k) :
    nearestUnits num den ≤ 2 ^ k := by
  have bits : (num / den).log2 ≤ k := by
    by_cases zero : num / den = 0
    · simp [zero]
    · exact Nat.le_of_lt ((Nat.log2_lt zero).2 small)
  apply nearestUnits_le_of_dvd positive
  · rw [spacing_eq]
    exact Nat.pow_dvd_pow 2 (by omega)
  · exact Nat.le_of_lt ((Nat.div_lt_iff_lt_mul positive).1 small)

/-- Rounding keeps order. Within a binade the grid is the same, and binades are parted by powers of
two, which are never crossed. -/
theorem nearestUnits_mono {den : Nat} (positive : 0 < den) : Monotone (nearestUnits · den) := by
  intro num more le
  have quotients : num / den ≤ more / den := Nat.div_le_div_right le
  rcases Nat.lt_or_eq_of_le (log2_le_log2 quotients) with less | same
  · have nonzero : more / den ≠ 0 := by
      intro zero
      simp [zero] at less
    have small : num / den < 2 ^ (more / den).log2 := by
      refine Nat.lt_of_lt_of_le Nat.lt_log2_self ?_
      exact Nat.pow_le_pow_right (by decide) less
    exact Nat.le_trans (nearestUnits_le_two_pow positive small)
      (two_pow_le_nearestUnits (Nat.log2_self_le nonzero))
  · have step : spacing (num / den) = spacing (more / den) := by rw [spacing_eq, spacing_eq, same]
    simp only [nearestUnits, step]
    exact Nat.mul_le_mul_right _ (roundedQuotient_mono _ le)

theorem roundedQuotient_error {num den : Nat} (positive : 0 < den) :
    2 * num ≤ 2 * (roundedQuotient num den * den) + den ∧
      2 * (roundedQuotient num den * den) ≤ 2 * num + den := by
  have split : num / den * den + num % den = num := Nat.div_add_mod' num den
  have rest : num % den < den := Nat.mod_lt num positive
  simp only [roundedQuotient]
  split
  · omega
  · rw [Nat.add_mul, Nat.one_mul]
    omega

/-- Away from zero, rounding errs by at most the `2^53`th part. -/
theorem nearestUnits_error {num den : Nat} (positive : 0 < den) (normal : 2 ^ 52 ≤ num / den) :
    2 ^ 53 * num ≤ 2 ^ 53 * (nearestUnits num den * den) + num ∧
      2 ^ 53 * (nearestUnits num den * den) ≤ 2 ^ 53 * num + num := by
  let step := spacing (num / den)
  have nonzero : num / den ≠ 0 := by
    have := Nat.two_pow_pos 52
    omega
  have bits : 52 ≤ (num / den).log2 := (Nat.le_log2 nonzero).2 normal
  have leading : step * 2 ^ 52 = 2 ^ (num / den).log2 := by
    rw [show step = 2 ^ ((num / den).log2 - 52) from rfl, ← Nat.pow_add]
    congr 1
    omega
  have grid : den * step * 2 ^ 52 ≤ num := by
    calc den * step * 2 ^ 52 = 2 ^ (num / den).log2 * den := by rw [Nat.mul_assoc, leading, Nat.mul_comm]
      _ ≤ num / den * den := Nat.mul_le_mul_right _ (Nat.log2_self_le nonzero)
      _ ≤ num := Nat.div_mul_le_self num den
  have onGrid : nearestUnits num den * den = roundedQuotient num (den * step) * (den * step) := by
    rw [nearestUnits]
    ac_rfl
  have error : 2 * num ≤ 2 * (roundedQuotient num (den * step) * (den * step)) + den * step ∧
      2 * (roundedQuotient num (den * step) * (den * step)) ≤ 2 * num + den * step :=
    roundedQuotient_error (Nat.mul_pos positive (spacing_pos _))
  rw [onGrid]
  omega

theorem nearestUnits_error_one (units : Nat) :
    2 ^ 53 * units ≤ 2 ^ 53 * nearestUnits units 1 + units ∧
      2 ^ 53 * nearestUnits units 1 ≤ 2 ^ 53 * units + units := by
  by_cases small : units < 2 ^ 53
  · have fits : Representable (units * 2 ^ 0) := representable_of_small small (by decide)
    rw [Nat.pow_zero, Nat.mul_one] at fits
    rw [nearestUnits_self fits]
    omega
  · have normal : 2 ^ 52 ≤ units / 1 := by
      rw [Nat.div_one]
      omega
    have error := nearestUnits_error Nat.one_pos normal
    rwa [Nat.mul_one] at error

/-- Terms added one after the other, each sum rounded. -/
def runningUnits (terms : List Nat) : Nat := terms.foldl (fun sum term => nearestUnits (sum + term) 1) 0

@[simp] theorem runningUnits_nil : runningUnits [] = 0 := rfl

theorem runningUnits_append (terms : List Nat) (term : Nat) :
    runningUnits (terms ++ [term]) = nearestUnits (runningUnits terms + term) 1 := by
  rw [runningUnits, List.foldl_append]
  rfl

/-- What a running sum never exceeds while its terms are small. -/
def ceiling : Nat := 2 ^ 62 * unitsPerOne

theorem nearestUnits_ceiling : nearestUnits (ceiling + 250 * unitsPerOne) 1 = ceiling := by
  -- Numbers of this size are 1024 apart, and 250 is less than half of that.
  have back : nearestUnits (2 ^ 62 + 250) 1 = 2 ^ 62 := by decide
  rw [ceiling, ← Nat.add_mul, unitsPerOne_eq, nearestUnits_mul_two_pow (by decide), back]

theorem ceiling_lt_unitsLimit : ceiling + 250 * unitsPerOne < unitsLimit := by
  have inRange : 2 ^ 63 * unitsPerOne < unitsLimit := (representable_two_pow (by decide)).2
  have positive := unitsPerOne_pos
  rw [ceiling]
  omega

theorem nearestUnits_le_ceiling {sum term : Nat} (sumLe : sum ≤ ceiling)
    (termLe : term ≤ 250 * unitsPerOne) : nearestUnits (sum + term) 1 ≤ ceiling := by
  rw [← nearestUnits_ceiling]
  exact nearestUnits_mono Nat.one_pos (Nat.add_le_add sumLe termLe)

section Running

variable {terms : List Nat}

theorem runningUnits_le_ceiling (small : ∀ term ∈ terms, term ≤ 250 * unitsPerOne) :
    runningUnits terms ≤ ceiling := by
  induction terms using List.reverseRecOn with
  | nil => exact Nat.zero_le _
  | append_singleton terms term ih =>
    rw [runningUnits_append]
    have sumLe := ih fun t member => small t (by simp [member])
    exact nearestUnits_le_ceiling sumLe (small term (by simp))

/-- A sum of numbers runs through the counts of its partial sums. -/
theorem Counts.sum {xs : List Binary64} (counts : List.Forall₂ Counts xs terms)
    (small : ∀ term ∈ terms, term ≤ 250 * unitsPerOne) :
    Counts (Binary64.sum xs) (runningUnits terms) := by
  have run {xs : List Binary64} {terms : List Nat} (counts : List.Forall₂ Counts xs terms)
      {start : Binary64} {units : Nat} (started : Counts start units) (startLe : units ≤ ceiling)
      (small : ∀ term ∈ terms, term ≤ 250 * unitsPerOne) :
      Counts (xs.foldl (· + ·) start)
        (terms.foldl (fun sum term => nearestUnits (sum + term) 1) units) := by
    induction counts generalizing start units with
    | nil => exact started
    | @cons x term xs terms first _ ih =>
      have sumLe := nearestUnits_le_ceiling startLe (small term (by simp))
      have below : nearestUnits (units + term) 1 < unitsLimit := by
        have := ceiling_lt_unitsLimit
        omega
      exact ih (started.add first below) sumLe fun t member => small t (by simp [member])
  have zero : Counts (0 : Binary64) 0 := by
    have count := Counts.ofNat (n := 0) (by decide)
    rwa [Nat.zero_mul] at count
  exact run counts zero (Nat.zero_le _) small

theorem runningUnits_mono {more : List Nat} (le : List.Forall₂ (· ≤ ·) terms more) :
    runningUnits terms ≤ runningUnits more := by
  have run {terms more : List Nat} (le : List.Forall₂ (· ≤ ·) terms more) {start later : Nat}
      (starts : start ≤ later) :
      terms.foldl (fun sum term => nearestUnits (sum + term) 1) start ≤
        more.foldl (fun sum term => nearestUnits (sum + term) 1) later := by
    induction le generalizing start later with
    | nil => exact starts
    | cons first _ ih => exact ih (nearestUnits_mono Nat.one_pos (Nat.add_le_add starts first))
  exact run le (Nat.le_refl 0)

theorem runningUnits_le {most : Nat} (each : ∀ term ∈ terms, term ≤ most * unitsPerOne)
    (few : most * terms.length < 2 ^ 53) : runningUnits terms ≤ most * terms.length * unitsPerOne := by
  induction terms using List.reverseRecOn with
  | nil => simp
  | append_singleton terms term ih =>
    rw [List.length_append, List.length_singleton, Nat.mul_add, Nat.mul_one] at few ⊢
    have sumLe := ih (fun t member => each t (by simp [member])) (by omega)
    have termLe := each term (by simp)
    rw [runningUnits_append]
    apply nearestUnits_le (representable_whole few) Nat.one_pos
    rw [Nat.mul_one, Nat.add_mul]
    exact Nat.add_le_add sumLe termLe

/-- A running sum does not fall behind its least terms, as long as these can be counted. -/
theorem le_runningUnits {least limit : Nat} (each : ∀ term ∈ terms, least * unitsPerOne ≤ term)
    (small : least * limit < 2 ^ 53) :
    least * min terms.length limit * unitsPerOne ≤ runningUnits terms := by
  induction terms using List.reverseRecOn with
  | nil => simp
  | append_singleton terms term ih =>
    have sumGe := ih fun t member => each t (by simp [member])
    have termGe := each term (by simp)
    have count : min (terms.length + 1) limit ≤ min terms.length limit + 1 := by omega
    have fits : Representable (least * min (terms.length + 1) limit * unitsPerOne) :=
      representable_whole (Nat.lt_of_le_of_lt (Nat.mul_le_mul_left _ (Nat.min_le_right _ _)) small)
    rw [runningUnits_append, List.length_append, List.length_singleton]
    apply le_nearestUnits fits Nat.one_pos
    calc least * min (terms.length + 1) limit * unitsPerOne * 1
        ≤ least * (min terms.length limit + 1) * unitsPerOne := by
          rw [Nat.mul_one]
          exact Nat.mul_le_mul_right _ (Nat.mul_le_mul_left _ count)
      _ = least * min terms.length limit * unitsPerOne + least * unitsPerOne := by
          rw [Nat.mul_add, Nat.mul_one, Nat.add_mul]
      _ ≤ runningUnits terms + term := Nat.add_le_add sumGe termGe

/-- Terms on a common grid are summed exactly. -/
theorem runningUnits_exact {part : Nat} (fits : ∀ significand < 2 ^ 53, Representable (significand * part))
    (counts : List Nat) (small : counts.sum < 2 ^ 53) :
    runningUnits (counts.map (· * part)) = counts.sum * part := by
  induction counts using List.reverseRecOn with
  | nil => simp
  | append_singleton counts count ih =>
    rw [List.sum_append, List.sum_singleton] at small ⊢
    rw [List.map_append, List.map_singleton, runningUnits_append, ih (by omega), ← Nat.add_mul]
    exact nearestUnits_self (fits _ small)

end Running

/-- A count of units as a number. -/
def amount (units : Nat) : ℚ := units / unitsPerOne

theorem unitsPerOne_pos_rat : (0 : ℚ) < unitsPerOne := by exact_mod_cast unitsPerOne_pos

theorem amount_zero : amount 0 = 0 := by
  rw [amount, Nat.cast_zero, zero_div]

theorem amount_add (a b : Nat) : amount (a + b) = amount a + amount b := by
  rw [amount, amount, amount, Nat.cast_add, add_div]

theorem amount_whole (n : Nat) : amount (n * unitsPerOne) = n := by
  rw [amount, Nat.cast_mul]
  exact mul_div_cancel_right₀ _ (ne_of_gt unitsPerOne_pos_rat)

theorem amount_le_amount {a b : Nat} : amount a ≤ amount b ↔ a ≤ b := by
  rw [amount, amount, div_le_div_iff_of_pos_right unitsPerOne_pos_rat, Nat.cast_le]

/-- An error of the `2^53`th part, said of numbers. -/
theorem amount_error {units num den : Nat} (positive : 0 < den)
    (error : 2 ^ 53 * num ≤ 2 ^ 53 * (units * den) + num ∧
      2 ^ 53 * (units * den) ≤ 2 ^ 53 * num + num) :
    |amount units - amount num / den| ≤ amount num / den / 2 ^ 53 := by
  have denPositive : (0 : ℚ) < den := by exact_mod_cast positive
  have below : (2 : ℚ) ^ 53 * num ≤ 2 ^ 53 * (units * den) + num := by exact_mod_cast error.1
  have above : (2 : ℚ) ^ 53 * (units * den) ≤ 2 ^ 53 * num + num := by exact_mod_cast error.2
  have scaled : |(units : ℚ) * den - num| ≤ num / 2 ^ 53 := by
    rw [abs_le]
    constructor <;> linarith
  have split : amount units - amount num / den = (units * den - num) / (unitsPerOne * den) := by
    rw [amount, amount, div_div, sub_div, mul_div_mul_right _ _ denPositive.ne']
  have part : amount num / den / 2 ^ 53 = num / 2 ^ 53 / (unitsPerOne * den) := by
    rw [amount, div_div (num : ℚ), div_right_comm]
  have bothPositive := mul_pos unitsPerOne_pos_rat denPositive
  rw [split, part, abs_div, abs_of_pos bothPositive]
  exact div_le_div_of_nonneg_right scaled (le_of_lt bothPositive)

theorem amount_nearestUnits_one (units : Nat) :
    |amount (nearestUnits units 1) - amount units| ≤ amount units / 2 ^ 53 := by
  have error := nearestUnits_error_one units
  rw [← Nat.mul_one (nearestUnits units 1)] at error
  have near := amount_error Nat.one_pos error
  rwa [Nat.cast_one, div_one] at near

/-- A quotient of at least one, rounded. -/
theorem amount_nearestUnits_div {num den : Nat} (positive : 0 < den) (le : den ≤ num) :
    |amount (nearestUnits (num * unitsPerOne) den) - num / den| ≤ (num / den : ℚ) / 2 ^ 53 := by
  have normal : 2 ^ 52 ≤ num * unitsPerOne / den := by
    rw [Nat.le_div_iff_mul_le positive, Nat.mul_comm]
    have atLeast (exponent : Nat) (large : 52 ≤ exponent) : 2 ^ 52 ≤ 2 ^ exponent :=
      Nat.pow_le_pow_right (by decide) large
    rw [unitsPerOne_eq]
    exact Nat.mul_le_mul le (atLeast 1074 (by decide))
  have near := amount_error positive (nearestUnits_error positive normal)
  rwa [amount_whole] at near

/-- A running sum drifts from the exact sum by an error that grows with the square of the number of
its terms. -/
theorem runningUnits_error {terms : List Nat} {most : Nat}
    (each : ∀ term ∈ terms, term ≤ most * unitsPerOne) (few : most * terms.length < 2 ^ 53) :
    |amount (runningUnits terms) - (terms.map amount).sum| ≤
      most * (terms.length * (terms.length + 1)) / 2 ^ 54 := by
  induction terms using List.reverseRecOn with
  | nil => simp [amount_zero]
  | append_singleton terms term ih =>
    have fewer : most * terms.length < 2 ^ 53 := by
      rw [List.length_append] at few
      exact Nat.lt_of_le_of_lt (Nat.mul_le_mul_left _ (Nat.le_add_right _ _)) few
    have earlier : ∀ t ∈ terms, t ≤ most * unitsPerOne := fun t member => each t (by simp [member])
    have drift := ih earlier fewer
    have step := amount_nearestUnits_one (runningUnits terms + term)
    have size : amount (runningUnits terms + term) ≤ most * (terms.length + 1) := by
      have sum := Nat.add_le_add (runningUnits_le earlier fewer) (each term (by simp))
      rw [← Nat.add_mul, ← amount_le_amount, amount_whole] at sum
      push_cast at sum
      linarith
    rw [runningUnits_append, List.map_append, List.sum_append, List.map_singleton, List.sum_singleton,
      List.length_append, List.length_singleton]
    rw [amount_add] at step size
    rw [abs_le] at drift step ⊢
    push_cast
    constructor <;> linarith

end PagedReport.Binary64
