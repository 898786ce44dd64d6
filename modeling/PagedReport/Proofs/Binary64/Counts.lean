import Mathlib.Algebra.BigOperators.Group.List.Basic
import Mathlib.Algebra.GroupWithZero.Nat
import Mathlib.Data.List.Induction
import PagedReport.Proofs.Binary64.Bounds

/-! Numbers without a sign as counts of units. An operation on counted numbers is one rounding of a
count, and whole numbers of at most 53 bits are added, multiplied and summed exactly. `AtLeast` also
covers what lies beyond the finite range, where no count is left. -/
namespace PagedReport.Binary64

/-- The finite number of so many units, without a sign. -/
def Counts (x : Binary64) (units : Nat) : Prop := ∃ fits, x = .finite ⟨false, units, fits⟩

namespace Counts

variable {x y : Binary64} {a b : Nat}

theorem ofUnits {num den : Nat} (below : nearestUnits num den < unitsLimit) :
    Counts (ofUnits false num den) (nearestUnits num den) :=
  ⟨representable_nearestUnits below, ofUnits_of_nearest false rfl _⟩

theorem ofNat {n : Nat} (small : n < 2 ^ 53) : Counts (ofNat n) (n * unitsPerOne) := ⟨_, ofNat_eq small⟩

theorem unique (left : Counts x a) (right : Counts y a) : x = y := by
  obtain ⟨_, rfl⟩ := left
  obtain ⟨_, rfl⟩ := right
  rfl

theorem add_eq (left : Counts x a) (right : Counts y b) : x + y = Binary64.ofUnits false (a + b) 1 := by
  obtain ⟨aFits, rfl⟩ := left
  obtain ⟨bFits, rfl⟩ := right
  change Binary64.add _ _ = _
  have sum : ((a : Int) + b).natAbs = a + b := by omega
  by_cases zero : (a : Int) + b = 0
  · have nothing : a + b = 0 := by omega
    simp only [Binary64.add, Finite.signedUnits, Bool.false_eq_true, if_false, zero, if_true, nothing]
    exact (ofUnits_exact (.zero false) Nat.one_pos).symm
  · have positive : ¬ (a : Int) + b < 0 := by omega
    simp only [Binary64.add, Finite.signedUnits, Bool.false_eq_true, if_false, zero, positive,
      decide_false, sum]

theorem mul_eq (left : Counts x a) (right : Counts y b) :
    x * y = Binary64.ofUnits false (a * b) unitsPerOne := by
  obtain ⟨_, rfl⟩ := left
  obtain ⟨_, rfl⟩ := right
  change Binary64.mul _ _ = _
  simp only [Binary64.mul, bne_self_eq_false]

theorem div_eq (left : Counts x a) (right : Counts y b) (nonzero : b ≠ 0) :
    x / y = Binary64.ofUnits false (a * unitsPerOne) b := by
  obtain ⟨_, rfl⟩ := left
  obtain ⟨_, rfl⟩ := right
  change Binary64.div _ _ = _
  simp only [Binary64.div, nonzero, if_false, bne_self_eq_false]

theorem add (left : Counts x a) (right : Counts y b) (below : nearestUnits (a + b) 1 < unitsLimit) :
    Counts (x + y) (nearestUnits (a + b) 1) := by
  rw [left.add_eq right]
  exact Counts.ofUnits below

theorem larger (left : Counts x a) (right : Counts y b) : Counts (x.larger y) (max a b) := by
  obtain ⟨aFits, rfl⟩ := left
  obtain ⟨bFits, rfl⟩ := right
  by_cases less : a < b
  · rw [Nat.max_eq_right (Nat.le_of_lt less)]
    exact ⟨bFits, by simp [Binary64.larger, isNaN, isBelow, Finite.signedUnits, less]⟩
  · rw [Nat.max_eq_left (Nat.le_of_not_lt less)]
    exact ⟨aFits, by simp [Binary64.larger, isNaN, isBelow, Finite.signedUnits, less]⟩

theorem smaller (left : Counts x a) (right : Counts y b) : Counts (x.smaller y) (min a b) := by
  obtain ⟨aFits, rfl⟩ := left
  obtain ⟨bFits, rfl⟩ := right
  by_cases less : b < a
  · rw [Nat.min_eq_right (Nat.le_of_lt less)]
    exact ⟨bFits, by simp [Binary64.smaller, isNaN, isBelow, Finite.signedUnits, less]⟩
  · rw [Nat.min_eq_left (Nat.le_of_not_lt less)]
    exact ⟨aFits, by simp [Binary64.smaller, isNaN, isBelow, Finite.signedUnits, less]⟩

theorem toUInt32 (count : Counts x a) :
    x.toUInt32.toNat = min (a / unitsPerOne) 0xFFFFFFFF := by
  obtain ⟨fits, rfl⟩ := count
  have whole : min (a / unitsPerOne) 0xFFFFFFFF < 2 ^ 32 :=
    Nat.lt_of_le_of_lt (Nat.min_le_right _ _) (by decide)
  rw [Binary64.toUInt32, if_neg (by simp), UInt32.toNat_ofNat']
  exact Nat.mod_eq_of_lt whole

end Counts

/-- Whole numbers of at most 53 bits are added, multiplied and summed exactly. -/
theorem ofNat_add {a b : Nat} (small : a + b < 2 ^ 53) : ofNat a + ofNat b = ofNat (a + b) := by
  have left : Counts (ofNat a) _ := .ofNat (by omega)
  have right : Counts (ofNat b) _ := .ofNat (by omega)
  rw [left.add_eq right, ← Nat.add_mul, ofNat]

theorem ofNat_mul {a b : Nat} (aSmall : a < 2 ^ 53) (bSmall : b < 2 ^ 53) :
    ofNat a * ofNat b = ofNat (a * b) := by
  have left : Counts (ofNat a) _ := .ofNat aSmall
  have right : Counts (ofNat b) _ := .ofNat bSmall
  have quotient := ofUnits_mul false (a * b * unitsPerOne) 1 unitsPerOne_pos
  rw [Nat.one_mul] at quotient
  rw [left.mul_eq right, Nat.mul_mul_mul_comm, ← Nat.mul_assoc, quotient, ofNat]

/-- A quotient of whole numbers is rounded once. -/
theorem ofNat_div {a b : Nat} (aSmall : a < 2 ^ 53) (bSmall : b < 2 ^ 53) (positive : 0 < b) :
    ofNat a / ofNat b = ofUnits false (a * unitsPerOne) b := by
  have left : Counts (ofNat a) _ := .ofNat aSmall
  have right : Counts (ofNat b) _ := .ofNat bSmall
  rw [left.div_eq right (Nat.ne_of_gt (Nat.mul_pos positive unitsPerOne_pos))]
  exact ofUnits_mul false _ b unitsPerOne_pos

theorem zero_eq : (0 : Binary64) = ofNat 0 := rfl

theorem sum_ofNat {counts : List Nat} (small : counts.sum < 2 ^ 53) :
    Binary64.sum (counts.map ofNat) = ofNat counts.sum := by
  induction counts using List.reverseRecOn with
  | nil =>
    rw [List.map_nil, List.sum_nil, Binary64.sum, List.foldl_nil]
    exact zero_eq
  | append_singleton counts count ih =>
    rw [List.sum_append, List.sum_singleton] at small ⊢
    have earlier := ih (by omega)
    rw [Binary64.sum] at earlier ⊢
    rw [List.map_append, List.foldl_append, earlier, List.map_singleton, List.foldl_cons,
      List.foldl_nil, ofNat_add small]

/-- At least so many units, perhaps beyond the finite range. -/
def AtLeast (least : Nat) (x : Binary64) : Prop :=
  (∃ units, least ≤ units ∧ Counts x units) ∨ x = .infinite false

theorem Counts.atLeast {x : Binary64} {a : Nat} (count : Counts x a) : AtLeast a x :=
  .inl ⟨a, Nat.le_refl a, count⟩

namespace AtLeast

variable {x y : Binary64} {a b : Nat}

theorem ofUnits {least num den : Nat} (fits : Representable least) (positive : 0 < den)
    (le : least * den ≤ num) : AtLeast least (ofUnits false num den) := by
  have finite : least ≤ nearestUnits num den := le_nearestUnits fits positive le
  rcases Nat.lt_or_ge (nearestUnits num den) unitsLimit with below | beyond
  · exact .inl ⟨_, finite, Counts.ofUnits below⟩
  · exact .inr (by rw [Binary64.ofUnits, dif_neg (Nat.not_lt.2 beyond)])

theorem add (left : AtLeast a x) (right : AtLeast b y) (fits : Representable (a + b)) :
    AtLeast (a + b) (x + y) := by
  rcases left with ⟨m, leM, countX⟩ | rfl
  · rcases right with ⟨n, leN, countY⟩ | rfl
    · rw [countX.add_eq countY]
      apply AtLeast.ofUnits fits Nat.one_pos
      omega
    · obtain ⟨_, rfl⟩ := countX
      exact .inr rfl
  · rcases right with ⟨n, leN, countY⟩ | rfl
    · obtain ⟨_, rfl⟩ := countY
      exact .inr rfl
    · exact .inr rfl

theorem mul {least : Nat} (left : AtLeast a x) (right : AtLeast b y) (positive : 0 < least)
    (fits : Representable least) (le : least * unitsPerOne ≤ a * b) : AtLeast least (x * y) := by
  have product : 0 < a * b := Nat.lt_of_lt_of_le (Nat.mul_pos positive unitsPerOne_pos) le
  have aPositive : 0 < a := Nat.pos_of_mul_pos_right product
  have bPositive : 0 < b := Nat.pos_of_mul_pos_left product
  rcases left with ⟨m, leM, countX⟩ | rfl
  · rcases right with ⟨n, leN, countY⟩ | rfl
    · rw [countX.mul_eq countY]
      exact AtLeast.ofUnits fits unitsPerOne_pos (Nat.le_trans le (Nat.mul_le_mul leM leN))
    · obtain ⟨_, rfl⟩ := countX
      have nonzero : m ≠ 0 := by omega
      exact .inr (if_neg nonzero)
  · rcases right with ⟨n, leN, countY⟩ | rfl
    · obtain ⟨_, rfl⟩ := countY
      have nonzero : n ≠ 0 := by omega
      exact .inr (if_neg nonzero)
    · exact .inr rfl

theorem larger (left : AtLeast a x) (right : AtLeast b y) : AtLeast a (x.larger y) := by
  rcases left with ⟨m, leM, countX⟩ | rfl
  · rcases right with ⟨n, leN, countY⟩ | rfl
    · exact .inl ⟨_, Nat.le_trans leM (Nat.le_max_left m n), countX.larger countY⟩
    · obtain ⟨_, rfl⟩ := countX
      exact .inr rfl
  · rcases right with ⟨n, leN, countY⟩ | rfl
    · obtain ⟨_, rfl⟩ := countY
      exact .inr rfl
    · exact .inr rfl

/-- What is larger than a bound is cut to it. -/
theorem smaller (left : AtLeast a x) (bound : Counts y b) (le : b ≤ a) : Counts (x.smaller y) b := by
  rcases left with ⟨m, leM, countX⟩ | rfl
  · have cut := countX.smaller bound
    rwa [Nat.min_eq_right (Nat.le_trans le leM)] at cut
  · obtain ⟨fits, rfl⟩ := bound
    exact ⟨fits, rfl⟩

end AtLeast

/-- At most so many units, and within the finite range. -/
def AtMost (most : Nat) (x : Binary64) : Prop := ∃ units, units ≤ most ∧ Counts x units

theorem Counts.atMost {x : Binary64} {a : Nat} (count : Counts x a) : AtMost a x :=
  ⟨a, Nat.le_refl a, count⟩

namespace AtMost

variable {x y : Binary64} {a b most : Nat}

theorem finite (bounded : AtMost a x) : ∃ value, x = .finite value := by
  obtain ⟨_, -, _, rfl⟩ := bounded
  exact ⟨_, rfl⟩

theorem ofUnits {num den : Nat} (fits : Representable most) (positive : 0 < den)
    (le : num ≤ most * den) : AtMost most (ofUnits false num den) := by
  have finite : nearestUnits num den ≤ most := nearestUnits_le fits positive le
  exact ⟨_, finite, Counts.ofUnits (Nat.lt_of_le_of_lt finite fits.2)⟩

theorem add (left : AtMost a x) (right : AtMost b y) (fits : Representable most)
    (le : a + b ≤ most) : AtMost most (x + y) := by
  obtain ⟨m, mLe, countX⟩ := left
  obtain ⟨n, nLe, countY⟩ := right
  rw [countX.add_eq countY]
  apply AtMost.ofUnits fits Nat.one_pos
  omega

theorem mul (left : AtMost a x) (right : AtMost b y) (fits : Representable most)
    (le : a * b ≤ most * unitsPerOne) : AtMost most (x * y) := by
  obtain ⟨m, mLe, countX⟩ := left
  obtain ⟨n, nLe, countY⟩ := right
  rw [countX.mul_eq countY]
  exact AtMost.ofUnits fits unitsPerOne_pos (Nat.le_trans (Nat.mul_le_mul mLe nLe) le)

theorem larger (left : AtMost a x) (right : AtMost b y) : AtMost (max a b) (x.larger y) := by
  obtain ⟨m, mLe, countX⟩ := left
  obtain ⟨n, nLe, countY⟩ := right
  exact ⟨max m n, by omega, countX.larger countY⟩

end AtMost

end PagedReport.Binary64
