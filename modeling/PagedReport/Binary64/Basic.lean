/-! Binary64 numbers as exact integers. A finite magnitude is a whole number of units of
`2^-1074`, so comparing two numbers compares two integers, and every operation is its exact
result rounded once, by `nearestUnits`. Rounding always lands on a representable magnitude
(`representable_nearestUnits`), which is why only the upper bound is tested at run time. -/
namespace PagedReport

namespace Binary64

/-- One, counted in units of `2^-1074`. -/
def unitsPerOne : Nat := Nat.pow 2 1074

/-- The first magnitude beyond the finite range, `2^1024`, counted in units. -/
def unitsLimit : Nat := Nat.pow 2 2098

theorem unitsLimit_pos : 0 < unitsLimit := by delta unitsLimit; apply Nat.two_pow_pos

/-- A magnitude with at most 53 significant bits, below the finite range's end. -/
def Representable (units : Nat) : Prop :=
  (∃ significand exponent, significand < 0x20000000000000 ∧ units = significand * Nat.pow 2 exponent) ∧
    units < unitsLimit

/-- A finite number: a sign, which zero has too, and a magnitude in units. -/
structure Finite where
  negative : Bool
  units : Nat
  representable : Representable units

instance : DecidableEq Finite := fun a b =>
  if h : a.negative = b.negative ∧ a.units = b.units then
    .isTrue (by cases a; cases b; simp_all)
  else .isFalse (by intro same; exact h (same ▸ ⟨rfl, rfl⟩))

end Binary64

/-- A binary64 number; all payloads of "not a number" are one value. -/
inductive Binary64 where
  | finite (value : Binary64.Finite)
  | infinite (negative : Bool)
  | nan
  deriving DecidableEq

namespace Binary64

/-- The quotient rounded to the nearest whole number, a tie going to the even neighbour. -/
def roundedQuotient (num den : Nat) : Nat :=
  let low := num / den
  let twice := 2 * (num % den)
  if twice < den ∨ (twice = den ∧ low % 2 = 0) then low else low + 1

/-- The distance between neighbouring representable magnitudes around a number of units. -/
def spacing (units : Nat) : Nat := Nat.pow 2 (units.log2 - 52)

/-- The representable magnitude nearest to `num / den` units, were the range unbounded above. -/
def nearestUnits (num den : Nat) : Nat :=
  let step := spacing (num / den)
  roundedQuotient num (den * step) * step

theorem lt_spacing_mul (units : Nat) : units < spacing units * 0x20000000000000 := by
  have bound : units < 2 ^ (units.log2 + 1) := Nat.lt_log2_self
  have split : spacing units * 0x20000000000000 = 2 ^ (units.log2 - 52 + 53) :=
    (Nat.pow_add 2 (units.log2 - 52) 53).symm
  rw [split]
  exact Nat.lt_of_lt_of_le bound (Nat.pow_le_pow_right (by decide) (by omega))

theorem roundedQuotient_le (num den : Nat) : roundedQuotient num den ≤ num / den + 1 := by
  simp only [roundedQuotient]; split <;> omega

theorem significand_le (num den : Nat) :
    roundedQuotient num (den * spacing (num / den)) ≤ 0x20000000000000 := by
  refine Nat.le_trans (roundedQuotient_le _ _) ?_
  rw [← Nat.div_div_eq_div_mul]
  exact Nat.div_lt_of_lt_mul (lt_spacing_mul _)

theorem representable_mul_pow {significand exponent : Nat} (small : significand ≤ 0x20000000000000)
    (below : significand * Nat.pow 2 exponent < unitsLimit) :
    Representable (significand * Nat.pow 2 exponent) := by
  refine ⟨?_, below⟩
  by_cases carry : significand = 0x20000000000000
  · have double : Nat.pow 2 (exponent + 1) = Nat.pow 2 exponent * 2 := Nat.pow_succ 2 exponent
    exact ⟨0x10000000000000, exponent + 1, by decide, by rw [carry, double]; omega⟩
  · exact ⟨significand, exponent, by omega, rfl⟩

theorem representable_nearestUnits {num den : Nat} (below : nearestUnits num den < unitsLimit) :
    Representable (nearestUnits num den) :=
  representable_mul_pow (significand_le num den) below

/-- The number of the given sign nearest to `num / den` units; beyond the range, an infinity. -/
def ofUnits (negative : Bool) (num den : Nat) : Binary64 :=
  if below : nearestUnits num den < unitsLimit then
    .finite ⟨negative, nearestUnits num den, representable_nearestUnits below⟩
  else .infinite negative

theorem representable_zero : Representable 0 :=
  ⟨⟨0, 0, by decide, rfl⟩, unitsLimit_pos⟩

def Finite.zero (negative : Bool) : Finite := ⟨negative, 0, representable_zero⟩

def Finite.signedUnits (x : Finite) : Int := if x.negative then -(x.units : Int) else x.units

def Finite.isWhole (x : Finite) : Bool := x.units % unitsPerOne = 0

def Finite.wholePart (x : Finite) : Nat := x.units / unitsPerOne

def isNaN : Binary64 → Bool
  | .nan => true
  | _ => false

end Binary64

end PagedReport
