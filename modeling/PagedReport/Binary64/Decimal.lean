import PagedReport.Binary64.Arithmetic

/-! Decimals and binary64 numbers. `Decimal.toBinary64` rounds a decimal to the nearest number;
`Finite.shortest` goes back, to the fewest digits that round to the same number. The search
keeps a candidate only after reading it back, and ends at the exact decimal, which every
magnitude has because `2^-1074 = 5^1074 · 10^-1074`. -/
namespace PagedReport

/-- The number `digits · 10^exponent`. -/
structure Decimal where
  digits : Nat
  exponent : Int
  deriving DecidableEq

namespace Decimal

/-- A decimal of this exponent is beyond the finite range, unless it is zero. -/
def isHuge (d : Decimal) : Bool := 400 < d.exponent

/-- A decimal that is surely below `2^-1080`, since `10^-1` is below `2^-3`; it rounds to zero. -/
def isTiny (d : Decimal) : Bool :=
  d.exponent < 0 && (d.digits.log2 : Int) + 1 + 3 * d.exponent < -1080

/-- The number of the given sign nearest to a decimal. The tests before the last two only spare
powers of ten that could not change the answer. -/
def toBinary64 (negative : Bool) (d : Decimal) : Binary64 :=
  if d.digits = 0 || d.isTiny then .finite (.zero negative)
  else if d.isHuge then .infinite negative
  else if d.exponent < 0 then
    .ofUnits negative (d.digits * Binary64.unitsPerOne) (Nat.pow 10 d.exponent.natAbs)
  else .ofUnits negative (d.digits * Nat.pow 10 d.exponent.natAbs * Binary64.unitsPerOne) 1

inductive Tie where
  | even
  | up
  deriving DecidableEq

/-- The better of two neighbours that both read back, by the part of a grid step that was cut. -/
def closer (tie : Tie) (low rest grid : Nat) : Nat :=
  if 2 * rest < grid then low
  else if grid < 2 * rest then low + 1
  else match tie with
    | .even => if low % 2 = 0 then low else low + 1
    | .up => low + 1

/-- What a grid has to offer when it is known which of two neighbours read back. -/
def chosen (tie : Tie) (low rest grid : Nat) (exponent : Int) : Bool → Bool → Option Decimal
  | true, true => some ⟨closer tie low rest grid, exponent⟩
  | true, false => some ⟨low, exponent⟩
  | false, true => some ⟨low + 1, exponent⟩
  | false, false => none

end Decimal

namespace Binary64.Finite

/-- The digits of a magnitude's exact decimal, whose exponent is -1074. -/
def exactDigits (x : Finite) : Nat := x.units * Nat.pow 5 1074

def isReadFrom (x : Finite) (d : Decimal) : Bool := d.toBinary64 x.negative = .finite x

/-- The decimal of `cut` digits less than the exact one that reads back, if there is one: only
the number's two neighbours on that grid can. -/
def onGrid (x : Finite) (tie : Decimal.Tie) (cut : Nat) : Option Decimal :=
  let grid := Nat.pow 10 cut
  let exponent : Int := cut - 1074
  let low := x.exactDigits / grid
  let rest := x.exactDigits % grid
  Decimal.chosen tie low rest grid exponent
    (x.isReadFrom ⟨low, exponent⟩) (x.isReadFrom ⟨low + 1, exponent⟩)

/-- The first grid, from `cut` down, that holds a decimal reading back as the number. -/
def shortestFrom (x : Finite) (tie : Decimal.Tie) : Nat → Decimal
  | 0 => ⟨x.exactDigits, -1074⟩
  | cut + 1 => (x.onGrid tie (cut + 1)).getD (x.shortestFrom tie cut)

/-- The decimal with the fewest digits that reads back as the number, and of those the closest. -/
def shortest (x : Finite) (tie : Decimal.Tie) : Decimal :=
  if x.units = 0 then ⟨0, 0⟩
  else x.shortestFrom tie ((Nat.toDigits 10 x.exactDigits).length - 1)

end Binary64.Finite

end PagedReport
