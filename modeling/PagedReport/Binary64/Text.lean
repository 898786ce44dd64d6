import PagedReport.Binary64.Decimal

/-! Decimal texts of numbers, as lists of characters: plain, with the point among the digits and
zeros on either side where needed, and scientific, with one digit before the point. Also the
reader of a number standing alone, which takes signs, "inf" and "nan" in any letter case. -/
namespace PagedReport

/-- The decimal digits of a natural number, at least one. -/
def digitsOf (n : Nat) : List Char := Nat.toDigits 10 n

def valueOfDigits (digits : List Char) : Nat :=
  digits.foldl (fun value c => 10 * value + (c.toNat - '0'.toNat)) 0

namespace Decimal

/-- Digits without the zeros at their end, and the position of the point after the first
`point` of them. -/
structure Digits where
  digits : List Char
  point : Int

def spelled (d : Decimal) : Digits :=
  let all := digitsOf d.digits
  let kept := (all.reverse.dropWhile (· = '0')).reverse
  if kept.isEmpty then ⟨['0'], 1⟩ else ⟨kept, all.length + d.exponent⟩

/-- A spelling without exponent. A whole number ends in `whole`. -/
def Digits.plain (whole : List Char) (s : Digits) : List Char :=
  if s.point ≤ 0 then '0' :: '.' :: List.replicate s.point.natAbs '0' ++ s.digits
  else
    let before := s.point.toNat
    if s.digits.length ≤ before then
      s.digits ++ List.replicate (before - s.digits.length) '0' ++ whole
    else s.digits.take before ++ '.' :: s.digits.drop before

/-- A spelling with one digit before the point and the sign of the exponent always written. -/
def Digits.scientific (s : Digits) : List Char :=
  let exponent := s.point - 1
  s.digits.take 1 ++ (if s.digits.length ≤ 1 then [] else '.' :: s.digits.drop 1) ++
    'e' :: (if exponent < 0 then '-' else '+') :: digitsOf exponent.natAbs

end Decimal

namespace Binary64

def signText (negative : Bool) : List Char := if negative then ['-'] else []

/-- A number without exponent: the fewest digits that read back, the upper one of two decimals that
are equally close. -/
def plainText : Binary64 → List Char
  | .nan => ['N', 'a', 'N']
  | .infinite negative => signText negative ++ ['i', 'n', 'f']
  | .finite value => signText value.negative ++ (value.shortest .up).spelled.plain []

/-- A number standing alone: one sign at most, digits with at most one point, and an exponent;
or the names of the infinities and of "not a number". -/
def ofText? (text : String) : Option Binary64 :=
  let (negative, body) := match text.toList with
    | '-' :: rest => (true, rest)
    | '+' :: rest => (false, rest)
    | rest => (false, rest)
  let lower := String.ofList (body.map Char.toLower)
  if lower = "inf" ∨ lower = "infinity" then some (.infinite negative)
  else if lower = "nan" then some .nan
  else
    let whole := body.takeWhile Char.isDigit
    let (fraction, rest) := match body.dropWhile Char.isDigit with
      | '.' :: rest => (rest.takeWhile Char.isDigit, rest.dropWhile Char.isDigit)
      | rest => ([], rest)
    if whole.isEmpty && fraction.isEmpty then none
    else
      let number (exponent : Int) := Decimal.toBinary64 negative
        ⟨valueOfDigits (whole ++ fraction), exponent - fraction.length⟩
      match rest with
      | [] => some (number 0)
      | mark :: power =>
        let (sign, digits) : Int × List Char := match power with
          | '-' :: digits => (-1, digits)
          | '+' :: digits => (1, digits)
          | digits => (1, digits)
        if mark.toLower = 'e' && !digits.isEmpty && digits.all Char.isDigit then
          some (number (sign * valueOfDigits digits))
        else none

end Binary64

end PagedReport
