import PagedReport.Json.Reader
import PagedReport.Proofs.Binary64.ReadBack
import PagedReport.Proofs.Binary64.Spelling

/-! Numbers read back from their written form. A number is its whole part, a fraction and an
exponent, and each of the three readers gets a lemma saying what it does with a part that is followed
by something else. `readNumber_floatText` and `readNumber_integerText` put them together: the number
comes back as what it was, a whole float as a float. -/
namespace PagedReport.Json

open Binary64

/-- What follows a number is no part of it. -/
def EndsNumber (rest : List Char) : Prop :=
  ∀ c ∈ rest.head?, c.isDigit = false ∧ c ≠ '.' ∧ c ≠ 'e' ∧ c ≠ 'E'

def EndsDigits (rest : List Char) : Prop := ∀ c ∈ rest.head?, c.isDigit = false

theorem EndsNumber.endsDigits {rest : List Char} (ends : EndsNumber rest) : EndsDigits rest :=
  fun c head => (ends c head).1

theorem takeWhile_digits {digits rest : List Char} (all : ∀ c ∈ digits, c.isDigit)
    (ends : EndsDigits rest) : (digits ++ rest).takeWhile Char.isDigit = digits := by
  rw [List.takeWhile_append_of_pos all]
  cases rest with
  | nil => simp
  | cons c rest => simp [ends c rfl]

theorem dropWhile_digits {digits rest : List Char} (all : ∀ c ∈ digits, c.isDigit)
    (ends : EndsDigits rest) : (digits ++ rest).dropWhile Char.isDigit = rest := by
  rw [List.dropWhile_append_of_pos all]
  cases rest with
  | nil => rfl
  | cons c rest => simp [ends c rfl]

/-- Digits before the point: a zero alone, or digits that begin with no zero. -/
def WholePart (whole : List Char) : Prop :=
  whole = ['0'] ∨ ∃ c cs, whole = c :: cs ∧ c.isDigit ∧ c ≠ '0' ∧ ∀ d ∈ cs, d.isDigit

theorem isOneToNine_of_isDigit {c : Char} (digit : c.isDigit) (nonzero : c ≠ '0') :
    isOneToNine c := by
  have bounds := Char.isDigit_iff_toNat.1 digit
  have different : c.toNat ≠ 48 := by
    intro same
    exact nonzero (Char.toNat_inj.1 same)
  simp only [isOneToNine, Bool.and_eq_true, decide_eq_true_eq, Char.le_def, UInt32.le_iff_toNat_le]
  change 49 ≤ c.toNat ∧ c.toNat ≤ 57
  change (48 ≤ c.toNat ∧ c.toNat ≤ 57) at bounds
  omega

theorem readNumber_whole [DecimalReader] (negative : Bool) {whole tail : List Char}
    (isWhole : WholePart whole) (ends : EndsDigits tail) :
    readNumber negative (whole ++ tail) = readFraction negative whole tail := by
  rcases isWhole with rfl | ⟨c, cs, rfl, digit, nonzero, digits⟩
  · have noDigit : tail.head?.any Char.isDigit = false := by
      cases tail with
      | nil => rfl
      | cons c tail => exact ends c rfl
    simp [readNumber, noDigit]
  · have all : ∀ d ∈ c :: cs, d.isDigit := by simpa [digit] using digits
    have taken := takeWhile_digits all ends
    have dropped := dropWhile_digits all ends
    rw [List.cons_append] at taken dropped ⊢
    unfold readNumber
    split
    next none => cases none
    next zero => exact absurd (List.cons.inj zero).1 nonzero
    next begins =>
      obtain ⟨rfl, -⟩ := List.cons.inj begins
      rw [if_pos (isOneToNine_of_isDigit digit nonzero), taken, dropped]

theorem readFraction_none [DecimalReader] (negative : Bool) (whole : List Char) {rest : List Char}
    (ends : EndsNumber rest) :
    readFraction negative whole rest = integral negative (valueOfDigits whole) rest := by
  unfold readFraction
  split
  next => exact absurd rfl (ends _ rfl).2.1
  next => exact absurd rfl (ends _ rfl).2.2.1
  next => exact absurd rfl (ends _ rfl).2.2.2
  next => rfl

theorem readFraction_point [DecimalReader] (negative : Bool) (whole : List Char)
    {fraction rest : List Char}
    (some : fraction ≠ []) (digits : ∀ c ∈ fraction, c.isDigit) (ends : EndsNumber rest) :
    readFraction negative whole ('.' :: (fraction ++ rest)) =
      rounded negative ⟨valueOfDigits (whole ++ fraction), -fraction.length⟩ rest := by
  have notEmpty : fraction.isEmpty = false := by simpa using some
  simp only [readFraction, takeWhile_digits digits ends.endsDigits,
    dropWhile_digits digits ends.endsDigits, notEmpty, Bool.false_eq_true, if_false]
  split
  next => exact absurd rfl (ends _ rfl).2.2.1
  next => exact absurd rfl (ends _ rfl).2.2.2
  next => rfl

theorem readFraction_exponent [DecimalReader] (negative : Bool) (whole : List Char) {power : Int}
    {s rest : List Char} (read : readExponent (valueOfDigits whole) s = .ok (power, rest)) :
    readFraction negative whole ('e' :: s) = rounded negative ⟨valueOfDigits whole, power⟩ rest := by
  simp [readFraction, read, bind, Except.bind]

theorem readFraction_point_exponent [DecimalReader] (negative : Bool) (whole : List Char)
    {fraction : List Char}
    (some : fraction ≠ []) (digits : ∀ c ∈ fraction, c.isDigit) {power : Int} {s rest : List Char}
    (read : readExponent (valueOfDigits (whole ++ fraction)) s = .ok (power, rest)) :
    readFraction negative whole ('.' :: (fraction ++ 'e' :: s)) =
      rounded negative ⟨valueOfDigits (whole ++ fraction), power - fraction.length⟩ rest := by
  have notEmpty : fraction.isEmpty = false := by simpa using some
  have ends : EndsDigits ('e' :: s) := by
    rintro c ⟨⟩
    rfl
  simp only [readFraction, takeWhile_digits digits ends, dropWhile_digits digits ends, notEmpty,
    Bool.false_eq_true, if_false, read, bind, Except.bind]

/-- Digits of a value within the bound never take the exponent past it on the way. -/
theorem pastLargest_none {digits rest : List Char} (value : Nat) (all : ∀ c ∈ digits, c.isDigit)
    (ends : EndsDigits rest) (small : Nat.ofDigitChars 10 digits value ≤ largestExponent) :
    pastLargest value (digits ++ rest) = none := by
  induction digits generalizing value with
  | nil =>
    cases rest with
    | nil => rfl
    | cons c rest => simp [pastLargest, ends c rfl]
  | cons c digits ih =>
    have grows : 10 * value + (c.toNat - '0'.toNat) ≤
        Nat.ofDigitChars 10 digits (10 * value + (c.toNat - '0'.toNat)) := by
      rw [Nat.ofDigitChars_eq_ofDigitChars_zero]
      exact Nat.le_add_right_of_le (Nat.le_mul_of_pos_left _ (Nat.pow_pos (by decide)))
    have within : ¬ largestExponent < 10 * value + (c.toNat - '0'.toNat) :=
      Nat.not_lt.2 (Nat.le_trans grows small)
    have digit : c.isDigit = true := all c (by simp)
    simp only [List.cons_append, pastLargest, digit, Bool.not_true, Bool.false_eq_true, if_false,
      within]
    exact ih _ (fun d member => all d (by simp [member])) small

theorem readExponent_written (significand : Nat) (power : Int) {rest : List Char}
    (small : power ≤ largestExponent) (ends : EndsDigits rest) :
    readExponent significand
        ((if power < 0 then '-' else '+') :: (digitsOf power.natAbs ++ rest)) =
      .ok (power, rest) := by
  have all (c : Char) (member : c ∈ digitsOf power.natAbs) : c.isDigit :=
    isDigit_of_mem_digitsOf member
  have taken := takeWhile_digits all ends
  have dropped := dropWhile_digits all ends
  obtain ⟨c, cs, begins⟩ := List.exists_cons_of_ne_nil (digitsOf_ne_nil power.natAbs)
  have digit : c.isDigit = true := all c (by simp [begins])
  by_cases negative : power < 0
  · have value : -(power.natAbs : Int) = power := by omega
    rw [begins, List.cons_append] at taken dropped ⊢
    simp only [if_pos negative, readExponent, digit, taken, dropped, ← begins,
      valueOfDigits_digitsOf, Bool.not_true, Bool.false_eq_true, if_false, Bool.true_or, if_true, value]
  · have value : (power.natAbs : Int) = power := by omega
    have inRange : pastLargest 0 (digitsOf power.natAbs ++ rest) = none := by
      apply pastLargest_none 0 all ends
      have read : Nat.ofDigitChars 10 (digitsOf power.natAbs) 0 = power.natAbs :=
        valueOfDigits_digitsOf _
      omega
    rw [begins, List.cons_append] at taken dropped inRange ⊢
    simp only [if_neg negative, readExponent, digit, taken, dropped, inRange, ← begins,
      valueOfDigits_digitsOf, Bool.not_true, Bool.false_eq_true, if_false, value]
    split
    next => contradiction
    next => rfl

theorem rounded_of_reads [DecimalReader] {negative : Bool} {d : Decimal} {x : Finite}
    (reads : DecimalReader.read negative d = .finite x) (rest : List Char) :
    rounded negative d rest = .ok (.float x, rest) := by
  simp [rounded, reads]

/-- A spelling has the value of its decimal, with zeros added to its digits or not. -/
theorem toBinary64_spelled (negative : Bool) (d : Decimal) (zeros : Nat) :
    (d.spelled.padded zeros).toBinary64 negative = d.toBinary64 negative := by
  have extended (s : Decimal.Digits) : (s.padded zeros).toBinary64 negative =
      Decimal.toBinary64 negative ⟨valueOfDigits s.digits, s.point - s.digits.length⟩ := by
    have shift : s.point - s.digits.length =
        s.point - (s.digits ++ List.replicate zeros '0').length + zeros := by
      simp only [List.length_append, List.length_replicate, Int.natCast_add]
      omega
    rw [Decimal.Digits.padded, shift, ← Decimal.toBinary64_shift, valueOfDigits_append,
      valueOfDigits_zeros, List.length_replicate, Nat.add_zero, Nat.mul_comm]
  rw [extended]
  by_cases zero : d.digits = 0
  · obtain ⟨digits, exponent⟩ := d
    obtain rfl : digits = 0 := zero
    simp [Decimal.toBinary64_zero, valueOfDigits]
  · obtain ⟨-, cut, all, point⟩ := d.spelled_split zero
    have value := congrArg valueOfDigits all
    rw [valueOfDigits_digitsOf, valueOfDigits_append, valueOfDigits_zeros, List.length_replicate,
      Nat.add_zero, Nat.mul_comm] at value
    have shift : d.spelled.point - d.spelled.digits.length = d.exponent + cut := by
      rw [point]
      omega
    rw [shift, ← Decimal.toBinary64_shift, ← value]

theorem pow_length_le {c : Char} (digit : c.isDigit) (nonzero : c ≠ '0') (cs : List Char) :
    10 ^ cs.length ≤ valueOfDigits (c :: cs) := by
  have bounds := Char.isDigit_iff_toNat.1 digit
  have different : c.toNat ≠ '0'.toNat := fun same => nonzero (Char.toNat_inj.1 same)
  have first : 1 ≤ valueOfDigits [c] := by
    change '0'.toNat ≤ c.toNat ∧ _ at bounds
    simp only [valueOfDigits, List.foldl_cons, List.foldl_nil]
    omega
  have split := valueOfDigits_append [c] cs
  rw [List.singleton_append] at split
  rw [split]
  exact Nat.le_add_right_of_le (Nat.le_mul_of_pos_right _ first)

theorem wholePart_digitsOf (n : Nat) : WholePart (digitsOf n) := by
  by_cases zero : n = 0
  · subst zero
    exact .inl rfl
  · obtain ⟨c, cs, begins⟩ := List.exists_cons_of_ne_nil (digitsOf_ne_nil n)
    have digits (d : Char) (member : d ∈ c :: cs) : d.isDigit :=
      isDigit_of_mem_digitsOf (begins ▸ member)
    exact .inr ⟨c, cs, begins, digits c (by simp), head_digitsOf zero begins,
      fun d member => digits d (List.mem_cons_of_mem c member)⟩

/-- A reader that gives every finite number back from the digits that it is written with, whether zeros
follow them or not. What it makes of other decimals is left open. -/
class FaithfulReader extends DecimalReader where
  read_written (x : Finite) (zeros : Nat) :
    read x.negative ((x.shortest .even).spelled.padded zeros) = .finite x

instance FaithfulReader.nearest : FaithfulReader where
  toDecimalReader := .nearest
  read_written x zeros := (toBinary64_spelled x.negative _ zeros).trans (x.toBinary64_shortest .even)

/-- Digits and a point that read back as a number, with zeros added to the digits or not, and of which it
is the nearest number. They are those of zero, or they begin with no zero. -/
structure Spells [DecimalReader] (s : Decimal.Digits) (x : Finite) : Prop where
  reads (zeros : Nat) : DecimalReader.read x.negative (s.padded zeros) = .finite x
  nearest : (s.padded 0).toBinary64 x.negative = .finite x
  digits : ∀ c ∈ s.digits, c.isDigit
  leads : s = ⟨['0'], 1⟩ ∨ ∃ c cs, s.digits = c :: cs ∧ c ≠ '0'

theorem spells_shortest [FaithfulReader] (x : Finite) : Spells (x.shortest .even).spelled x where
  reads := FaithfulReader.read_written x
  nearest := (toBinary64_spelled x.negative _ 0).trans (x.toBinary64_shortest .even)
  digits _ := Decimal.isDigit_of_mem_spelled
  leads := by
    obtain ⟨digits, exponent⟩ := x.shortest .even
    by_cases zero : digits = 0
    · subst zero
      exact .inl (Decimal.spelled_zero exponent)
    · obtain ⟨nonempty, cut, all, -⟩ := Decimal.spelled_split ⟨digits, exponent⟩ zero
      obtain ⟨c, cs, begins⟩ := List.exists_cons_of_ne_nil nonempty
      rw [begins, List.cons_append] at all
      exact .inr ⟨c, cs, begins, head_digitsOf zero all⟩

theorem endsDigits_cons {c : Char} (rest : List Char) (noDigit : c.isDigit = false) :
    EndsDigits (c :: rest) := by
  rintro d ⟨⟩
  exact noDigit

theorem readNumber_point [DecimalReader] {negative : Bool} {whole fraction rest : List Char} {x : Finite}
    (isWhole : WholePart whole) (some : fraction ≠ []) (digits : ∀ c ∈ fraction, c.isDigit)
    (reads : DecimalReader.read negative ⟨valueOfDigits (whole ++ fraction), -fraction.length⟩ =
      .finite x) (ends : EndsNumber rest) :
    readNumber negative (whole ++ '.' :: (fraction ++ rest)) = .ok (.float x, rest) := by
  rw [readNumber_whole negative isWhole (endsDigits_cons _ rfl),
    readFraction_point negative whole some digits ends, rounded_of_reads reads]

namespace Spells

variable [DecimalReader] {s : Decimal.Digits} {x : Finite} {rest : List Char}

theorem nonempty (spells : Spells s x) : s.digits ≠ [] := by
  rcases spells.leads with rfl | ⟨c, cs, begins, -⟩
  · simp
  · simp [begins]

theorem reads_exactly (spells : Spells s x) {digits : List Char} {exponent : Int}
    (whole : digits = s.digits) (point : exponent = s.point - s.digits.length) :
    DecimalReader.read x.negative ⟨valueOfDigits digits, exponent⟩ = .finite x := by
  rw [whole, point, ← s.padded_zero]
  exact spells.reads 0

theorem wholePart_take (spells : Spells s x) {before : Nat} (positive : 0 < before) :
    WholePart (s.digits.take before) := by
  obtain ⟨before, rfl⟩ := Nat.exists_eq_add_of_lt positive
  rcases spells.leads with rfl | ⟨c, cs, begins, nonzero⟩
  · exact .inl (by simp)
  · have digits := spells.digits
    rw [begins] at digits
    refine .inr ⟨c, cs.take before, by simp [begins], digits c (by simp), nonzero, ?_⟩
    intro e member
    exact digits e (List.mem_cons_of_mem c (List.mem_of_mem_take member))

theorem wholePart_padded (spells : Spells s x) {zeros : Nat}
    (point : s.point = s.digits.length + zeros) :
    WholePart (s.digits ++ List.replicate zeros '0') := by
  rcases spells.leads with rfl | ⟨c, cs, begins, nonzero⟩
  · obtain rfl : zeros = 0 := by
      simp only [List.length_singleton] at point
      omega
    exact .inl rfl
  · have digits := spells.digits
    rw [begins] at digits ⊢
    refine .inr ⟨c, cs ++ List.replicate zeros '0', rfl, digits c (by simp), nonzero, ?_⟩
    intro e member
    rcases List.mem_append.1 member with inDigits | inZeros
    · exact digits e (List.mem_cons_of_mem c inDigits)
    · obtain rfl := List.eq_of_mem_replicate inZeros
      rfl

theorem readNumber_belowOne (spells : Spells s x) (below : s.point ≤ 0) (ends : EndsNumber rest) :
    readNumber x.negative (s.plain ['.', '0'] ++ rest) = .ok (.float x, rest) := by
  let fraction := List.replicate s.point.natAbs '0' ++ s.digits
  have text : s.plain ['.', '0'] ++ rest = ['0'] ++ '.' :: (fraction ++ rest) := by
    simp [Decimal.Digits.plain, below, fraction]
  have some : fraction ≠ [] := by simp [fraction, spells.nonempty]
  have digits (c : Char) (member : c ∈ fraction) : c.isDigit := by
    rcases List.mem_append.1 member with inZeros | inDigits
    · obtain rfl := List.eq_of_mem_replicate inZeros
      rfl
    · exact spells.digits c inDigits
  have value : valueOfDigits (['0'] ++ fraction) = valueOfDigits s.digits := by
    rw [valueOfDigits_append, valueOfDigits_append, valueOfDigits_zeros]
    simp [valueOfDigits]
  have exponent : -(fraction.length : Int) = s.point - s.digits.length := by
    simp only [fraction, List.length_append, List.length_replicate, Int.natCast_add]
    omega
  rw [text]
  apply readNumber_point (.inl rfl) some digits _ ends
  rw [value, exponent]
  exact spells.reads_exactly rfl rfl

theorem readNumber_wholeFloat (spells : Spells s x) (above : 0 < s.point)
    (whole : s.digits.length ≤ s.point.toNat) (ends : EndsNumber rest) :
    readNumber x.negative (s.plain ['.', '0'] ++ rest) = .ok (.float x, rest) := by
  obtain ⟨zeros, point⟩ := Nat.exists_eq_add_of_le whole
  have text : s.plain ['.', '0'] ++ rest =
      (s.digits ++ List.replicate zeros '0') ++ '.' :: (['0'] ++ rest) := by
    simp [Decimal.Digits.plain, Int.not_le.2 above, point]
  have digits : s.digits ++ List.replicate zeros '0' ++ ['0'] =
      s.digits ++ List.replicate (zeros + 1) '0' := by
    rw [List.replicate_succ', List.append_assoc]
  have exponent : -((['0'] : List Char).length : Int) =
      s.point - (s.digits ++ List.replicate (zeros + 1) '0').length := by
    simp only [List.length_append, List.length_replicate, Int.natCast_add, List.length_singleton]
    omega
  rw [text]
  apply readNumber_point (spells.wholePart_padded (by omega)) (by simp) (by simp) _ ends
  rw [digits, exponent]
  exact spells.reads (zeros + 1)

theorem readNumber_split (spells : Spells s x) (above : 0 < s.point)
    (more : s.point.toNat < s.digits.length) (ends : EndsNumber rest) :
    readNumber x.negative (s.plain ['.', '0'] ++ rest) = .ok (.float x, rest) := by
  have text : s.plain ['.', '0'] ++ rest =
      s.digits.take s.point.toNat ++ '.' :: (s.digits.drop s.point.toNat ++ rest) := by
    simp [Decimal.Digits.plain, Int.not_le.2 above, Nat.not_le.2 more]
  have digits (c : Char) (member : c ∈ s.digits.drop s.point.toNat) : c.isDigit :=
    spells.digits c (List.mem_of_mem_drop member)
  have some : s.digits.drop s.point.toNat ≠ [] := by
    rw [Ne, List.drop_eq_nil_iff]
    omega
  rw [text]
  apply readNumber_point (spells.wholePart_take (by omega)) some digits _ ends
  apply spells.reads_exactly (List.take_append_drop _ _)
  rw [List.length_drop]
  omega

theorem readNumber_plain (spells : Spells s x) (ends : EndsNumber rest) :
    readNumber x.negative (s.plain ['.', '0'] ++ rest) = .ok (.float x, rest) := by
  by_cases below : s.point ≤ 0
  · exact spells.readNumber_belowOne below ends
  · have above := Int.not_le.1 below
    by_cases whole : s.digits.length ≤ s.point.toNat
    · exact spells.readNumber_wholeFloat above whole ends
    · exact spells.readNumber_split above (Nat.not_le.1 whole) ends

/-- A number whose point stands further right would be beyond the finite range. -/
theorem point_le (spells : Spells s x) : s.point ≤ 342 := by
  rcases spells.leads with rfl | ⟨c, cs, begins, nonzero⟩
  · decide
  by_contra large
  let d : Decimal := ⟨valueOfDigits s.digits, s.point - s.digits.length⟩
  have reads : d.toBinary64 x.negative = .finite x := by
    have nearest := spells.nearest
    rwa [s.padded_zero] at nearest
  have digit : c.isDigit := spells.digits c (by simp [begins])
  have lower : 10 ^ cs.length ≤ d.digits := by
    change 10 ^ cs.length ≤ valueOfDigits s.digits
    rw [begins]
    exact pow_length_le digit nonzero cs
  have length : s.digits.length = cs.length + 1 := by rw [begins, List.length_cons]
  have positive : d.digits ≠ 0 := Nat.ne_of_gt (Nat.lt_of_lt_of_le (Nat.pow_pos (by decide)) lower)
  have sum : (s.point - 1).toNat + (-d.exponent).toNat = cs.length + d.exponent.toNat := by
    change _ + (-(s.point - s.digits.length)).toNat = _ + (s.point - s.digits.length).toNat
    omega
  have beyond : 10 ^ (s.point - 1).toNat * d.denominator ≤ d.numerator := by
    rw [Decimal.denominator, Decimal.numerator, ← Nat.pow_add, sum, Nat.pow_add]
    exact Nat.mul_le_mul_right _ lower
  rw [Decimal.toBinary64_eq _ d positive,
    Decimal.ofUnits_of_large x.negative _ (by omega) beyond] at reads
  contradiction

theorem readNumber_scientific (spells : Spells s x) (ends : EndsNumber rest) :
    readNumber x.negative (s.scientific ++ rest) = .ok (.float x, rest) := by
  let power := s.point - 1
  let exponent := (if power < 0 then '-' else '+') :: (digitsOf power.natAbs ++ rest)
  have small : power ≤ largestExponent := by
    have point := spells.point_le
    have most : largestExponent = 2147483647 := rfl
    omega
  have read (significand : Nat) : readExponent significand exponent = .ok (power, rest) :=
    readExponent_written significand power small ends.endsDigits
  have whole : WholePart (s.digits.take 1) := spells.wholePart_take (by decide)
  have length := List.length_pos_iff.2 spells.nonempty
  by_cases one : s.digits.length ≤ 1
  · have text : s.scientific ++ rest = s.digits.take 1 ++ 'e' :: exponent := by
      simp [Decimal.Digits.scientific, one, exponent, power]
    have all : s.digits.take 1 = s.digits := List.take_of_length_le one
    have reads : DecimalReader.read x.negative ⟨valueOfDigits (s.digits.take 1), power⟩ = .finite x := by
      apply spells.reads_exactly all
      omega
    rw [text, readNumber_whole _ whole (endsDigits_cons _ rfl), readFraction_exponent _ _ (read _)]
    exact rounded_of_reads reads rest
  · have text : s.scientific ++ rest =
        s.digits.take 1 ++ '.' :: (s.digits.drop 1 ++ 'e' :: exponent) := by
      simp [Decimal.Digits.scientific, one, exponent, power]
    have digits (c : Char) (member : c ∈ s.digits.drop 1) : c.isDigit :=
      spells.digits c (List.mem_of_mem_drop member)
    have some : s.digits.drop 1 ≠ [] := by
      rw [Ne, List.drop_eq_nil_iff]
      exact one
    have reads : DecimalReader.read x.negative
        ⟨valueOfDigits (s.digits.take 1 ++ s.digits.drop 1), power - (s.digits.drop 1).length⟩ =
          .finite x := by
      apply spells.reads_exactly (List.take_append_drop _ _)
      rw [List.length_drop]
      omega
    rw [text, readNumber_whole _ whole (endsDigits_cons _ rfl),
      readFraction_point_exponent _ _ some digits (read _)]
    exact rounded_of_reads reads rest

end Spells

theorem readNumber_written [FaithfulReader] (n : Number) {rest : List Char} (ends : EndsNumber rest) :
    ∃ negative body, n.written = signText negative ++ body ∧
      readNumber negative (body ++ rest) = .ok (n, rest) := by
  cases n with
  | integer value bounds =>
    refine ⟨decide (value < 0), digitsOf value.natAbs, ?_, ?_⟩
    · simp [Number.written, Number.integerText, signText]
    · have whole : WholePart (digitsOf value.natAbs) := wholePart_digitsOf _
      rw [readNumber_whole _ whole ends.endsDigits, readFraction_none _ _ ends,
        valueOfDigits_digitsOf]
      have signed : (if decide (value < 0) = true then -(value.natAbs : Int) else value.natAbs) = value := by
        simp only [decide_eq_true_eq]
        split <;> omega
      have noMinusZero : ¬ (decide (value < 0) = true ∧ value.natAbs = 0) := by
        simp only [decide_eq_true_eq]
        omega
      simp only [integral, signed]
      rw [dif_pos ⟨bounds, noMinusZero⟩]
  | float x =>
    let s := (x.shortest .even).spelled
    have spells : Spells s x := spells_shortest x
    refine ⟨x.negative, if -4 ≤ s.point ∧ s.point ≤ 16 then s.plain ['.', '0'] else s.scientific,
      rfl, ?_⟩
    split
    next => exact spells.readNumber_plain ends
    next => exact spells.readNumber_scientific ends

theorem isDigit_of_isOneToNine {c : Char} (first : isOneToNine c) : c.isDigit := by
  simp only [isOneToNine, Bool.and_eq_true, decide_eq_true_eq, Char.le_def,
    UInt32.le_iff_toNat_le] at first
  change 49 ≤ c.toNat ∧ c.toNat ≤ 57 at first
  apply Char.isDigit_iff_toNat.2
  change 48 ≤ c.toNat ∧ c.toNat ≤ 57
  omega

theorem isDigit_of_readNumber [DecimalReader] {negative : Bool} {s : List Char}
    {result : Number × List Char} (read : readNumber negative s = .ok result) :
    ∃ c t, s = c :: t ∧ c.isDigit := by
  unfold readNumber at read
  split at read
  next => contradiction
  next t => exact ⟨'0', t, rfl, rfl⟩
  next c t _ =>
    split at read
    next first => exact ⟨c, t, rfl, isDigit_of_isOneToNine first⟩
    next => contradiction

@[simp] theorem skipBlank_cons {c : Char} (s : List Char) (visible : isBlank c = false) :
    skipBlank (c :: s) = c :: s := by simp [skipBlank, visible]

theorem ne_of_isDigit {c d : Char} (digit : c.isDigit) (noDigit : d.isDigit = false) : c ≠ d := by
  rintro rfl
  rw [digit] at noDigit
  contradiction

theorem isBlank_of_isDigit {c : Char} (digit : c.isDigit) : isBlank c = false := by
  simp [isBlank, ne_of_isDigit digit]

theorem readValueWith_digit [DecimalReader] (opened : Char → Scan Json) {c : Char} (s : List Char)
    (digit : c.isDigit) :
    readValueWith opened (c :: s) =
      (readNumber false (c :: s)).map fun (n, rest) => (Json.number n, rest) := by
  have apart (d : Char) (noDigit : d.isDigit = false) : c ≠ d := ne_of_isDigit digit noDigit
  rw [readValueWith, skipBlank_cons s (isBlank_of_isDigit digit)]
  split
  next none => cases none
  next same => exact absurd (List.cons.inj same).1 (apart 'n' rfl)
  next same => exact absurd (List.cons.inj same).1 (apart 't' rfl)
  next same => exact absurd (List.cons.inj same).1 (apart 'f' rfl)
  next same => exact absurd (List.cons.inj same).1 (apart '-' rfl)
  next same => exact absurd (List.cons.inj same).1 (apart '"' rfl)
  next same => exact absurd (List.cons.inj same).1 (apart '[' rfl)
  next same => exact absurd (List.cons.inj same).1 (apart '{' rfl)
  next same =>
    obtain ⟨rfl, rfl⟩ := List.cons.inj same
    rw [if_pos digit]
    cases readNumber false (c :: s) <;> rfl

theorem readValueWith_number [FaithfulReader] (opened : Char → Scan Json) (n : Number)
    {rest : List Char} (ends : EndsNumber rest) :
    readValueWith opened (n.written ++ rest) = .ok (.number n, rest) := by
  obtain ⟨negative, body, text, read⟩ := readNumber_written n ends
  rw [text, List.append_assoc]
  cases negative with
  | true =>
    change (readNumber true (body ++ rest) >>= fun read => Except.ok (Json.number read.1, read.2)) = _
    rw [read]
    rfl
  | false =>
    obtain ⟨c, t, begins, digit⟩ := isDigit_of_readNumber read
    rw [begins] at read
    change readValueWith opened (body ++ rest) = _
    rw [begins, readValueWith_digit opened t digit, read]
    rfl

end PagedReport.Json
