import Mathlib.Algebra.Group.Nat.Defs
import Mathlib.Data.List.TakeWhile
import PagedReport.Binary64.Text

/-! What decimal spellings are made of. Digits of a number have its value and begin with no zero
unless it is the number; a spelling drops only zeros at their end, and `spelled_split` says how many
and where the point is then. -/
namespace PagedReport

@[simp] theorem valueOfDigits_digitsOf (n : Nat) : valueOfDigits (digitsOf n) = n :=
  Nat.ofDigitChars_ten_toDigits

theorem valueOfDigits_append (a b : List Char) :
    valueOfDigits (a ++ b) = 10 ^ b.length * valueOfDigits a + valueOfDigits b := by
  have split : valueOfDigits (a ++ b) = Nat.ofDigitChars 10 b (valueOfDigits a) :=
    Nat.ofDigitChars_append 0
  rw [split, Nat.ofDigitChars_eq_ofDigitChars_zero]
  rfl

theorem valueOfDigits_zeros (n : Nat) : valueOfDigits (List.replicate n '0') = 0 :=
  Nat.ofDigitChars_replicate_zero

theorem digitsOf_ne_nil (n : Nat) : digitsOf n ≠ [] := Nat.toDigits_ne_nil

theorem isDigit_of_mem_digitsOf {n : Nat} (member : c ∈ digitsOf n) : c.isDigit :=
  Nat.isDigit_of_mem_toDigits (by decide) (by decide) member

theorem head_digitsOf {n : Nat} (positive : n ≠ 0) (begins : digitsOf n = c :: rest) : c ≠ '0' := by
  induction n using Nat.strongRecOn generalizing c rest with
  | ind n ih =>
    rw [digitsOf, Nat.toDigits_eq_if (by decide)] at begins
    split at begins
    next small =>
      have first := (List.cons.inj begins).1
      rw [← first]
      simpa using positive
    next large =>
      cases front : Nat.toDigits 10 (n / 10) with
      | nil => exact absurd front Nat.toDigits_ne_nil
      | cons d ds =>
        rw [front, List.cons_append] at begins
        rw [← (List.cons.inj begins).1]
        exact ih (n / 10) (by omega) (by omega) front

namespace Decimal

@[simp] theorem spelled_zero (exponent : Int) : spelled ⟨0, exponent⟩ = ⟨['0'], 1⟩ := by
  simp [spelled, digitsOf]

/-- The digits of a spelling are those of the decimal up to zeros at their end. -/
theorem spelled_split (d : Decimal) (positive : d.digits ≠ 0) :
    d.spelled.digits ≠ [] ∧ ∃ zeros, digitsOf d.digits = d.spelled.digits ++ List.replicate zeros '0' ∧
      d.spelled.point = d.spelled.digits.length + zeros + d.exponent := by
  let kept := ((digitsOf d.digits).reverse.dropWhile (· = '0')).reverse
  let cut := (digitsOf d.digits).reverse.takeWhile (· = '0')
  have zeros : cut = List.replicate cut.length '0' := by
    apply List.eq_replicate_of_mem
    intro c member
    simpa using List.mem_takeWhile_imp member
  have all : digitsOf d.digits = kept ++ List.replicate cut.length '0' := by
    have whole := congrArg List.reverse
      (@List.takeWhile_append_dropWhile _ (fun c => decide (c = '0')) (digitsOf d.digits).reverse)
    rw [List.reverse_append, List.reverse_reverse] at whole
    rw [← whole]
    change kept ++ cut.reverse = _
    rw [zeros, List.reverse_replicate, List.length_replicate]
  have nonempty : kept ≠ [] := by
    intro empty
    have value := congrArg valueOfDigits all
    rw [empty, List.nil_append, valueOfDigits_digitsOf, valueOfDigits_zeros] at value
    exact positive value
  have spelling : d.spelled = ⟨kept, (digitsOf d.digits).length + d.exponent⟩ := by
    rw [spelled]
    exact if_neg (by simpa [kept] using nonempty)
  rw [spelling]
  refine ⟨nonempty, cut.length, all, ?_⟩
  rw [all]
  simp

theorem isDigit_of_mem_spelled {d : Decimal} (member : c ∈ d.spelled.digits) : c.isDigit := by
  by_cases zero : d.digits = 0
  · obtain ⟨digits, exponent⟩ := d
    obtain rfl : digits = 0 := zero
    obtain rfl : c = '0' := by simpa using member
    rfl
  · obtain ⟨-, zeros, all, -⟩ := d.spelled_split zero
    have inAll : c ∈ digitsOf d.digits := by rw [all]; exact List.mem_append_left _ member
    exact isDigit_of_mem_digitsOf inAll

/-- The decimal that is spelled by digits with more zeros at their end. -/
def Digits.padded (s : Digits) (zeros : Nat) : Decimal :=
  ⟨valueOfDigits (s.digits ++ List.replicate zeros '0'),
    s.point - (s.digits ++ List.replicate zeros '0').length⟩

theorem Digits.padded_zero (s : Digits) :
    s.padded 0 = ⟨valueOfDigits s.digits, s.point - s.digits.length⟩ := by
  simp [padded]

theorem Digits.mem_plain {s : Digits} {whole : List Char} (member : c ∈ s.plain whole) :
    c ∈ s.digits ∨ c ∈ whole ∨ c = '0' ∨ c = '.' := by
  unfold plain at member
  split at member
  · simp only [List.cons_append, List.mem_cons, List.mem_append, List.mem_replicate] at member
    grind
  · simp only at member
    split at member
    · simp only [List.mem_append, List.mem_replicate] at member
      grind
    · simp only [List.mem_append, List.mem_cons] at member
      grind [List.mem_of_mem_take, List.mem_of_mem_drop]

end Decimal

end PagedReport
