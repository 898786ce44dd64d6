import Mathlib.Algebra.Order.BigOperators.Group.List
import Mathlib.Data.List.Forall2
import PagedReport.Proofs.Width.Counted

/-! Estimates that grow with what a table holds. An estimate keeps the order of its headers' lengths and
its cells' widths, through every rounding (`estimate_mono`). A cell's width keeps the order of lengths
but at one place: a long cell counts 400, and the two lengths before that bound count more. -/
namespace PagedReport.Width

open Binary64

theorem columnParts_mono {narrow wide : String} {a b : List Cell} (header : narrow.length ≤ wide.length)
    (cells : List.Forall₂ (fun x y => cellWidth x ≤ cellWidth y) a b) :
    columnParts narrow a ≤ columnParts wide b := by
  have length := cells.length_eq
  have sums : (a.map cellWidth).sum ≤ (b.map cellWidth).sum := by
    apply List.Forall₂.sum_le_sum
    rwa [List.forall₂_map_left_iff, List.forall₂_map_right_iff]
  have headers : headerWidth narrow * b.length ≤ headerWidth wide * b.length := by
    apply Nat.mul_le_mul_right
    rw [headerWidth, headerWidth]
    omega
  rw [columnParts, columnParts, length]
  omega

theorem isEmpty_congr {α : Type} {xs ys : List α} (same : xs.length = ys.length) :
    xs.isEmpty = ys.isEmpty := by
  rw [Bool.eq_iff_iff, List.isEmpty_iff_length_eq_zero, List.isEmpty_iff_length_eq_zero, same]

/-- An estimate grows with the lengths of the headers and the widths of the sampled cells. -/
theorem estimate_mono {a b : Table}
    (headers : List.Forall₂ (fun narrow wide => narrow.length ≤ wide.length) a.columns b.columns)
    (rows : a.rows.length = b.rows.length)
    (samples : ∀ position < a.columns.length,
      List.Forall₂ (fun x y => cellWidth x ≤ cellWidth y) (sample a position) (sample b position)) :
    estimate a ≤ estimate b := by
  have columns := headers.length_eq
  have nothing : a.isEmpty = b.isEmpty := by
    rw [Table.isEmpty, Table.isEmpty, isEmpty_congr rows, isEmpty_congr columns]
  cases empty : a.isEmpty with
  | true =>
    rw [estimate, estimate, ← nothing, if_pos empty, if_pos empty]
    exact UInt32.le_refl _
  | false =>
    have ordered : List.Forall₂ (· ≤ ·) (terms a) (terms b) := by
      apply List.rel_append
      · rw [List.forall₂_iff_get]
        refine ⟨by simp [length_columnTerms, columns], ?_⟩
        intro position inA inB
        rw [length_columnTerms] at inA inB
        have cells := samples position inA
        have header := headers.get inA inB
        have some := length_sample_pos_of_lt (nothing ▸ empty) inB
        simp only [columnTerms, List.get_eq_getElem, List.getElem_map, List.getElem_zipIdx,
          Nat.zero_add] at header ⊢
        rw [columnUnits, columnUnits, cells.length_eq]
        exact rounded_mono some (columnParts_mono header cells)
      · exact .cons (Nat.le_refl _) .nil
    have sums := Nat.div_le_div_right (c := unitsPerOne) (runningUnits_mono ordered)
    rw [UInt32.le_iff_toNat_le, toNat_estimate empty, toNat_estimate (nothing ▸ empty)]
    omega

/-- Longer headers never make a table narrower, however many of them grow at once. -/
theorem estimate_mono_of_headers {a b : Table}
    (headers : List.Forall₂ (fun narrow wide => narrow.length ≤ wide.length) a.columns b.columns)
    (rows : a.rows = b.rows) : estimate a ≤ estimate b := by
  apply estimate_mono headers (congrArg List.length rows)
  intro position _
  have same : sample a position = sample b position := by
    rw [sample, sample, Table.column, Table.column, rows]
  rw [same, List.forall₂_same]
  exact fun _ _ => Nat.le_refl _

/-- Three columns of three rows, whose means have thirds. -/
def inThirds (headers : List String) : Table := (Table.empty headers).grow
  [⟨none, [.null, letters 20, letters 8]⟩, ⟨none, [letters 3, letters 20, letters 9]⟩,
    ⟨none, [letters 9, letters 21, letters 9]⟩]

/-- The first header passes the cap, the second stays below its mean, and the third passes its mean.
The narrow table has lost a unit of its exact width of 424 to rounding. -/
theorem estimate_mono_of_headers_inThirds :
    let narrow := inThirds ["a", "b", "c"]
    let wide := inThirds ["a header of thirty characters.", "bb", "the third"]
    List.Forall₂ (fun short long => short.length ≤ long.length) narrow.columns wide.columns ∧
    narrow.rows = wide.rows ∧ estimate narrow = 423 ∧ estimate wide = 600 ∧
    estimate narrow ≤ estimate wide := by
  intro narrow wide
  have headers : List.Forall₂ (fun short long => short.length ≤ long.length)
      narrow.columns wide.columns :=
    .cons (by decide) (.cons (by decide) (.cons (by decide) .nil))
  have rows : narrow.rows = wide.rows := rfl
  exact ⟨headers, rows, by decide +kernel, by decide +kernel, estimate_mono_of_headers headers rows⟩

/-- The second cell is absent where the first is, and elsewhere its text is no shorter. -/
def NoShorter (x y : Cell) : Prop :=
  x.isAbsent = y.isAbsent ∧ (x.isAbsent = false → x.shown.length ≤ y.shown.length)

/-- The second cell counts as long, and the first was wider than that. -/
def Clipped (x y : Cell) : Prop :=
  x.isAbsent = false ∧ (48 < x.shown.length ∧ x.shown.length ≤ 50) ∧ 50 < y.shown.length

theorem cellWidth_le_iff {x y : Cell} (grows : NoShorter x y) :
    cellWidth x ≤ cellWidth y ↔ ¬ Clipped x y := by
  obtain ⟨same, longer⟩ := grows
  rw [cellWidth, cellWidth, ← same, Clipped]
  cases absent : x.isAbsent with
  | true => simp
  | false =>
    have le := longer absent
    simp only [Bool.false_eq_true, if_false, true_and]
    split <;> split <;> omega

/-- An estimate grows with the texts of its cells as long as no cell is clipped. -/
theorem estimate_mono_of_not_clipped {a b : Table} (columns : a.columns = b.columns)
    (rows : a.rows.length = b.rows.length)
    (cells : ∀ position < a.columns.length,
      List.Forall₂ (fun x y => NoShorter x y ∧ ¬ Clipped x y) (sample a position) (sample b position)) :
    estimate a ≤ estimate b := by
  apply estimate_mono
  · rw [columns, List.forall₂_same]
    exact fun _ _ => Nat.le_refl _
  · exact rows
  · intro position inside
    exact (cells position inside).imp fun x y grows => (cellWidth_le_iff grows.1).2 grows.2

/-- A cell of so many characters above an absent one. -/
def aboveNothing (n : Nat) : Table := (Table.empty ["h"]).grow [⟨none, [letters n]⟩, ⟨none, [.null]⟩]

theorem columns_aboveNothing (n : Nat) : (aboveNothing n).columns = ["h"] := rfl

theorem rows_aboveNothing (n : Nat) :
    (aboveNothing n).rows = [⟨toString 0, [letters n]⟩, ⟨toString 1, [.null]⟩] := rfl

theorem sample_aboveNothing (n : Nat) : sample (aboveNothing n) 0 = [letters n, .null] := rfl

theorem noShorter_letters {m n : Nat} (le : m ≤ n) : NoShorter (letters m) (letters n) := by
  refine ⟨rfl, fun _ => ?_⟩
  rwa [length_letters, length_letters]

theorem noShorter_null : NoShorter .null .null := by
  refine ⟨rfl, ?_⟩
  intro present
  cases present

theorem estimate_mono_upTo_fifty : estimate (aboveNothing 20) ≤ estimate (aboveNothing 50) := by
  apply estimate_mono_of_not_clipped
  · rw [columns_aboveNothing, columns_aboveNothing]
  · rw [rows_aboveNothing, rows_aboveNothing]
    rfl
  · intro position inside
    obtain rfl : position = 0 := Nat.lt_one_iff.1 inside
    rw [sample_aboveNothing, sample_aboveNothing]
    refine .cons ⟨noShorter_letters (by decide), ?_⟩ (.cons ⟨noShorter_null, ?_⟩ .nil)
    · intro clipped
      have long := clipped.2.2
      rw [length_letters] at long
      omega
    · intro clipped
      cases clipped.1

/-- One more character makes the table narrower, by eight pixels. -/
theorem estimate_not_mono : ¬ ∀ a b : Table, a.isEmpty = false → b.isEmpty = false →
    a.columns = b.columns →
    List.Forall₂ (fun x y => List.Forall₂ NoShorter x.cells y.cells) a.rows b.rows →
    estimate a ≤ estimate b := by
  intro monotone
  have fifty : estimate (aboveNothing 50) = 303 := by decide +kernel
  have more : estimate (aboveNothing 51) = 295 := by decide +kernel
  have claimed : estimate (aboveNothing 50) ≤ estimate (aboveNothing 51) := by
    apply monotone
    · rfl
    · rfl
    · rw [columns_aboveNothing, columns_aboveNothing]
    · rw [rows_aboveNothing, rows_aboveNothing]
      exact .cons (.cons (noShorter_letters (by decide)) .nil) (.cons (.cons noShorter_null .nil) .nil)
  rw [fifty, more] at claimed
  exact absurd claimed (by decide)

end PagedReport.Width
