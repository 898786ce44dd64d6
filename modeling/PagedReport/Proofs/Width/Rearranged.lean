import PagedReport.Proofs.Width.Counted

/-! Estimates of rearranged tables. An estimate sees of a header how long it is and of a sampled cell
whether it is absent or else how long it is, and in a column it does not see the order: a sum of cell
widths is exact at every step, so each mean is one rounding of the same quotient. Columns may be
rearranged each in its own way; labels, characters and the rows after the sample do not count at all. -/
namespace PagedReport.Width

open Binary64

/-- What counts of a cell: nothing if it is absent, and else how many characters it shows. -/
def measured (cell : Cell) : Option Nat := if cell.isAbsent then none else some cell.shown.length

def measuredWidth : Option Nat → Nat
  | none => 30
  | some length => if 50 < length then 400 else 8 * length + 16

theorem cellWidth_eq (cell : Cell) : cellWidth cell = measuredWidth (measured cell) := by
  cases absent : cell.isAbsent <;> simp [cellWidth, measured, measuredWidth, absent]

section Column

variable {a b : List Cell} (perm : (a.map measured).Perm (b.map measured))

include perm

theorem length_of_perm : a.length = b.length := by
  simpa using perm.length_eq

theorem sum_cellWidth_of_perm : (a.map cellWidth).sum = (b.map cellWidth).sum := by
  have widths (cells : List Cell) : cells.map cellWidth = (cells.map measured).map measuredWidth := by
    simp [cellWidth_eq]
  rw [widths, widths]
  exact (perm.map measuredWidth).sum_eq

/-- The order of the cells is not seen in their mean, although it is added up in floating point. -/
theorem mean_of_perm (few : a.length ≤ sampledRows) : mean a = mean b := by
  have length := length_of_perm perm
  rcases Nat.eq_zero_or_pos a.length with empty | nonempty
  · rw [List.eq_nil_of_length_eq_zero empty, List.eq_nil_of_length_eq_zero (length.symm.trans empty)]
  · have first := counts_mean nonempty few
    have second := counts_mean (length ▸ nonempty) (length ▸ few)
    rw [sum_cellWidth_of_perm perm, length] at first
    exact first.unique second

theorem ofColumn_of_perm {header other : String} (headers : header.length = other.length)
    (few : a.length ≤ sampledRows) : ofColumn header a = ofColumn other b := by
  simp [ofColumn, ofHeader, headers, mean_of_perm perm few]

end Column

/-- Tables with headers of the same lengths, column by column with the same sampled cells in any order,
have columns of the same widths and one estimate. -/
theorem estimate_of_perm {a b : Table}
    (headers : a.columns.map String.length = b.columns.map String.length)
    (cells : ∀ position < a.columns.length,
      (((a.column position).take 10).map measured).Perm (((b.column position).take 10).map measured)) :
    columns a = columns b ∧ estimate a = estimate b := by
  have count : a.columns.length = b.columns.length := by simpa using congrArg List.length headers
  have widths : columns a = columns b := by
    apply columns_congr count
    intro position inA inB
    have header : (a.columns[position]).length = (b.columns[position]).length := by
      have same := congrArg (·[position]?) headers
      simpa [inA, inB] using same
    exact ofColumn_of_perm (cells position inA) header (length_sample_le a position)
  have rows : a.columns.length = 0 ∨ (a.rows.length = 0 ↔ b.rows.length = 0) := by
    rcases Nat.eq_zero_or_pos a.columns.length with none | some
    · exact .inl none
    · have sizes := length_of_perm (cells 0 some)
      rw [List.length_take, List.length_take, a.length_column some,
        b.length_column (count ▸ some)] at sizes
      omega
  have nothing : a.isEmpty = b.isEmpty := by
    rw [Bool.eq_iff_iff]
    simp only [Table.isEmpty, Bool.or_eq_true, List.isEmpty_iff_length_eq_zero]
    omega
  exact ⟨widths, estimate_of_columns nothing widths⟩

/-- Ten rows, of which the first column holds texts of zero to nine characters. -/
def ascending : Table := (Table.empty ["ab", "c"]).grow
  ((List.range 10).map fun n => ⟨none, [letters n, .null]⟩)

/-- The texts from the longest one down, under other names and labels, and one row more. -/
def descending : Table := (Table.empty ["de", "f"]).grow
  ((List.range 10).map (fun n => ⟨some "r", [letters (9 - n), .float .nan]⟩) ++
    [⟨none, [letters 60, letters 60]⟩])

theorem estimate_descending :
    ascending.columns.map String.length = descending.columns.map String.length ∧
    (∀ position < ascending.columns.length, (((ascending.column position).take 10).map measured).Perm
      (((descending.column position).take 10).map measured)) ∧
    estimate ascending = estimate descending := by
  have headers : ascending.columns.map String.length = descending.columns.map String.length := by
    decide
  have cells : ∀ position < ascending.columns.length,
      (((ascending.column position).take 10).map measured).Perm
        (((descending.column position).take 10).map measured) := by
    decide +kernel
  exact ⟨headers, cells, (estimate_of_perm headers cells).2⟩

end PagedReport.Width
