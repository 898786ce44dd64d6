import PagedReport.Width
import PagedReport.Proofs.Table.History

/-! What an estimate depends on. Of each column only the first ten cells count, and of a cell only its
width, so two tables with the same columns and the same sampled widths have one estimate. Rows pushed
beyond the sample leave every sample as it was. -/
namespace PagedReport

namespace Table

theorem length_column (t : Table) {position : Nat} (inside : position < t.columns.length) :
    (t.column position).length = t.rows.length := by
  have lengths := congrArg List.length (t.column_inside inside)
  rwa [List.length_map, List.length_map] at lengths

theorem column_grow (t : Table) (pushes : List Push) (position : Nat) :
    ∃ pushed, (t.grow pushes).column position = t.column position ++ pushed := by
  rw [column, rows_grow, List.filterMap_append]
  exact ⟨_, rfl⟩

end Table

namespace Width

/-- The cells of a column that count. -/
def sample (t : Table) (position : Nat) : List Cell := (t.column position).take sampledRows

/-- The mean of cells, from their widths. -/
def meanWidth (widths : List Binary64) : Binary64 :=
  if widths.isEmpty then ofNoCells else Binary64.sum widths / .ofNat widths.length

theorem mean_eq (cells : List Cell) : mean cells = meanWidth (cells.map ofCell) := by
  simp [mean, meanWidth]

theorem ofColumn_congr (header : String) {a b : List Cell} (same : a.map ofCell = b.map ofCell) :
    ofColumn header a = ofColumn header b := by
  rw [ofColumn, ofColumn, mean_eq, mean_eq, same]

section Columns

variable {a b : Table}

theorem columns_congr (count : a.columns.length = b.columns.length)
    (widths : ∀ position (inA : position < a.columns.length) (inB : position < b.columns.length),
      ofColumn a.columns[position] (sample a position) =
        ofColumn b.columns[position] (sample b position)) :
    columns a = columns b := by
  apply List.ext_getElem
  · simp [columns, count]
  · intro position inA inB
    simp only [columns, List.length_map, List.length_zipIdx] at inA inB
    simpa [columns, sample] using widths position inA inB

theorem estimate_of_columns (nothing : a.isEmpty = b.isEmpty) (widths : columns a = columns b) :
    estimate a = estimate b := by
  rw [estimate, estimate, total, total, widths, nothing]

theorem estimate_congr (names : a.columns = b.columns) (empty : a.rows = [] ↔ b.rows = [])
    (samples : ∀ position < a.columns.length,
      (sample a position).map ofCell = (sample b position).map ofCell) :
    estimate a = estimate b := by
  apply estimate_of_columns
  · have rows : a.rows.isEmpty = b.rows.isEmpty := Bool.eq_iff_iff.2 (by simpa using empty)
    rw [Table.isEmpty, Table.isEmpty, rows, names]
  · apply columns_congr (congrArg List.length names)
    intro position inA inB
    rw [List.getElem_of_eq names inA]
    exact ofColumn_congr _ (samples position inA)

end Columns

theorem sample_grow {t : Table} (full : sampledRows ≤ t.rows.length) (pushes : List Push)
    {position : Nat} (inside : position < t.columns.length) :
    sample (t.grow pushes) position = sample t position := by
  obtain ⟨pushed, column⟩ := t.column_grow pushes position
  have enough : sampledRows ≤ (t.column position).length := by rwa [t.length_column inside]
  rw [sample, column, List.take_append_of_le_length enough, sample]

/-- Rows beyond the sample do not count. -/
theorem estimate_grow {t : Table} (full : sampledRows ≤ t.rows.length) (pushes : List Push) :
    estimate (t.grow pushes) = estimate t := by
  apply estimate_congr
  · exact t.columns_grow pushes
  · have nonempty : t.rows ≠ [] := List.ne_nil_of_length_pos (Nat.lt_of_lt_of_le (by decide) full)
    simp [Table.rows_grow, nonempty]
  · intro position inside
    rw [Table.columns_grow] at inside
    rw [sample_grow full pushes inside]

end Width

end PagedReport
