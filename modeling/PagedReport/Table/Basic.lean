import PagedReport.Cell

/-! Rectangular tables: an ordered list of column names and labelled rows, each with one cell per
column. That every row fits is part of the type; rows enter through `push`, which cuts and pads
them. -/
namespace PagedReport

structure Row where
  label : String
  cells : List Cell

structure Table where
  columns : List String
  rows : List Row
  rectangular : ∀ row ∈ rows, row.cells.length = columns.length

/-- Cells cut to a number of columns, or padded with absent ones. -/
def fitted (width : Nat) (cells : List Cell) : List Cell :=
  cells.take width ++ List.replicate (width - cells.length) .null

@[simp] theorem length_fitted (width : Nat) (cells : List Cell) :
    (fitted width cells).length = width := by simp [fitted]; omega

theorem fitted_full {cells : List Cell} {width : Nat} (full : cells.length = width) :
    fitted width cells = cells := by simp [fitted, ← full]

namespace Table

def empty (columns : List String) : Table := ⟨columns, [], by simp⟩

instance : Inhabited Table := ⟨empty []⟩

def pushLabelled (t : Table) (label : String) (cells : List Cell) : Table where
  columns := t.columns
  rows := t.rows ++ [⟨label, fitted t.columns.length cells⟩]
  rectangular := by
    intro row member
    rcases List.mem_append.1 member with old | new
    · exact t.rectangular row old
    · simp [List.mem_singleton.1 new]

/-- Appends a row labelled with its position. -/
def push (t : Table) (cells : List Cell) : Table :=
  t.pushLabelled (toString t.rows.length) cells

def labels (t : Table) : List String := t.rows.map Row.label

def isEmpty (t : Table) : Bool := t.rows.isEmpty || t.columns.isEmpty

/-- The cells of a column from top to bottom; none for a column that the table does not have. -/
def column (t : Table) (position : Nat) : List Cell := t.rows.filterMap (·.cells[position]?)

/-- The same columns, labels and cells, cells compared by value. -/
def sameValue (a b : Table) : Bool :=
  a.columns = b.columns && a.labels = b.labels &&
    (a.rows.zip b.rows).all fun (x, y) => (x.cells.zip y.cells).all fun (c, d) => c.sameValue d

@[simp] theorem columns_pushLabelled (t : Table) (label : String) (cells : List Cell) :
    (t.pushLabelled label cells).columns = t.columns := rfl

@[simp] theorem rows_pushLabelled (t : Table) (label : String) (cells : List Cell) :
    (t.pushLabelled label cells).rows = t.rows ++ [⟨label, fitted t.columns.length cells⟩] := rfl

end Table

end PagedReport
