import PagedReport.Proofs.Table.Layout
import PagedReport.Proofs.Table.History

/-! A table read back from its own text. Each part is read from its written form: columns and labels
as they are, and cells up to numbers that are not finite, which have no JSON. What is read has one
label and one full row of cells for each row, so making it rectangular changes nothing. -/
namespace PagedReport

theorem Json.Number.toInt64?_ofInt64 (value : Int64) : (ofInt64 value).toInt64? = some value := by
  have read : (ofInt64 value).toInt64? = some (.ofInt value.toInt) := if_pos value.toInt_lt
  rw [read, Int64.ofInt_toInt]

namespace Cell

/-- A float that is no finite number. -/
def isNonfinite : Cell → Bool
  | .float (.finite _) => false
  | .float _ => true
  | _ => false

/-- What is left of a cell once it has been written. -/
def restored (cell : Cell) : Cell := if cell.isNonfinite then .null else cell

theorem isScalar_toJson (cell : Cell) : cell.toJson.isScalar := by
  cases cell with
  | float value => cases value <;> rfl
  | _ => rfl

/-- The kinds are told apart by how they were written, a whole number by its point. -/
theorem ofJson_toJson (cell : Cell) : ofJson cell.toJson = cell.restored := by
  cases cell with
  | integer value =>
    simp [ofJson, toJson, restored, isNonfinite, Json.Number.toInt64?_ofInt64]
  | float value => cases value <;> rfl
  | _ => rfl

theorem toJson_restored (cell : Cell) : cell.restored.toJson = cell.toJson := by
  cases cell with
  | float value => cases value <;> rfl
  | _ => rfl

theorem sameValue_restored (cell : Cell) : cell.restored.sameValue cell = !cell.isNonfinite := by
  cases cell with
  | float value =>
    cases value <;> simp [restored, sameValue, isNonfinite, Binary64.sameValue]
  | _ => simp [restored, sameValue, isNonfinite]

end Cell

namespace Split

def cellsJson (cells : List Cell) : Json := .array (cells.map Cell.toJson)

def toJson (s : Split) : Json := .object [
  (Part.columns.name, .array (s.columns.map .text)),
  (Part.index.name, .array (s.index.map .text)),
  (Part.data.name, .array (s.data.map cellsJson))]

def restored (s : Split) : Split := { s with data := s.data.map (·.map Cell.restored) }

theorem ofJson_toJson (s : Split) : ofJson s.toJson = .ok s.restored := by
  have rows : s.data.map cellsJson = (s.data.map (·.map Cell.toJson)).map .array := by
    simp [cellsJson]
  have scalar : ∀ row ∈ s.data.map (·.map Cell.toJson), ∀ value ∈ row, value.isScalar := by
    simp [Cell.isScalar_toJson]
  have cells : (s.data.map (·.map Cell.toJson)).map (·.map Cell.ofJson) =
      s.data.map (·.map Cell.restored) := by
    simp [Function.comp_def, Cell.ofJson_toJson]
  have columns := setMember_part rfl (setPart_columns .blank s.columns)
  have index := setMember_part rfl (setPart_index ⟨some s.columns, none, none⟩ s.index)
  have data := setMember_part rfl (setPart_data ⟨some s.columns, some s.index, none⟩ scalar)
  rw [cells] at data
  rw [toJson, rows]
  exact ofJson_object (foldlM_cons_eq_ok_iff.2
    ⟨_, columns, foldlM_cons_eq_ok_iff.2 ⟨_, index, foldlM_cons_eq_ok_iff.2 ⟨_, data, rfl⟩⟩⟩) rfl

theorem ofText_toJson [Json.FaithfulReader] (s : Split) : ofText s.toJson.compact = .ok s.restored :=
  ofText_of_ofJson s.ofJson_toJson

end Split

namespace Table

def mapCells (f : Cell → Cell) (t : Table) : Table where
  columns := t.columns
  rows := t.rows.map fun row => ⟨row.label, row.cells.map f⟩
  rectangular := by
    intro row member
    obtain ⟨old, inRows, rfl⟩ := List.mem_map.1 member
    rw [List.length_map]
    exact t.rectangular old inRows

theorem eq_of_parts {a b : Table} (columns : a.columns = b.columns) (rows : a.rows = b.rows) :
    a = b := by
  cases a
  cases b
  cases columns
  cases rows
  rfl

theorem toJson_lists (t : Table) : t.toJson = t.lists.toJson := by
  simp [toJson, Split.toJson, lists, data, Split.cellsJson]

theorem toTable_lists (f : Cell → Cell) (t : Table) :
    Split.toTable { t.lists with data := t.data.map (·.map f) } = t.mapCells f := by
  rw [Split.toTable, Split.addRows_eq_grow]
  apply eq_of_parts
  · exact columns_grow _ _
  · rw [rows_grow]
    apply List.ext_getElem
    · simp [empty, data, mapCells]
    · intro i inLists inRows
      have inside : i < t.rows.length := by simpa [mapCells] using inRows
      have full : (t.rows[i].cells.map f).length = t.columns.length := by
        rw [List.length_map]
        exact t.rectangular _ (List.getElem_mem inside)
      simp [empty, lists, data, labels, mapCells, Push.row, inside, fitted_full full]

theorem all_zip_map {α β : Type} (f : α → β) (test : β × α → Bool) (xs : List α) :
    ((xs.map f).zip xs).all test = xs.all fun x => test (f x, x) := by
  induction xs with
  | nil => rfl
  | cons x xs ih => rw [List.map_cons, List.zip_cons_cons, List.all_cons, List.all_cons, ih]

theorem sameValue_mapCells (f : Cell → Cell) (t : Table) :
    (t.mapCells f).sameValue t =
      t.rows.all fun row => row.cells.all fun cell => (f cell).sameValue cell := by
  have labels : (t.mapCells f).labels = t.labels := by simp [Table.labels, mapCells]
  rw [sameValue, labels]
  simp [mapCells, all_zip_map]

theorem toJson_restored (t : Table) : (t.mapCells Cell.restored).toJson = t.toJson := by
  simp [toJson, mapCells, labels, Function.comp_def, Cell.toJson_restored]

/-- The text of every table holds a table: the same one, with nothing in place of the floats that are
no finite numbers. It equals what was written unless there are such floats, and has the same text.
That finite numbers come back as they were written is asked of the reader of decimals. -/
theorem ofText_toText [Json.FaithfulReader] (t : Table) :
    let copy := t.mapCells fun cell => if cell.isNonfinite then .null else cell
    ofText t.toText = .ok copy ∧
      (copy.sameValue t = true ↔ ∀ row ∈ t.rows, ∀ cell ∈ row.cells, cell.isNonfinite = false) ∧
      copy.toText = t.toText := by
  intro copy
  refine ⟨?_, ?_, ?_⟩
  · rw [ofText, toText, toJson_lists, Split.ofText_toJson]
    exact congrArg Except.ok (toTable_lists Cell.restored t)
  · have cells (cell : Cell) :
        (if cell.isNonfinite then .null else cell : Cell).sameValue cell = !cell.isNonfinite :=
      cell.sameValue_restored
    rw [sameValue_mapCells]
    simp [cells]
  · exact congrArg Json.compact t.toJson_restored

end Table

end PagedReport
