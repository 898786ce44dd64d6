import PagedReport.Table.Records
import PagedReport.Table.Split

/-! Tables as histories. However a table came about, it is an empty one and the pushes that followed,
so `rows_grow` says what every table holds: the pushes in order, each under its own label or its
position. `lists_grow` is the same run on labels and data kept in two lists. -/
namespace PagedReport

/-- A row on its way into a table, with a label of its own or none. -/
structure Push where
  label : Option String
  cells : List Cell

def Push.row (width position : Nat) (push : Push) : Row :=
  ⟨push.label.getD (toString position), fitted width push.cells⟩

namespace Table

def pushed (t : Table) (push : Push) : Table :=
  match push.label with
  | some label => t.pushLabelled label push.cells
  | none => t.push push.cells

def grow (t : Table) (pushes : List Push) : Table := pushes.foldl pushed t

@[simp] theorem grow_nil (t : Table) : t.grow [] = t := rfl

@[simp] theorem grow_cons (t : Table) (push : Push) (pushes : List Push) :
    t.grow (push :: pushes) = (t.pushed push).grow pushes := rfl

theorem grow_append (t : Table) (earlier later : List Push) :
    t.grow (earlier ++ later) = (t.grow earlier).grow later := List.foldl_append

@[simp] theorem columns_pushed (t : Table) (push : Push) :
    (t.pushed push).columns = t.columns := by
  obtain ⟨label, cells⟩ := push
  cases label <;> rfl

@[simp] theorem rows_pushed (t : Table) (push : Push) :
    (t.pushed push).rows = t.rows ++ [push.row t.columns.length t.rows.length] := by
  obtain ⟨label, cells⟩ := push
  cases label <;> rfl

@[simp] theorem columns_grow (t : Table) (pushes : List Push) :
    (t.grow pushes).columns = t.columns := by
  induction pushes generalizing t with
  | nil => rfl
  | cons push pushes ih => rw [grow_cons, ih, columns_pushed]

theorem rows_grow (t : Table) (pushes : List Push) :
    (t.grow pushes).rows = t.rows ++
      pushes.mapIdx fun i push => push.row t.columns.length (t.rows.length + i) := by
  induction pushes generalizing t with
  | nil => simp
  | cons push pushes ih =>
    rw [grow_cons, ih]
    simp [List.mapIdx_cons, Nat.add_assoc, Nat.add_comm 1]

def data (t : Table) : List (List Cell) := t.rows.map Row.cells

def lists (t : Table) : Split := ⟨t.columns, t.labels, t.data⟩

end Table

/-- A push onto lists that are kept apart; the position is counted on the data. -/
def Split.pushed (s : Split) (push : Push) : Split :=
  { s with
    index := s.index ++ [push.label.getD (toString s.data.length)]
    data := s.data ++ [fitted s.columns.length push.cells] }

namespace Table

theorem lists_pushed (t : Table) (push : Push) : (t.pushed push).lists = t.lists.pushed push := by
  simp [lists, Split.pushed, labels, data, Push.row]

theorem lists_grow (t : Table) (pushes : List Push) :
    (t.grow pushes).lists = pushes.foldl Split.pushed t.lists := by
  induction pushes generalizing t with
  | nil => rfl
  | cons push pushes ih => rw [grow_cons, ih, lists_pushed, List.foldl_cons]

theorem zip_lists (t : Table) :
    t.labels.zip t.data = t.rows.map fun row => (row.label, row.cells) := by
  rw [labels, data, List.zip_map']

theorem map_some_filterMap {α β : Type} (f : α → Option β) (xs : List α)
    (total : ∀ x ∈ xs, (f x).isSome) : (xs.filterMap f).map some = xs.map f := by
  induction xs with
  | nil => rfl
  | cons x xs ih =>
    obtain ⟨y, found⟩ := Option.isSome_iff_exists.1 (total x (by simp))
    rw [List.filterMap_cons_some found, List.map_cons, List.map_cons, found,
      ih fun x member => total x (by simp [member])]

theorem column_inside (t : Table) {position : Nat} (inside : position < t.columns.length) :
    (t.column position).map some = t.rows.map (·.cells[position]?) := by
  apply map_some_filterMap
  intro row member
  have inRow : position < row.cells.length := by rw [t.rectangular row member]; exact inside
  simp [inRow]

theorem column_outside (t : Table) {position : Nat} (outside : t.columns.length ≤ position) :
    t.column position = [] := by
  rw [column, List.filterMap_eq_nil_iff]
  intro row member
  rw [List.getElem?_eq_none_iff, t.rectangular row member]
  exact outside

end Table

/-- Ways to a table. A layout is whatever was read as columns, index and data. -/
inductive Origin where
  | columns (names : List String)
  | default
  | records (values : List Json)
  | layout (split : Split)

namespace Origin

def table : Origin → Table
  | .columns names => .empty names
  | .default => Inhabited.default
  | .records values => (Table.ofRecords values).value
  | .layout split => split.toTable

/-- The keys of the objects among records, in order of first occurrence. -/
def recordColumns (values : List Json) : List String :=
  firstOccurrences ((values.filterMap Json.members?).flatMap fun members => members.map Prod.fst)

def names : Origin → List String
  | .columns names => names
  | .default => []
  | .records values => recordColumns values
  | .layout split => split.columns

def pushes : Origin → List Push
  | .columns _ | .default => []
  | .records values => (values.filterMap Json.members?).map fun members =>
    ⟨none, Table.recordCells (recordColumns values) members⟩
  | .layout split => split.data.mapIdx fun i cells => ⟨split.index[i]?, cells⟩

end Origin

theorem Table.foldl_push (t : Table) (objects : List (List (String × Json))) (columns : List String) :
    objects.foldl (fun table members => table.push (recordCells columns members)) t =
      t.grow (objects.map fun members => ⟨none, recordCells columns members⟩) := by
  induction objects generalizing t with
  | nil => rfl
  | cons members objects ih => exact ih _

theorem Split.addRows_eq_grow (t : Table) (index : List String) (data : List (List Cell)) :
    addRows t index data = t.grow (data.mapIdx fun i cells => ⟨index[i]?, cells⟩) := by
  induction data generalizing t index with
  | nil => cases index <;> rfl
  | cons cells data ih =>
    cases index with
    | nil =>
      rw [addRows, ih]
      simp [List.mapIdx_cons, Table.pushed]
    | cons label labels =>
      rw [addRows, ih]
      simp [List.mapIdx_cons, Table.pushed]

/-- Every origin is an empty table and its pushes. -/
theorem Origin.table_eq_grow (origin : Origin) :
    origin.table = (Table.empty origin.names).grow origin.pushes := by
  cases origin with
  | columns names => rfl
  | default => rfl
  | records values => exact Table.foldl_push _ _ _
  | layout split => exact Split.addRows_eq_grow _ _ _

theorem Origin.rows_grow (origin : Origin) (pushes : List Push) :
    (origin.table.grow pushes).rows =
      (origin.pushes ++ pushes).mapIdx fun i push => push.row origin.names.length i := by
  rw [table_eq_grow, ← Table.grow_append, Table.rows_grow]
  simp [Table.empty]

theorem Origin.columns_grow (origin : Origin) (pushes : List Push) :
    (origin.table.grow pushes).columns = origin.names := by
  rw [table_eq_grow, ← Table.grow_append, Table.columns_grow]
  rfl

theorem Origin.lists_grow (origin : Origin) (pushes : List Push) :
    (origin.table.grow pushes).lists =
      (origin.pushes ++ pushes).foldl Split.pushed ⟨origin.names, [], []⟩ := by
  rw [table_eq_grow, ← Table.grow_append, Table.lists_grow]
  rfl

/-- Whatever a table began as and whatever was pushed, it is rectangular, holds one row for each
push and in their order, and takes the next push at its end without touching anything else. The same
pushes on a list of labels and a list of data, both empty at first, end with its labels and its data.
Pairing the two gives the same rows, and a column has a cell of each row. -/
theorem history_rectangular (origin : Origin) (pushes : List Push) :
    let t := origin.table.grow pushes
    let width := t.columns.length
    let row (position : Nat) (push : Push) : Row := ⟨push.label.getD (toString position),
      push.cells.take width ++ List.replicate (width - push.cells.length) .null⟩
    let lists := (origin.pushes ++ pushes).foldl Split.pushed ⟨origin.names, [], []⟩
    (t.columns = origin.names ∧ t.rows = (origin.pushes ++ pushes).mapIdx row) ∧
    (∀ push, (t.pushed push).columns = t.columns ∧
      (t.pushed push).rows = t.rows ++ [row t.rows.length push]) ∧
    (t.labels.length = t.rows.length ∧ t.data.length = t.rows.length ∧
      ∀ cells ∈ t.data, cells.length = width) ∧
    (lists = ⟨t.columns, t.labels, t.data⟩ ∧
      lists.index.zip lists.data = t.rows.map fun row => (row.label, row.cells)) ∧
    (∀ position < width, (t.column position).map some = t.rows.map (·.cells[position]?)) ∧
    ∀ position, width ≤ position → t.column position = [] := by
  intro t width row lists
  have columns : t.columns = origin.names := origin.columns_grow pushes
  have apart : lists = t.lists := (origin.lists_grow pushes).symm
  have rows : t.rows = (origin.pushes ++ pushes).mapIdx row := by
    have closed := origin.rows_grow pushes
    rw [← columns] at closed
    exact closed
  refine ⟨⟨columns, rows⟩, ?_, ⟨?_, ?_, ?_⟩, ⟨apart, ?_⟩, ?_, ?_⟩
  · intro push
    exact ⟨Table.columns_pushed t push, Table.rows_pushed t push⟩
  · exact List.length_map _
  · exact List.length_map _
  · intro cells member
    obtain ⟨r, inRows, rfl⟩ := List.mem_map.1 member
    rw [rows] at inRows
    obtain ⟨i, bound, rfl⟩ := List.mem_mapIdx.1 inRows
    exact length_fitted width _
  · rw [apart]
    exact t.zip_lists
  · intro position inside
    exact t.column_inside inside
  · intro position outside
    exact t.column_outside outside

end PagedReport
