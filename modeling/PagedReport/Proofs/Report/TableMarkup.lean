import PagedReport.Report.Document
import PagedReport.Proofs.Binary64.Spelling

/-! Reading a table back from its markup. A run of items before an end is read one item at a time:
an item says where it ends, and the end looks like no item. `Readable.run` carries this through the
head, the cells of a row and the rows; texts are recovered because they hold no angle bracket. -/
namespace PagedReport

theorem Binary64.angle_not_mem_digitsOf (n : Nat) : '<' ∉ digitsOf n := by
  intro member
  exact absurd (isDigit_of_mem_digitsOf member) (by decide)

theorem Binary64.angle_not_mem_plainText (x : Binary64) : '<' ∉ x.plainText := by
  have sign (negative : Bool) : '<' ∉ signText negative := by cases negative <;> decide
  cases x with
  | nan => decide
  | infinite negative => cases negative <;> decide
  | finite value =>
    rw [plainText, List.mem_append]
    rintro (inSign | inDigits)
    · exact sign value.negative inSign
    · rcases Decimal.Digits.mem_plain inDigits with digit | whole | zero | point
      · exact absurd (Decimal.isDigit_of_mem_spelled digit) (by decide)
      · contradiction
      · contradiction
      · contradiction

namespace Cell

/-- The text of a cell in the markup; an absent cell has none. -/
def rendered (cell : Cell) : String := if cell.isAbsent then "" else cell.shown

theorem angle_not_mem_floatText (x : Binary64) : '<' ∉ (floatText x).toList := by
  unfold floatText
  split
  next value whole =>
    have sign : '<' ∉ Binary64.signText value.negative := by cases value.negative <;> decide
    simp [sign, Binary64.angle_not_mem_digitsOf]
  next => simpa using Binary64.angle_not_mem_plainText _

theorem angle_not_mem_rendered (cell : Cell) (plain : ∀ text, cell = .text text → '<' ∉ text.toList) :
    '<' ∉ cell.rendered.toList := by
  unfold rendered
  split
  · simp
  · cases cell with
    | null => simp [shown]
    | boolean value => cases value <;> simp [shown]
    | integer value =>
      simp [shown, Json.Number.integerText, Binary64.angle_not_mem_digitsOf]
    | float value => exact angle_not_mem_floatText value
    | text text => exact plain text rfl

end Cell

namespace Report

theorem append_angle_inj {x y r s : List Char} (xPlain : '<' ∉ x) (yPlain : '<' ∉ y)
    (same : x ++ '<' :: r = y ++ '<' :: s) : x = y ∧ r = s := by
  induction x generalizing y with
  | nil =>
    cases y with
    | nil => exact ⟨rfl, (List.cons.inj same).2⟩
    | cons c y =>
      obtain ⟨rfl, -⟩ := List.cons.inj same
      exact absurd List.mem_cons_self yPlain
  | cons c x ih =>
    cases y with
    | nil =>
      obtain ⟨rfl, -⟩ := List.cons.inj same
      exact absurd List.mem_cons_self xPlain
    | cons d y =>
      obtain ⟨head, tail⟩ := List.cons.inj same
      obtain ⟨xy, rs⟩ := ih (fun h => xPlain (List.mem_cons_of_mem _ h))
        (fun h => yPlain (List.mem_cons_of_mem _ h)) tail
      exact ⟨by rw [head, xy], rs⟩

theorem enclosed_inj {before after x y r s : List Char} (xPlain : '<' ∉ x) (yPlain : '<' ∉ y)
    (same : before ++ x ++ '<' :: after ++ r = before ++ y ++ '<' :: after ++ s) : x = y ∧ r = s := by
  simp only [List.append_assoc, List.append_cancel_left_eq, List.cons_append] at same
  obtain ⟨xy, rest⟩ := append_angle_inj xPlain yPlain same
  exact ⟨xy, List.append_cancel_left rest⟩

/-- Items that can be read one after the other up to `stop`, as far as `key` tells them apart. -/
structure Readable (item : α → List Char) (key : α → β) (valid : α → Prop) (stop : List Char) :
    Prop where
  one : ∀ {x y r s}, valid x → valid y → item x ++ r = item y ++ s → key x = key y ∧ r = s
  ends : ∀ {x r s}, valid x → item x ++ r ≠ stop ++ s

theorem Readable.run {item : α → List Char} {key : α → β} (readable : Readable item key valid stop)
    {xs ys : List α} (xsValid : ∀ x ∈ xs, valid x) (ysValid : ∀ y ∈ ys, valid y)
    (same : xs.flatMap item ++ (stop ++ r) = ys.flatMap item ++ (stop ++ s)) :
    xs.map key = ys.map key ∧ r = s := by
  induction xs generalizing ys with
  | nil =>
    cases ys with
    | nil => exact ⟨rfl, List.append_cancel_left same⟩
    | cons y ys =>
      rw [List.flatMap_cons, List.append_assoc] at same
      exact absurd same.symm (readable.ends (ysValid y (by simp)))
  | cons x xs ih =>
    cases ys with
    | nil =>
      rw [List.flatMap_cons, List.append_assoc] at same
      exact absurd same (readable.ends (xsValid x (by simp)))
    | cons y ys =>
      rw [List.flatMap_cons, List.flatMap_cons, List.append_assoc, List.append_assoc] at same
      obtain ⟨first, rest⟩ := readable.one (xsValid x (by simp)) (ysValid y (by simp)) same
      obtain ⟨later, tail⟩ := ih (fun x h => xsValid x (by simp [h]))
        (fun y h => ysValid y (by simp [h])) rest
      exact ⟨by rw [List.map_cons, List.map_cons, first, later], tail⟩

def sixBlanks : List Char := [' ', ' ', ' ', ' ', ' ', ' ']

theorem toList_headerMarkup (text : String) : (headerMarkup text).toList =
    (sixBlanks ++ ['<', 't', 'h', '>']) ++ text.toList ++ '<' :: ['/', 't', 'h', '>', '\n'] := by
  simp [headerMarkup, sixBlanks]

theorem toList_cellMarkup (cell : Cell) : (cellMarkup cell).toList =
    (sixBlanks ++ ['<', 't', 'd', '>']) ++ cell.rendered.toList ++
      '<' :: ['/', 't', 'd', '>', '\n'] := by
  unfold cellMarkup Cell.rendered
  split <;> simp [sixBlanks]

/-- A line that is less indented than headers and cells. -/
def rowEnd : List Char := [' ', ' ', ' ', ' ', '<', '/', 't', 'r', '>', '\n']

theorem toList_rowMarkup (row : Row) : (rowMarkup row).toList =
    [' ', ' ', ' ', ' ', '<', 't', 'r', '>', '\n'] ++ ((headerMarkup row.label).toList ++
      (row.cells.flatMap (fun cell => (cellMarkup cell).toList) ++ rowEnd)) := by
  simp [rowMarkup, rowEnd, List.flatMap_map]

theorem readable_header (stop : List Char) : Readable (fun text => (headerMarkup text).toList) id
    (fun text => '<' ∉ text.toList) (rowEnd ++ stop) where
  one := by
    intro x y r s xPlain yPlain same
    simp only [toList_headerMarkup] at same
    obtain ⟨texts, rest⟩ := enclosed_inj xPlain yPlain same
    exact ⟨String.toList_inj.1 texts, rest⟩
  ends := by
    intro x r s _ same
    simp [toList_headerMarkup, rowEnd, sixBlanks] at same

theorem readable_cell : Readable (fun cell => (cellMarkup cell).toList) Cell.rendered
    (fun cell => '<' ∉ cell.rendered.toList) rowEnd where
  one := by
    intro x y r s xPlain yPlain same
    simp only [toList_cellMarkup] at same
    obtain ⟨texts, rest⟩ := enclosed_inj xPlain yPlain same
    exact ⟨String.toList_inj.1 texts, rest⟩
  ends := by
    intro x r s _ same
    simp [toList_cellMarkup, rowEnd, sixBlanks] at same

def PlainRow (row : Row) : Prop :=
  '<' ∉ row.label.toList ∧ ∀ cell ∈ row.cells, '<' ∉ cell.rendered.toList

theorem readable_row : Readable (fun row => (rowMarkup row).toList)
    (fun row => (row.label, row.cells.map Cell.rendered)) PlainRow tailMarkup.toList where
  one := by
    intro x y r s xPlain yPlain same
    simp only [toList_rowMarkup, List.append_assoc, List.append_cancel_left_eq] at same
    obtain ⟨labels, cells⟩ := (readable_header []).one xPlain.1 yPlain.1 same
    obtain ⟨texts, rest⟩ := readable_cell.run xPlain.2 yPlain.2 cells
    exact ⟨Prod.ext labels texts, rest⟩
  ends := by
    intro x r s _ same
    simp [toList_rowMarkup, tailMarkup] at same

def headStart : String :=
  "<table border=\"1\" class=\"dataframe data-table\" id=\"report-table\">\n" ++
    "  <thead>\n    <tr style=\"text-align: right;\">\n      <th></th>\n"

def betweenHeadAndRows : String := "  </thead>\n  <tbody>\n"

theorem toList_tableMarkup (t : Table) : (tableMarkup t).toList =
    headStart.toList ++ (t.columns.flatMap (fun name => (headerMarkup name).toList) ++
      ((rowEnd ++ betweenHeadAndRows.toList) ++
        (t.rows.flatMap (fun row => (rowMarkup row).toList) ++ (tailMarkup.toList ++ [])))) := by
  have close : "    </tr>\n".toList = rowEnd := by simp [rowEnd]
  have split : "    </tr>\n  </thead>\n  <tbody>\n" = "    </tr>\n" ++ betweenHeadAndRows := rfl
  have start : headMarkup t.columns = headStart ++ String.join (t.columns.map headerMarkup) ++
      "    </tr>\n  </thead>\n  <tbody>\n" := rfl
  rw [tableMarkup, start, split, ← close]
  simp only [String.toList_append, String.toList_join, List.flatMap_map, List.append_assoc,
    List.append_nil]

end Report

/-- No name, label or text cell of a table holds an angle bracket. -/
def Table.Plain (t : Table) : Prop :=
  (∀ name ∈ t.columns, '<' ∉ name.toList) ∧
    ∀ row ∈ t.rows, '<' ∉ row.label.toList ∧ ∀ text, .text text ∈ row.cells → '<' ∉ text.toList

namespace Report

theorem plainRow_of_plain {t : Table} (plain : t.Plain) : ∀ row ∈ t.rows, PlainRow row := by
  intro row member
  obtain ⟨label, texts⟩ := plain.2 row member
  refine ⟨label, ?_⟩
  intro cell inRow
  apply Cell.angle_not_mem_rendered
  rintro text rfl
  exact texts text inRow

/-- The markup of a table determines its names, its labels and the text of each of its cells, all in
their places; what it does not tell apart are cells that show the same text. -/
theorem tableMarkup_determines {a b : Table} (aPlain : a.Plain) (bPlain : b.Plain)
    (same : tableMarkup a = tableMarkup b) :
    a.columns = b.columns ∧ a.rows.length = b.rows.length ∧ a.labels = b.labels ∧
      a.rows.map (·.cells.map Cell.rendered) = b.rows.map (·.cells.map Cell.rendered) := by
  have characters := congrArg String.toList same
  rw [toList_tableMarkup, toList_tableMarkup] at characters
  obtain ⟨names, body⟩ := (readable_header _).run aPlain.1 bPlain.1
    (List.append_cancel_left characters)
  obtain ⟨rows, -⟩ := readable_row.run (plainRow_of_plain aPlain) (plainRow_of_plain bPlain) body
  have lengths := congrArg List.length rows
  have labels := congrArg (List.map Prod.fst) rows
  have cells := congrArg (List.map Prod.snd) rows
  simp only [List.map_map, List.length_map, List.map_id_fun, id] at names lengths labels cells
  exact ⟨names, lengths, labels, cells⟩

/-- Two tables with one markup: what one has absent is a number without value in the other. -/
theorem tableMarkup_determines_absent :
    let a := ((Table.empty ["a\nb", ""]).push [.null, .float .nan]).pushLabelled "é" [.text "x"]
    let b := ((Table.empty ["a\nb", ""]).push [.text "", .null]).pushLabelled "é" [.text "x"]
    (a.Plain ∧ b.Plain ∧ tableMarkup a = tableMarkup b) ∧
    a.columns = b.columns ∧ a.rows.length = b.rows.length ∧ a.labels = b.labels ∧
      a.rows.map (·.cells.map Cell.rendered) = b.rows.map (·.cells.map Cell.rendered) := by
  intro a b
  have aPlain : a.Plain := by simp [a, Table.Plain, Table.push, Table.empty, fitted]
  have bPlain : b.Plain := by simp [b, Table.Plain, Table.push, Table.empty, fitted]
  have same : tableMarkup a = tableMarkup b := by
    simp [a, b, tableMarkup, rowMarkup, cellMarkup, Table.push, Table.empty, fitted, Cell.isAbsent,
      Cell.shown, Binary64.isNaN]
  exact ⟨⟨aPlain, bPlain, same⟩, tableMarkup_determines aPlain bPlain same⟩

end Report

end PagedReport
