import PagedReport.Proofs.Binary64.Sums
import PagedReport.Proofs.Width.Sample

/-! Estimates in whole numbers. A cell is a whole number of pixels wide and a column a quotient of whole
numbers, rounded once (`counts_ofColumn`), however long its header is. An estimate is the whole part of
the running sum of its columns (`toNat_estimate`). -/
namespace PagedReport.Width

open Binary64

def cellWidth (cell : Cell) : Nat :=
  if cell.isAbsent then 30
  else if 50 < cell.shown.length then 400
  else 8 * cell.shown.length + 16

def headerWidth (header : String) : Nat := 8 * header.length + 20

theorem ofCell_eq_ofNat (cell : Cell) : ofCell cell = ofNat (cellWidth cell) := by
  rw [ofCell, cellWidth, longestMeasured]
  by_cases absent : cell.isAbsent = true
  · rw [if_pos absent, if_pos absent]
    rfl
  · by_cases long : 50 < cell.shown.length
    · simp only [if_neg absent, if_pos long]
      rfl
    · simp only [if_neg absent, if_neg long]
      have product := ofNat_mul (a := cell.shown.length) (b := 8) (by omega) (by decide)
      have sum := ofNat_add (a := cell.shown.length * 8) (b := 16) (by omega)
      rw [Nat.mul_comm 8, ← sum, ← product]
      rfl

theorem cellWidth_le (cell : Cell) : cellWidth cell ≤ 416 := by
  unfold cellWidth
  split
  · omega
  · split <;> omega

/-- A cell of so many characters. -/
def letters (n : Nat) : Cell := .text (String.ofList (List.replicate n 'x'))

theorem length_letters (n : Nat) : (letters n).shown.length = n := by
  rw [letters, Cell.shown, String.length_ofList, List.length_replicate]

/-- The width of a column times the number of its cells. -/
def columnParts (header : String) (cells : List Cell) : Nat :=
  min (250 * cells.length)
    (max (max (headerWidth header * cells.length) (cells.map cellWidth).sum) (80 * cells.length))

/-- The width of a column in units, rounded. -/
def columnUnits (header : String) (cells : List Cell) : Nat :=
  nearestUnits (columnParts header cells * unitsPerOne) cells.length

section Column

variable (header : String) {cells : List Cell}

theorem le_columnParts : 80 * cells.length ≤ columnParts header cells := by
  rw [columnParts]
  omega

theorem columnParts_le : columnParts header cells ≤ 250 * cells.length := Nat.min_le_left _ _

theorem sum_cellWidth_le (cells : List Cell) : (cells.map cellWidth).sum ≤ 416 * cells.length := by
  induction cells with
  | nil => simp
  | cons cell cells ih =>
    have first := cellWidth_le cell
    rw [List.map_cons, List.sum_cons, List.length_cons]
    omega

theorem nearestUnits_whole {n : Nat} (small : n < 2 ^ 53) {den : Nat} (positive : 0 < den) :
    nearestUnits (n * den * unitsPerOne) den = n * unitsPerOne := by
  have quotient := nearestUnits_mul (n * unitsPerOne) 1 positive
  rw [Nat.one_mul, nearestUnits_self (representable_whole small)] at quotient
  rwa [Nat.mul_right_comm]

theorem rounded_mono {den : Nat} (positive : 0 < den) :
    Monotone fun num => nearestUnits (num * unitsPerOne) den := by
  intro num more le
  exact nearestUnits_mono positive (Nat.mul_le_mul_right _ le)

variable (nonempty : 0 < cells.length) (few : cells.length ≤ sampledRows)

include nonempty in
theorem columnUnits_le : columnUnits header cells ≤ 250 * unitsPerOne := by
  rw [← nearestUnits_whole (n := 250) (by decide) nonempty]
  exact rounded_mono nonempty (columnParts_le header)

include nonempty in
theorem le_columnUnits : 80 * unitsPerOne ≤ columnUnits header cells := by
  rw [← nearestUnits_whole (n := 80) (by decide) nonempty]
  exact rounded_mono nonempty (le_columnParts header)

include few in
theorem sum_cellWidth_lt : (cells.map cellWidth).sum < 2 ^ 53 := by
  have most := sum_cellWidth_le cells
  have ten : sampledRows = 10 := rfl
  omega

include few in
/-- The widths of sampled cells are added up exactly. -/
theorem sum_map_ofCell : Binary64.sum (cells.map ofCell) = ofNat (cells.map cellWidth).sum := by
  have widths : cells.map ofCell = (cells.map cellWidth).map ofNat := by
    rw [List.map_map]
    apply List.map_congr_left
    intro cell _
    rw [ofCell_eq_ofNat, Function.comp_apply]
  rw [widths, sum_ofNat (sum_cellWidth_lt few)]

include nonempty in
theorem mean_of_nonempty : mean cells = Binary64.sum (cells.map ofCell) / ofNat cells.length := by
  have some : ¬ cells.isEmpty = true := by
    rw [List.isEmpty_iff]
    exact List.ne_nil_of_length_pos nonempty
  rw [mean, if_neg some]

include nonempty few in
theorem counts_mean :
    Counts (mean cells) (nearestUnits ((cells.map cellWidth).sum * unitsPerOne) cells.length) := by
  have most := sum_cellWidth_le cells
  have ten : sampledRows = 10 := rfl
  have quotient : mean cells = ofUnits false ((cells.map cellWidth).sum * unitsPerOne) cells.length := by
    rw [mean_of_nonempty nonempty, sum_map_ofCell few,
      ofNat_div (sum_cellWidth_lt few) (by omega) nonempty]
  rw [quotient]
  apply Counts.ofUnits
  calc nearestUnits ((cells.map cellWidth).sum * unitsPerOne) cells.length
      ≤ nearestUnits (416 * cells.length * unitsPerOne) cells.length := rounded_mono nonempty most
    _ = 416 * unitsPerOne := nearestUnits_whole (n := 416) (by decide) nonempty
    _ < unitsLimit := (representable_whole (n := 416) (by decide)).2

theorem counts_ofHeader {header : String} (short : header.length ≤ 28) :
    Counts (ofHeader header) (headerWidth header * unitsPerOne) := by
  have product := ofNat_mul (a := header.length) (b := 8) (by omega) (by decide)
  have sum := ofNat_add (a := header.length * 8) (b := 20) (by omega)
  have width : ofHeader header = ofNat (headerWidth header) := by
    rw [headerWidth, Nat.mul_comm 8, ← sum, ← product]
    rfl
  rw [width]
  exact .ofNat (by rw [headerWidth]; omega)

/-- A header of 29 characters or more fills the widest column, even if its own width overflows. -/
theorem atLeast_ofHeader {header : String} (long : 28 < header.length) :
    AtLeast (252 * unitsPerOne) (ofHeader header) := by
  have characters : AtLeast (29 * unitsPerOne) (ofNat header.length) := by
    apply AtLeast.ofUnits (representable_whole (n := 29) (by decide)) Nat.one_pos
    rw [Nat.mul_one]
    exact Nat.mul_le_mul_right unitsPerOne long
  have eight : AtLeast (8 * unitsPerOne) perCharacter :=
    (Counts.ofNat (n := 8) (by decide)).atLeast
  have twenty : AtLeast (20 * unitsPerOne) headerPadding :=
    (Counts.ofNat (n := 20) (by decide)).atLeast
  have product : AtLeast (232 * unitsPerOne) (ofNat header.length * perCharacter) := by
    have fits := representable_whole (n := 232) (by decide)
    apply characters.mul eight (Nat.mul_pos (by decide : 0 < 232) unitsPerOne_pos) fits
    rw [Nat.mul_mul_mul_comm, ← Nat.mul_assoc]
  have total : 252 * unitsPerOne = 232 * unitsPerOne + 20 * unitsPerOne := by omega
  rw [total]
  apply product.add twenty
  rw [← total]
  exact representable_whole (n := 252) (by decide)

include nonempty few in
/-- A column is as wide as the exact quotient, rounded once. -/
theorem counts_ofColumn : Counts (ofColumn header cells) (columnUnits header cells) := by
  have content := counts_mean nonempty few
  have least : Counts leastColumn (80 * unitsPerOne) := Counts.ofNat (n := 80) (by decide)
  have greatest : Counts greatestColumn (250 * unitsPerOne) := Counts.ofNat (n := 250) (by decide)
  have mono := rounded_mono nonempty
  have widest := nearestUnits_whole (n := 250) (by decide) nonempty
  rcases Nat.lt_or_ge 28 header.length with long | short
  · have cut := (((atLeast_ofHeader long).larger (.inl ⟨_, Nat.zero_le _, content⟩)).larger
      (.inl ⟨_, Nat.zero_le _, least⟩)).smaller greatest
        (Nat.mul_le_mul_right unitsPerOne (by decide : 250 ≤ 252))
    have full : columnParts header cells = 250 * cells.length := by
      have wide : 250 * cells.length ≤ headerWidth header * cells.length :=
        Nat.mul_le_mul_right _ (by rw [headerWidth]; omega)
      rw [columnParts]
      omega
    rwa [columnUnits, full, widest]
  · have chain := (((counts_ofHeader short).larger content).larger least).smaller greatest
    have head := nearestUnits_whole (n := headerWidth header) (by rw [headerWidth]; omega) nonempty
    have narrowest := nearestUnits_whole (n := 80) (by decide) nonempty
    have rounded : columnUnits header cells =
        min (max (max (headerWidth header * unitsPerOne)
          (nearestUnits ((cells.map cellWidth).sum * unitsPerOne) cells.length)) (80 * unitsPerOne))
          (250 * unitsPerOne) := by
      rw [columnUnits, columnParts, Nat.min_comm, mono.map_min, mono.map_max, mono.map_max, head,
        narrowest, widest]
    rwa [rounded]

end Column

/-- The widths of the columns, in units. -/
def columnTerms (t : Table) : List Nat :=
  t.columns.zipIdx.map fun column => columnUnits column.1 (sample t column.2)

/-- The widths that an estimate adds: its columns' and last the index column's. -/
def terms (t : Table) : List Nat := columnTerms t ++ [80 * unitsPerOne]

section Estimate

variable {t : Table}

theorem indexColumn_le : 80 * unitsPerOne ≤ 250 * unitsPerOne :=
  Nat.mul_le_mul_right unitsPerOne (by decide : 80 ≤ 250)

theorem length_columnTerms (t : Table) : (columnTerms t).length = t.columns.length := by
  simp [columnTerms]

theorem length_terms (t : Table) : (terms t).length = t.columns.length + 1 := by
  simp [terms, length_columnTerms]

/-- How many rows count. -/
def sampleSize (t : Table) : Nat := min sampledRows t.rows.length

theorem length_sample {position : Nat} (inside : position < t.columns.length) :
    (sample t position).length = sampleSize t := by
  rw [sample, List.length_take, t.length_column inside, sampleSize]

theorem inside_of_mem {column : String × Nat} (member : column ∈ t.columns.zipIdx) :
    column.2 < t.columns.length := by
  have := List.snd_lt_of_mem_zipIdx member
  rwa [Nat.add_zero] at this

variable (nonempty : t.isEmpty = false)

theorem sampleSize_le (t : Table) : sampleSize t ≤ sampledRows := Nat.min_le_left _ _

include nonempty in
theorem sampleSize_pos : 0 < sampleSize t := by
  rw [Table.isEmpty, Bool.or_eq_false_iff] at nonempty
  have rows : 0 < t.rows.length := List.length_pos_iff.2 (List.isEmpty_eq_false_iff.1 nonempty.1)
  exact Nat.lt_min.2 ⟨by decide, rows⟩

include nonempty in
theorem length_sample_pos_of_lt {position : Nat} (inside : position < t.columns.length) :
    0 < (sample t position).length := by
  rw [length_sample inside]
  exact sampleSize_pos nonempty

include nonempty in
theorem length_sample_pos {column : String × Nat} (member : column ∈ t.columns.zipIdx) :
    0 < (sample t column.2).length :=
  length_sample_pos_of_lt nonempty (inside_of_mem member)

theorem length_sample_le (t : Table) (position : Nat) : (sample t position).length ≤ sampledRows :=
  List.length_take_le _ _

include nonempty in
theorem terms_bounds {term : Nat} (member : term ∈ terms t) :
    80 * unitsPerOne ≤ term ∧ term ≤ 250 * unitsPerOne := by
  rcases List.mem_append.1 member with columns | index
  · obtain ⟨column, inTable, rfl⟩ := List.mem_map.1 columns
    have some := length_sample_pos nonempty inTable
    exact ⟨le_columnUnits _ some, columnUnits_le _ some⟩
  · rw [List.mem_singleton] at index
    rw [index]
    exact ⟨Nat.le_refl _, indexColumn_le⟩

include nonempty in
theorem columnTerms_le : ∀ width ∈ columnTerms t, width ≤ 250 * unitsPerOne := fun _ member =>
  (terms_bounds nonempty (List.mem_append_left _ member)).2

include nonempty in
theorem counts_columns : List.Forall₂ Counts (columns t) (columnTerms t) := by
  rw [columns, columnTerms, List.forall₂_map_left_iff, List.forall₂_map_right_iff, List.forall₂_same]
  intro column member
  exact counts_ofColumn _ (length_sample_pos nonempty member) (length_sample_le t _)

include nonempty in
theorem counts_total : Counts (total t) (runningUnits (terms t)) := by
  have small := columnTerms_le nonempty
  have index : Counts indexColumn (80 * unitsPerOne) := Counts.ofNat (n := 80) (by decide)
  have sum := Counts.sum (counts_columns nonempty) small
  have finite : nearestUnits (80 * unitsPerOne + runningUnits (columnTerms t)) 1 < unitsLimit := by
    have bound := nearestUnits_le_ceiling (runningUnits_le_ceiling small) indexColumn_le
    have range := ceiling_lt_unitsLimit
    rw [Nat.add_comm]
    omega
  have last : runningUnits (terms t) =
      nearestUnits (80 * unitsPerOne + runningUnits (columnTerms t)) 1 := by
    rw [terms, runningUnits_append, Nat.add_comm]
  rw [last]
  exact index.add sum finite

include nonempty in
theorem toNat_estimate :
    (estimate t).toNat = min (runningUnits (terms t) / unitsPerOne) 0xFFFFFFFF := by
  rw [estimate, nonempty, if_neg Bool.false_ne_true]
  exact (counts_total nonempty).toUInt32

include nonempty in
/-- An estimate does not fall behind the least width of its columns, however they are rounded. -/
theorem le_toNat_estimate : min (80 + 80 * t.columns.length) 0xFFFFFFFF ≤ (estimate t).toNat := by
  have least : 80 * min (terms t).length 0x400000000000 * unitsPerOne ≤ runningUnits (terms t) :=
    le_runningUnits (fun term member => (terms_bounds nonempty member).1) (by decide)
  have whole := (Nat.le_div_iff_mul_le unitsPerOne_pos).2 least
  rw [length_terms] at whole
  rw [toNat_estimate nonempty]
  omega

include nonempty in
theorem toNat_estimate_le : (estimate t).toNat ≤ min (80 + 250 * t.columns.length) 0xFFFFFFFF := by
  rw [toNat_estimate nonempty]
  rcases Nat.lt_or_ge (250 * t.columns.length + 80) (2 ^ 53) with few | many
  · have columns : runningUnits (columnTerms t) ≤ 250 * t.columns.length * unitsPerOne := by
      rw [← length_columnTerms]
      exact runningUnits_le (columnTerms_le nonempty) (by rw [length_columnTerms]; omega)
    have total : runningUnits (terms t) ≤ (250 * t.columns.length + 80) * unitsPerOne := by
      rw [terms, runningUnits_append]
      apply nearestUnits_le (representable_whole few) Nat.one_pos
      rw [Nat.mul_one, Nat.add_mul]
      exact Nat.add_le_add_right columns _
    have whole := Nat.div_le_of_le_mul (Nat.mul_comm _ unitsPerOne ▸ total)
    omega
  · omega

end Estimate

end PagedReport.Width
