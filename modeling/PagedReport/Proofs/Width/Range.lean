import Mathlib.Algebra.Group.Nat.Defs
import PagedReport.Proofs.Width.Counted

/-! The range of an estimate, and of all that comes up on the way to it. A column is between 80 and 250
wide, and neither the rounded sums nor the cut to 32 bits leave what that allows. `Arises` lists the
values of the computation from the first character to the total, and `Steps` how each comes from those
before it; as every sample has a cell, a mean is always a quotient by a count, and every value is a
finite number. -/
namespace PagedReport.Width

open Binary64

/-- The values that come up while the width of a table is estimated. -/
inductive Arises (t : Table) : Binary64 → Prop
  | headerLength : header ∈ t.columns → Arises t (.ofNat header.length)
  | headerText : header ∈ t.columns → Arises t (.ofNat header.length * perCharacter)
  | headerPadded : header ∈ t.columns → Arises t (ofHeader header)
  | cellLength : cell ∈ sample t position → cell.shown.length ≤ longestMeasured →
      Arises t (.ofNat cell.shown.length)
  | cellText : cell ∈ sample t position → cell.shown.length ≤ longestMeasured →
      Arises t (.ofNat cell.shown.length * perCharacter)
  | cellPadded : cell ∈ sample t position → Arises t (ofCell cell)
  | cellSum (count : Nat) : position < t.columns.length →
      Arises t (Binary64.sum (((sample t position).take count).map ofCell))
  | cellCount : position < t.columns.length → Arises t (.ofNat (sample t position).length)
  | cellMean : position < t.columns.length → Arises t (mean (sample t position))
  | content : column ∈ t.columns.zipIdx →
      Arises t ((ofHeader column.1).larger (mean (sample t column.2)))
  | raised : column ∈ t.columns.zipIdx →
      Arises t (((ofHeader column.1).larger (mean (sample t column.2))).larger leastColumn)
  | capped : column ∈ t.columns.zipIdx → Arises t (ofColumn column.1 (sample t column.2))
  | columnSum (count : Nat) : Arises t (Binary64.sum ((columns t).take count))
  | withIndex : Arises t (total t)

/-- How an estimate is computed: each step takes constants and values that have come up before. -/
structure Steps (t : Table) : Prop where
  headerPadded : ∀ header ∈ t.columns,
    ofHeader header = ofNat header.length * perCharacter + headerPadding
  cellPadded : ∀ position, ∀ cell ∈ sample t position, ofCell cell =
    if cell.isAbsent then ofAbsent
    else if cell.shown.length ≤ longestMeasured then ofNat cell.shown.length * perCharacter + cellPadding
    else ofLongCell
  cellSum : ∀ position count (inside : count < (sample t position).length),
    Binary64.sum (((sample t position).take (count + 1)).map ofCell) =
      Binary64.sum (((sample t position).take count).map ofCell) + ofCell (sample t position)[count]
  cellMean : ∀ position < t.columns.length, mean (sample t position) =
    Binary64.sum ((sample t position).map ofCell) / ofNat (sample t position).length
  capped : ∀ column ∈ t.columns.zipIdx, ofColumn column.1 (sample t column.2) =
    (((ofHeader column.1).larger (mean (sample t column.2))).larger leastColumn).smaller greatestColumn
  widths : columns t = t.columns.zipIdx.map fun column => ofColumn column.1 (sample t column.2)
  columnSum : ∀ count (inside : count < (columns t).length),
    Binary64.sum ((columns t).take (count + 1)) =
      Binary64.sum ((columns t).take count) + (columns t)[count]
  withIndex : total t = indexColumn + Binary64.sum (columns t)

theorem sum_take_succ (xs : List Binary64) {count : Nat} (inside : count < xs.length) :
    Binary64.sum (xs.take (count + 1)) = Binary64.sum (xs.take count) + xs[count] := by
  rw [List.take_succ_eq_append_getElem inside, Binary64.sum, List.foldl_append]
  rfl

theorem steps {t : Table} (nonempty : t.isEmpty = false) : Steps t where
  headerPadded _ _ := rfl
  cellPadded position cell _ := by
    by_cases long : longestMeasured < cell.shown.length
    · simp only [ofCell, if_pos long, if_neg (Nat.not_le.2 long)]
    · simp only [ofCell, if_neg long, if_pos (Nat.not_lt.1 long)]
  cellSum position count inside := by
    have step := sum_take_succ ((sample t position).map ofCell) (by rwa [List.length_map])
    rwa [← List.map_take, ← List.map_take, List.getElem_map] at step
  cellMean position inside := mean_of_nonempty (length_sample_pos_of_lt nonempty inside)
  capped _ _ := rfl
  widths := rfl
  columnSum _ inside := sum_take_succ _ inside
  withIndex := rfl

section Header

variable {header : String} (counted : header.length < 2 ^ 64)

include counted

theorem atMost_length : AtMost (2 ^ 64 * unitsPerOne) (ofNat header.length) := by
  apply AtMost.ofUnits (representable_two_pow (by decide)) Nat.one_pos
  rw [Nat.mul_one]
  exact Nat.mul_le_mul_right unitsPerOne (Nat.le_of_lt counted)

theorem atMost_text : AtMost (2 ^ 67 * unitsPerOne) (ofNat header.length * perCharacter) := by
  have eight : AtMost (8 * unitsPerOne) perCharacter := (Counts.ofNat (n := 8) (by decide)).atMost
  have scale : 2 ^ 64 * 8 = 2 ^ 67 := by decide
  apply (atMost_length counted).mul eight (representable_two_pow (by decide))
  rw [Nat.mul_mul_mul_comm, ← Nat.mul_assoc, scale]

theorem atMost_ofHeader : AtMost (2 ^ 68 * unitsPerOne) (ofHeader header) := by
  have twenty : AtMost (20 * unitsPerOne) headerPadding := (Counts.ofNat (n := 20) (by decide)).atMost
  apply (atMost_text counted).add twenty (representable_two_pow (by decide))
  rw [← Nat.add_mul]
  exact Nat.mul_le_mul_right unitsPerOne (by decide)

end Header

theorem counts_cellText {length : Nat} (short : length ≤ longestMeasured) :
    Counts (ofNat length * perCharacter) (length * 8 * unitsPerOne) := by
  rw [longestMeasured] at short
  have product : ofNat length * perCharacter = ofNat (length * 8) :=
    ofNat_mul (b := 8) (by omega) (by decide)
  rw [product]
  exact .ofNat (by omega)

theorem counts_ofCell (cell : Cell) : Counts (ofCell cell) (cellWidth cell * unitsPerOne) := by
  have most := cellWidth_le cell
  rw [ofCell_eq_ofNat]
  exact .ofNat (by omega)

theorem counts_cellSum {cells : List Cell} (few : cells.length ≤ sampledRows) :
    Counts (Binary64.sum (cells.map ofCell)) ((cells.map cellWidth).sum * unitsPerOne) := by
  rw [sum_map_ofCell few]
  exact .ofNat (sum_cellWidth_lt few)

variable {t : Table} (nonempty : t.isEmpty = false)

include nonempty in
theorem counts_columnSum (count : Nat) : Counts (Binary64.sum ((columns t).take count))
    (runningUnits ((columnTerms t).take count)) := by
  apply Counts.sum (List.forall₂_take count (counts_columns nonempty))
  intro width member
  exact columnTerms_le nonempty width (List.mem_of_mem_take member)

include nonempty in
/-- Everything that comes up is a finite number, as far as headers have lengths of 64 bits. -/
theorem Arises.finite {x : Binary64} (arises : Arises t x)
    (headers : ∀ header ∈ t.columns, header.length < 2 ^ 64) : ∃ value, x = .finite value := by
  have few := length_sample_le t
  have largerContent {column : String × Nat} (member : column ∈ t.columns.zipIdx) :
      AtMost _ ((ofHeader column.1).larger (mean (sample t column.2))) :=
    (atMost_ofHeader (headers _ (List.fst_mem_of_mem_zipIdx member))).larger
      (counts_mean (length_sample_pos nonempty member) (few _)).atMost
  cases arises with
  | headerLength member => exact (atMost_length (headers _ member)).finite
  | headerText member => exact (atMost_text (headers _ member)).finite
  | headerPadded member => exact (atMost_ofHeader (headers _ member)).finite
  | cellLength _ short =>
    rw [longestMeasured] at short
    exact (Counts.ofNat (by omega)).atMost.finite
  | cellText _ short => exact (counts_cellText short).atMost.finite
  | cellPadded => exact (counts_ofCell _).atMost.finite
  | @cellSum position count inside =>
    have fewer : ((sample t position).take count).length ≤ sampledRows :=
      Nat.le_trans (List.length_take_le' _ _) (few position)
    exact (counts_cellSum fewer).atMost.finite
  | @cellCount position inside =>
    have ten : sampledRows = 10 := rfl
    have most := few position
    exact (Counts.ofNat (by omega)).atMost.finite
  | cellMean inside => exact (counts_mean (length_sample_pos_of_lt nonempty inside) (few _)).atMost.finite
  | content member => exact (largerContent member).finite
  | raised member =>
    have least : Counts leastColumn (80 * unitsPerOne) := Counts.ofNat (n := 80) (by decide)
    exact ((largerContent member).larger least.atMost).finite
  | capped member =>
    exact (counts_ofColumn _ (length_sample_pos nonempty member) (few _)).atMost.finite
  | columnSum count => exact (counts_columnSum nonempty count).atMost.finite
  | withIndex => exact (counts_total nonempty).atMost.finite

/-- The least and the greatest width of a column bound every estimate, up to the end of 32 bits, where
it stays. The mean of a column is a quotient of one to ten cells, whose count is a divisor that is not
zero, and all that comes up while headers have lengths of 64 bits is finite: every operand and every
result of the steps. The total is finite whatever the headers are, and its whole part is the estimate. -/
theorem estimate_range {t : Table} (nonempty : t.isEmpty = false) :
    let count := t.columns.length
    let width := (estimate t).toNat
    (min (80 + 80 * count) 0xFFFFFFFF ≤ width ∧ width ≤ min (80 + 250 * count) 0xFFFFFFFF) ∧
    (∀ position < count,
      (1 ≤ (sample t position).length ∧ (sample t position).length ≤ 10) ∧
      mean (sample t position) =
        Binary64.sum ((sample t position).map ofCell) / Binary64.ofNat (sample t position).length ∧
      ∃ divisor : Binary64.Finite,
        Binary64.ofNat (sample t position).length = .finite divisor ∧ divisor.units ≠ 0) ∧
    ((∀ header ∈ t.columns, header.length < 2 ^ 64) → ∀ x, Arises t x → ∃ value, x = .finite value) ∧
    Steps t ∧
    ∃ value : Binary64.Finite, total t = .finite value ∧ value.negative = false ∧
      width = min value.wholePart 0xFFFFFFFF := by
  intro count width
  refine ⟨⟨le_toNat_estimate nonempty, toNat_estimate_le nonempty⟩, ?_, ?_, steps nonempty, ?_⟩
  · intro position inside
    have some := length_sample_pos_of_lt nonempty inside
    have few : (sample t position).length ≤ 10 := length_sample_le t position
    obtain ⟨fits, divisor⟩ := Counts.ofNat (n := (sample t position).length) (by omega)
    exact ⟨⟨some, few⟩, mean_of_nonempty some, _, divisor,
      Nat.ne_of_gt (Nat.mul_pos some unitsPerOne_pos)⟩
  · intro headers x arises
    exact arises.finite nonempty headers
  · obtain ⟨fits, value⟩ := counts_total nonempty
    exact ⟨_, value, rfl, toNat_estimate nonempty⟩

/-- Two columns, the second one with a long header above a long cell and a missing one. -/
def uneven : Table := (Table.empty ["a", String.ofList (List.replicate 60 'h')]).grow
  [⟨none, [.float .nan, letters 60]⟩, ⟨none, [letters 3]⟩]

theorem estimate_range_uneven : uneven.isEmpty = false ∧
    (∀ header ∈ uneven.columns, header.length < 2 ^ 64) ∧
    (240 ≤ (estimate uneven).toNat ∧ (estimate uneven).toNat ≤ 580) ∧
    (1 ≤ (sample uneven 1).length ∧ (sample uneven 1).length ≤ 10) ∧
    ∃ value, mean (sample uneven 1) = .finite value := by
  have nonempty : uneven.isEmpty = false := by decide
  have headers : ∀ header ∈ uneven.columns, header.length < 2 ^ 64 := by decide
  obtain ⟨bounds, samples, finite, -⟩ := estimate_range nonempty
  exact ⟨nonempty, headers, bounds, (samples 1 (by decide)).1, finite headers _ (.cellMean (by decide))⟩

end PagedReport.Width
