import Mathlib.Algebra.Order.BigOperators.Group.List
import Mathlib.Algebra.Order.Floor.Semifield
import Mathlib.Data.Rat.Floor
import Mathlib.Tactic.FieldSimp
import Mathlib.Tactic.GCongr
import Mathlib.Tactic.NormNum
import Mathlib.Tactic.Ring
import PagedReport.Proofs.Width.Counted

/-! How far an estimate is from the exact width of its table. All exact widths of one table are quotients
by the number of its sampled rows, so a total that is not whole keeps a tenth from every whole number,
and the drift of the sum stays below that tenth up to two and a half million columns. Until then only a
total that is whole can lose a unit, to a sum that ends just below it. -/
namespace PagedReport.Width

open Binary64

/-- The exact width of a column: its header or the mean of its cells, from 80 to 250. -/
def exactColumn (header : String) (cells : List Cell) : ℚ :=
  min 250 (max (max (headerWidth header) ((cells.map cellWidth).sum / cells.length)) 80)

def exactTotal (t : Table) : ℚ :=
  80 + (t.columns.zipIdx.map fun column => exactColumn column.1 (sample t column.2)).sum

section Column

variable (header : String) {cells : List Cell} (nonempty : 0 < cells.length)

include nonempty in
theorem exactColumn_eq : exactColumn header cells = columnParts header cells / cells.length := by
  have positive : (0 : ℚ) < cells.length := by exact_mod_cast nonempty
  have whole (n : ℚ) : n = n * cells.length / cells.length := by field_simp
  rw [exactColumn, columnParts, whole 250, whole 80, whole (headerWidth header),
    max_div_div_right positive.le, max_div_div_right positive.le, min_div_div_right positive.le]
  push_cast
  rfl

theorem exactColumn_bounds (cells : List Cell) :
    80 ≤ exactColumn header cells ∧ exactColumn header cells ≤ 250 := by
  constructor
  · exact le_min (by norm_num) (le_max_right _ _)
  · exact min_le_left _ _

include nonempty in
theorem columnUnits_error :
    |amount (columnUnits header cells) - exactColumn header cells| ≤ 250 / 2 ^ 53 := by
  have bounds := exactColumn_bounds header cells
  have least : cells.length ≤ columnParts header cells := by
    have widest : 80 * cells.length ≤ columnParts header cells := le_columnParts header
    omega
  have near := amount_nearestUnits_div nonempty least
  rw [exactColumn_eq header nonempty] at bounds ⊢
  rw [columnUnits]
  calc |amount (nearestUnits (columnParts header cells * unitsPerOne) cells.length) -
        columnParts header cells / cells.length|
      ≤ (columnParts header cells / cells.length : ℚ) / 2 ^ 53 := near
    _ ≤ 250 / 2 ^ 53 := by linarith

end Column

theorem sum_map_div {α : Type} (f : α → Nat) (den : ℚ) (xs : List α) :
    (xs.map fun x => (f x : ℚ) / den).sum = (xs.map f).sum / den := by
  induction xs with
  | nil => simp
  | cons x xs ih =>
    rw [List.map_cons, List.sum_cons, ih, List.map_cons, List.sum_cons, Nat.cast_add, add_div]

theorem abs_sum_sub_sum_le {α : Type} {f g : α → ℚ} {error : ℚ} (xs : List α)
    (each : ∀ x ∈ xs, |f x - g x| ≤ error) :
    |(xs.map f).sum - (xs.map g).sum| ≤ xs.length * error := by
  induction xs with
  | nil => simp
  | cons x xs ih =>
    have first := each x (by simp)
    have rest := ih fun y member => each y (by simp [member])
    rw [List.map_cons, List.map_cons, List.sum_cons, List.sum_cons, List.length_cons]
    rw [abs_le] at first rest ⊢
    push_cast
    constructor <;> linarith

section Total

variable {t : Table} (nonempty : t.isEmpty = false)

include nonempty in
theorem terms_error :
    |((terms t).map amount).sum - exactTotal t| ≤ t.columns.length * (250 / 2 ^ 53) := by
  have columns := abs_sum_sub_sum_le t.columns.zipIdx
    fun column member => columnUnits_error column.1 (length_sample_pos nonempty member)
  have index : amount (80 * unitsPerOne) = 80 := amount_whole 80
  rw [List.length_zipIdx] at columns
  rw [terms, columnTerms, exactTotal, List.map_append, List.sum_append, List.map_map, List.map_singleton,
    List.sum_singleton, index]
  have split (a b : ℚ) : a + 80 - (80 + b) = a - b := by ring
  rw [split]
  exact columns

include nonempty in
/-- The drift of an estimate before it is cut to a whole number. -/
theorem runningUnits_terms_error (few : 250 * (t.columns.length + 1) < 2 ^ 53) :
    |amount (runningUnits (terms t)) - exactTotal t| ≤
      125 * (t.columns.length + 3) ^ 2 / 2 ^ 53 := by
  have each : ∀ term ∈ terms t, term ≤ 250 * unitsPerOne := fun term member =>
    (terms_bounds nonempty member).2
  have running := runningUnits_error each (by rwa [length_terms])
  have columns := terms_error nonempty
  rw [length_terms] at running
  push_cast at running
  have count : (0 : ℚ) ≤ t.columns.length := Nat.cast_nonneg _
  rw [abs_le] at running columns ⊢
  constructor <;> linarith

include nonempty in
/-- The number of sampled rows is a denominator of the exact total. -/
theorem exists_parts : ∃ parts : Nat, exactTotal t = parts / sampleSize t := by
  have positive : (0 : ℚ) < sampleSize t := by exact_mod_cast sampleSize_pos nonempty
  have columns : t.columns.zipIdx.map (fun column => exactColumn column.1 (sample t column.2)) =
      t.columns.zipIdx.map fun column =>
        (columnParts column.1 (sample t column.2) : ℚ) / sampleSize t := by
    apply List.map_congr_left
    intro column member
    rw [exactColumn_eq _ (length_sample_pos nonempty member), length_sample (inside_of_mem member)]
  refine ⟨80 * sampleSize t +
    (t.columns.zipIdx.map fun column => columnParts column.1 (sample t column.2)).sum, ?_⟩
  rw [exactTotal, columns, sum_map_div]
  push_cast
  field_simp

theorem le_exactTotal (t : Table) : 80 * (t.columns.length + 1) ≤ exactTotal t := by
  let widths := t.columns.zipIdx.map fun column => exactColumn column.1 (sample t column.2)
  have least := List.card_nsmul_le_sum widths 80 (by
    intro width member
    obtain ⟨column, _, rfl⟩ := List.mem_map.1 member
    exact (exactColumn_bounds _ _).1)
  rw [List.length_map, List.length_zipIdx, nsmul_eq_mul] at least
  rw [exactTotal]
  linarith

/-- From so many columns on, both widths are beyond 32 bits. -/
def columnLimit : Nat := 53687091

include nonempty in
theorem estimate_of_many (many : columnLimit ≤ t.columns.length) :
    (estimate t).toNat = 0xFFFFFFFF ∧ 0xFFFFFFFF ≤ ⌊exactTotal t⌋₊ := by
  rw [columnLimit] at many
  constructor
  · have least := le_toNat_estimate nonempty
    have bits := (estimate t).toNat_lt
    omega
  · have least := le_exactTotal t
    have columns : (53687091 : ℚ) ≤ t.columns.length := by exact_mod_cast many
    apply Nat.le_floor
    push_cast
    linarith

theorem floor_amount (units : Nat) : ⌊amount units⌋₊ = units / unitsPerOne :=
  Nat.floor_div_eq_div units unitsPerOne

theorem amount_nonneg (units : Nat) : 0 ≤ amount units :=
  div_nonneg (Nat.cast_nonneg _) (Nat.cast_nonneg _)

theorem exactTotal_nonneg (t : Table) : 0 ≤ exactTotal t := by
  have least := le_exactTotal t
  have count : (0 : ℚ) ≤ t.columns.length := Nat.cast_nonneg _
  linarith

theorem floor_le_add {a b : ℚ} (nonneg : 0 ≤ b) (le : a ≤ b + 41) : ⌊a⌋₊ ≤ ⌊b⌋₊ + 41 := by
  rw [← Nat.floor_add_ofNat nonneg]
  exact Nat.floor_mono le

theorem floor_of_near_whole {near : ℚ} {whole : Nat} (nonneg : 0 ≤ near) (close : |near - whole| < 1) :
    ⌊near⌋₊ = whole ∨ ⌊near⌋₊ + 1 = whole := by
  rw [abs_lt] at close
  have least := Nat.floor_le nonneg
  have most := Nat.lt_floor_add_one near
  have above : (⌊near⌋₊ : ℚ) < whole + 1 := by linarith
  have below : (whole : ℚ) < ⌊near⌋₊ + 2 := by linarith
  norm_cast at above below
  omega

theorem floor_of_near_between {near exact part : ℚ} {whole : Nat} (least : whole + part ≤ exact)
    (most : exact + part ≤ whole + 1) (close : |near - exact| < part) : ⌊near⌋₊ = whole := by
  rw [abs_lt] at close
  have above : (whole : ℚ) ≤ near := by linarith
  have below : near < whole + 1 := by linarith
  exact (Nat.floor_eq_iff (le_trans (Nat.cast_nonneg _) above)).2 ⟨above, below⟩

/-- A number less than a part away from a quotient of parts has its whole part, unless the quotient is
whole. -/
theorem floor_of_near {near : ℚ} {parts den : Nat} (positive : 0 < den) (nonneg : 0 ≤ near)
    (close : |near - (parts / den : ℚ)| < 1 / den) :
    ⌊near⌋₊ = parts / den ∨ ((parts / den : ℚ) = (parts / den : Nat) ∧ ⌊near⌋₊ + 1 = parts / den) := by
  have denPositive : (0 : ℚ) < den := by exact_mod_cast positive
  have quotient : (parts / den : ℚ) = (parts / den : Nat) + (parts % den : Nat) / den := by
    have division : ((parts / den : Nat) * den + (parts % den : Nat) : ℚ) = parts := by
      exact_mod_cast Nat.div_add_mod' parts den
    rw [← division, add_div, mul_div_cancel_right₀ _ denPositive.ne']
  rcases Nat.eq_zero_or_pos (parts % den) with whole | rest
  · rw [whole, Nat.cast_zero, zero_div, add_zero] at quotient
    rw [quotient] at close ⊢
    have part : (1 : ℚ) / den ≤ 1 := by
      rw [div_le_one denPositive]
      exact_mod_cast positive
    rcases floor_of_near_whole nonneg (lt_of_lt_of_le close part) with same | before
    · exact .inl same
    · exact .inr ⟨rfl, before⟩
  · left
    have less : parts % den + 1 ≤ den := Nat.mod_lt parts positive
    apply floor_of_near_between _ _ close
    · rw [quotient]
      gcongr
      exact_mod_cast rest
    · rw [quotient, add_assoc, ← add_div]
      gcongr
      rw [div_le_one denPositive]
      exact_mod_cast less

include nonempty in
/-- With few columns, only a total that is whole can lose a unit. -/
theorem estimate_of_few (few : t.columns.length ≤ 2500000) :
    (estimate t).toNat = ⌊exactTotal t⌋₊ ∨
      (exactTotal t = ⌊exactTotal t⌋₊ ∧ (estimate t).toNat + 1 = ⌊exactTotal t⌋₊) := by
  obtain ⟨parts, exact⟩ := exists_parts nonempty
  have positive := sampleSize_pos nonempty
  have columns : (t.columns.length : ℚ) ≤ 2500000 := by exact_mod_cast few
  have drift := runningUnits_terms_error nonempty (by omega)
  have tenth : (1 / 10 : ℚ) ≤ 1 / sampleSize t := by
    have ten : (sampleSize t : ℚ) ≤ 10 := by exact_mod_cast sampleSize_le t
    have some : (0 : ℚ) < sampleSize t := by exact_mod_cast positive
    exact one_div_le_one_div_of_le some ten
  have close : |amount (runningUnits (terms t)) - exactTotal t| < 1 / sampleSize t := by
    calc |amount (runningUnits (terms t)) - exactTotal t|
        ≤ 125 * (t.columns.length + 3) ^ 2 / 2 ^ 53 := drift
      _ ≤ 125 * (2500000 + 3) ^ 2 / 2 ^ 53 := by gcongr
      _ < 1 / 10 := by norm_num
      _ ≤ 1 / sampleSize t := tenth
  have small : (estimate t).toNat = ⌊amount (runningUnits (terms t))⌋₊ := by
    have most := runningUnits_le (fun term member => (terms_bounds nonempty member).2)
      (by rw [length_terms]; omega)
    have whole := Nat.div_le_of_le_mul (Nat.mul_comm _ unitsPerOne ▸ most)
    rw [length_terms] at whole
    rw [toNat_estimate nonempty, floor_amount]
    omega
  rw [exact] at close ⊢
  rw [small, Nat.floor_div_eq_div]
  exact floor_of_near positive (amount_nonneg _) close

include nonempty in
/-- However many columns there are, what the drift loses or gains is bounded. -/
theorem estimate_near :
    (estimate t).toNat ≤ min ⌊exactTotal t⌋₊ 0xFFFFFFFF + 41 ∧
      min ⌊exactTotal t⌋₊ 0xFFFFFFFF ≤ (estimate t).toNat + 41 := by
  rcases Nat.lt_or_ge t.columns.length columnLimit with few | many
  · rw [columnLimit] at few
    have columns : (t.columns.length : ℚ) ≤ 53687090 := by exact_mod_cast Nat.le_of_lt_succ few
    have drift := runningUnits_terms_error nonempty (by omega)
    have close : |amount (runningUnits (terms t)) - exactTotal t| ≤ 41 := by
      calc |amount (runningUnits (terms t)) - exactTotal t|
          ≤ 125 * (t.columns.length + 3) ^ 2 / 2 ^ 53 := drift
        _ ≤ 125 * (53687090 + 3) ^ 2 / 2 ^ 53 := by gcongr
        _ ≤ 41 := by norm_num
    have above := floor_le_add (exactTotal_nonneg t) (sub_le_iff_le_add'.1 (abs_le.1 close).2)
    have below := floor_le_add (amount_nonneg _) (neg_le_sub_iff_le_add.1 (abs_le.1 close).1)
    rw [floor_amount] at above below
    rw [toNat_estimate nonempty]
    omega
  · obtain ⟨full, beyond⟩ := estimate_of_many nonempty many
    omega

theorem eighths_le {header : String} {cells : List Cell} {eighths : Nat}
    (exact : exactColumn header cells = eighths / 8) : eighths ≤ 2000 := by
  have bounds := exactColumn_bounds header cells
  rw [exact] at bounds
  have most : (eighths : ℚ) ≤ 2000 := by linarith
  exact_mod_cast most

/-- On a grid of eighths a column is not rounded. -/
theorem columnUnits_of_eighths {header : String} {cells : List Cell} {eighths part : Nat}
    (some : 0 < cells.length) (exact : exactColumn header cells = eighths / 8)
    (parts : unitsPerOne = 256 * part)
    (fits : ∀ significand < 2 ^ 53, Representable (significand * part)) :
    columnUnits header cells = 32 * eighths * part := by
  have positive : (0 : ℚ) < cells.length := by exact_mod_cast some
  have small := eighths_le exact
  have scaled : columnParts header cells * 8 = eighths * cells.length := by
    rw [exactColumn_eq header some, div_eq_div_iff positive.ne' (by norm_num)] at exact
    exact_mod_cast exact
  have onGrid : columnParts header cells * unitsPerOne = cells.length * (32 * eighths * part) := by
    calc columnParts header cells * unitsPerOne
        = 32 * (columnParts header cells * 8) * part := by rw [parts]; ring
      _ = cells.length * (32 * eighths * part) := by rw [scaled]; ring
  have quotient := nearestUnits_mul (32 * eighths * part) 1 some
  rw [Nat.one_mul, nearestUnits_self (fits _ (by omega)), Nat.mul_comm] at quotient
  rwa [columnUnits, onGrid]

include nonempty in
/-- On a grid of eighths nothing is rounded, whatever the number of columns. -/
theorem estimate_of_eighths (exact : ∀ column ∈ t.columns.zipIdx, ∃ eighths : Nat,
      exactColumn column.1 (sample t column.2) = eighths / 8) :
    (estimate t).toNat = min ⌊exactTotal t⌋₊ 0xFFFFFFFF := by
  rcases Nat.lt_or_ge t.columns.length columnLimit with few | many
  · rw [columnLimit] at few
    obtain ⟨part, parts, fits⟩ := exists_part
    have positive : 0 < part := Nat.pos_of_mul_pos_left (parts ▸ unitsPerOne_pos)
    choose! eighths exact using exact
    let widths := t.columns.zipIdx.map fun column => 32 * eighths column
    have onGrid : terms t = (widths ++ [20480]).map (· * part) := by
      have columns : t.columns.zipIdx.map (fun column => columnUnits column.1 (sample t column.2)) =
          widths.map (· * part) := by
        rw [List.map_map]
        apply List.map_congr_left
        intro column member
        exact columnUnits_of_eighths (length_sample_pos nonempty member) (exact column member) parts fits
      have index : 80 * unitsPerOne = 20480 * part := by omega
      rw [terms, columnTerms, columns, index, List.map_append, List.map_singleton]
    have total : exactTotal t = (widths ++ [20480]).sum / (256 : Nat) := by
      have columns : t.columns.zipIdx.map (fun column => exactColumn column.1 (sample t column.2)) =
          t.columns.zipIdx.map fun column => ((32 * eighths column : Nat) : ℚ) / 256 := by
        apply List.map_congr_left
        intro column member
        rw [exact column member]
        push_cast
        ring
      rw [exactTotal, columns, sum_map_div, List.sum_append, List.sum_singleton]
      push_cast
      ring
    have small : (widths ++ [20480]).sum < 2 ^ 53 := by
      have most := List.sum_le_card_nsmul widths 64000 (by
        intro width member
        obtain ⟨column, inTable, rfl⟩ := List.mem_map.1 member
        have := eighths_le (exact column inTable)
        omega)
      rw [List.length_map, List.length_zipIdx, nsmul_eq_mul, Nat.cast_id] at most
      rw [List.sum_append, List.sum_singleton]
      omega
    rw [toNat_estimate nonempty, onGrid, runningUnits_exact fits _ small, parts,
      Nat.mul_div_mul_right _ _ positive, total, Nat.floor_div_eq_div]
  · obtain ⟨full, beyond⟩ := estimate_of_many nonempty many
    omega

theorem exists_eighths (header : String) {cells : List Cell} (some : 0 < cells.length)
    (divides : cells.length ∣ 8) : ∃ eighths : Nat, exactColumn header cells = eighths / 8 := by
  obtain ⟨times, eight⟩ := divides
  have positive : (0 : ℚ) < cells.length := by exact_mod_cast some
  have eightRat : (8 : ℚ) = cells.length * times := by exact_mod_cast eight
  refine ⟨columnParts header cells * times, ?_⟩
  rw [exactColumn_eq header some, div_eq_div_iff positive.ne' (by norm_num), eightRat]
  push_cast
  ring

/-- An estimate is the whole part of the exact width, cut to 32 bits, wherever the means of the sampled
cells are exact. Elsewhere a total that is whole may lose a unit, and only after two and a half million
columns can the drift of the sum reach further. -/
theorem estimate_near_exact {t : Table} (nonempty : t.isEmpty = false) :
    let exact := exactTotal t
    let whole := ⌊exact⌋₊
    let width := (estimate t).toNat
    (min 10 t.rows.length ∣ 8 → width = min whole 0xFFFFFFFF) ∧
    ((∀ column ∈ t.columns.zipIdx, ∃ eighths : Nat,
      exactColumn column.1 (sample t column.2) = eighths / 8) → width = min whole 0xFFFFFFFF) ∧
    (t.columns.length ≤ 2500000 → width = whole ∨ (exact = whole ∧ width + 1 = whole)) ∧
    width ≤ min whole 0xFFFFFFFF + 41 ∧ min whole 0xFFFFFFFF ≤ width + 41 := by
  intro exact whole width
  refine ⟨?_, ?_, ?_, estimate_near nonempty⟩
  · intro divides
    apply estimate_of_eighths nonempty
    intro column member
    apply exists_eighths _ (length_sample_pos nonempty member)
    rw [length_sample (inside_of_mem member)]
    exact divides
  · intro eighths
    exact estimate_of_eighths nonempty eighths
  · intro few
    exact estimate_of_few nonempty few

end Total

/-- Two rows, of which the exact mean is a whole number. -/
def averaged : Table := (Table.empty ["h"]).grow [⟨none, [letters 20]⟩, ⟨none, [letters 30]⟩]

theorem estimate_averaged : averaged.isEmpty = false ∧ min 10 averaged.rows.length ∣ 8 ∧
    averaged.columns.length ≤ 2500000 ∧ estimate averaged = 296 ∧
    (estimate averaged).toNat = min ⌊exactTotal averaged⌋₊ 0xFFFFFFFF := by
  have nonempty : averaged.isEmpty = false := by decide
  have rows : min 10 averaged.rows.length ∣ 8 := by decide
  refine ⟨nonempty, rows, by decide, by decide +kernel, ?_⟩
  exact (estimate_near_exact nonempty).1 rows

/-- Three columns whose exact widths, two of them with a third, add up to 424 with the index column. -/
def drifting : Table := (Table.empty ["a", "b", "c"]).grow
  [⟨none, [.null, letters 20, letters 8]⟩, ⟨none, [.null, letters 20, letters 9]⟩,
    ⟨none, [.null, letters 21, letters 9]⟩]

theorem exactTotal_drifting : exactTotal drifting = 424 := by
  have first : (sample drifting 0).map cellWidth = [30, 30, 30] := by decide
  have second : (sample drifting 1).map cellWidth = [176, 176, 184] := by decide
  have third : (sample drifting 2).map cellWidth = [80, 88, 88] := by decide
  have rows (position : Nat) (inside : position < 3) : (sample drifting position).length = 3 :=
    length_sample inside
  have names : drifting.columns.zipIdx = [("a", 0), ("b", 1), ("c", 2)] := by decide
  have headers : headerWidth "a" = 28 ∧ headerWidth "b" = 28 ∧ headerWidth "c" = 28 := by decide
  simp only [exactTotal, names, List.map_cons, List.map_nil, exactColumn, headers, first, second, third,
    rows 0 (by decide), rows 1 (by decide), rows 2 (by decide)]
  norm_num

theorem estimate_not_whole_part : ¬ ∀ t : Table, t.isEmpty = false →
    (estimate t).toNat = min ⌊exactTotal t⌋₊ 0xFFFFFFFF := by
  intro always
  have claimed := always drifting (by decide)
  have short : (estimate drifting).toNat = 423 := by decide +kernel
  rw [short, exactTotal_drifting] at claimed
  norm_num at claimed

end PagedReport.Width
