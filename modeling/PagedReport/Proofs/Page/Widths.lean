import Mathlib.Algebra.Group.Nat.Defs
import PagedReport.Page.Choice
import PagedReport.Proofs.Binary64.Bounds
import PagedReport.Proofs.Report.DocumentText

/-! How wide the chosen page is. The width of a table in millimetres is the exact quotient by 3.78,
cut to whole millimetres (`tableWidthMm_eq`): the divisor is rounded below 3.78 by so little that no
width of 32 bits crosses a whole number. Pages grow with the table but at one place: the largest
standard page is wider than the first computed ones. Among the computed pages there is no such place
(`widthMm_custom_exact`). -/
namespace PagedReport.Geometry

open Binary64

/-- The divisor 3.78 as it is rounded: 8511803295730237 units of which one has `2^51`. -/
theorem exists_pixelsPerMm : ∃ unit fits, unitsPerOne = 2251799813685248 * unit ∧
    pixelsPerMm = .finite ⟨false, 8511803295730237 * unit, fits⟩ :=
  ⟨2 ^ 1023, representable_of_small (by decide) (by decide), by decide +kernel, by decide +kernel⟩

theorem tableWidthMm_eq (width : UInt32) :
    (tableWidthMm width).toNat = 100 * width.toNat / 378 := by
  have bits : width.toNat < 2 ^ 32 := width.toNat_lt
  obtain ⟨unit, fits, units, divisor⟩ := exists_pixelsPerMm
  have nonzero : 8511803295730237 * unit ≠ 0 := by
    have := unitsPerOne_pos
    omega
  obtain ⟨whole, quotient⟩ : ∃ whole, 100 * width.toNat / 378 = whole := ⟨_, rfl⟩
  have cut : tableWidthMm width = .ofNat (min whole 0xFFFFFFFF) := by
    rw [tableWidthMm, ofNat_eq (Nat.lt_trans bits (by decide)), divisor, finite_div_finite nonzero]
    exact toUInt32_count_div units (by decide) (by omega) (by omega) (by omega)
  rw [cut, quotient, UInt32.toNat_ofNat']
  omega

theorem toNat_max (a b : UInt32) : (max a b).toNat = max a.toNat b.toNat := by
  rw [show max a b = if a ≤ b then b else a from rfl]
  by_cases le : a ≤ b
  · rw [if_pos le, Nat.max_eq_right (UInt32.le_iff_toNat_le.1 le)]
  · rw [if_neg le, Nat.max_eq_left (Nat.le_of_not_le (mt UInt32.le_iff_toNat_le.2 le))]

theorem toNat_min (a b : UInt32) : (min a b).toNat = min a.toNat b.toNat := by
  rw [show min a b = if a ≤ b then a else b from rfl]
  by_cases le : a ≤ b
  · rw [if_pos le, Nat.min_eq_left (UInt32.le_iff_toNat_le.1 le)]
  · rw [if_neg le, Nat.min_eq_right (Nat.le_of_not_le (mt UInt32.le_iff_toNat_le.2 le))]

/-- Adding the margins stays within 32 bits. -/
theorem widthMm_custom (width : UInt32) :
    (custom width).widthMm.toNat = min (max (100 * width.toNat / 378 + 40) 420) 1682 := by
  have bits := width.toNat_lt
  have sum : (tableWidthMm width + customMarginMm).toNat = 100 * width.toNat / 378 + 40 := by
    rw [UInt32.toNat_add, tableWidthMm_eq, show customMarginMm.toNat = 40 from rfl]
    omega
  rw [custom, toNat_min, toNat_max, sum]
  rfl

/-- Which page is chosen for a width: each standard one from where the one before it ends. -/
theorem select_inv (width : UInt32) :
    let page := (select width true).value
    (width.toNat ≤ 550 ∧ page = a4Portrait) ∨
    ((550 < width.toNat ∧ width.toNat ≤ 750) ∧ page = a4Landscape) ∨
    ((750 < width.toNat ∧ width.toNat ≤ 1050) ∧ page = a3Portrait) ∨
    ((1050 < width.toNat ∧ width.toNat ≤ 1400) ∧ page = a3Landscape) ∨
    ((1400 < width.toNat ∧ width.toNat ≤ 2000) ∧ page = a2Landscape) ∨
    (2000 < width.toNat ∧ page = custom width) := by
  intro page
  have value : page = holding width := value_select width true
  rw [value]
  have found (limit : UInt32) (page : Geometry) (rest : List (UInt32 × Geometry)) :
      ((limit, page) :: rest).find? (width ≤ ·.1) =
        if width.toNat ≤ limit.toNat then some (limit, page) else rest.find? (width ≤ ·.1) := by
    rw [List.find?_cons]
    by_cases fits : width ≤ limit <;> simp [fits, ← UInt32.le_iff_toNat_le]
  unfold holding breakpoints
  simp only [found, List.find?_nil, UInt32.reduceToNat]
  by_cases upTo550 : width.toNat ≤ 550
  · exact .inl ⟨upTo550, by rw [if_pos upTo550]⟩
  rw [if_neg upTo550]
  by_cases upTo750 : width.toNat ≤ 750
  · exact .inr (.inl ⟨⟨by omega, upTo750⟩, by rw [if_pos upTo750]⟩)
  rw [if_neg upTo750]
  by_cases upTo1050 : width.toNat ≤ 1050
  · exact .inr (.inr (.inl ⟨⟨by omega, upTo1050⟩, by rw [if_pos upTo1050]⟩))
  rw [if_neg upTo1050]
  by_cases upTo1400 : width.toNat ≤ 1400
  · exact .inr (.inr (.inr (.inl ⟨⟨by omega, upTo1400⟩, by rw [if_pos upTo1400]⟩)))
  rw [if_neg upTo1400]
  by_cases upTo2000 : width.toNat ≤ 2000
  · exact .inr (.inr (.inr (.inr (.inl ⟨⟨by omega, upTo2000⟩, by rw [if_pos upTo2000]⟩))))
  · exact .inr (.inr (.inr (.inr (.inr ⟨by omega, by rw [if_neg upTo2000]⟩))))

theorem widthMm_cases (width : UInt32) :
    let page := (select width true).value
    (width.toNat ≤ 550 ∧ page.widthMm.toNat = 210) ∨
    ((550 < width.toNat ∧ width.toNat ≤ 1050) ∧ page.widthMm.toNat = 297) ∨
    ((1050 < width.toNat ∧ width.toNat ≤ 1400) ∧ page.widthMm.toNat = 420) ∨
    ((1400 < width.toNat ∧ width.toNat ≤ 2000) ∧ page.widthMm.toNat = 594) ∨
    (2000 < width.toNat ∧ page.widthMm.toNat = min (100 * width.toNat / 378 + 40) 1682) := by
  dsimp only
  have computed := widthMm_custom width
  rcases select_inv width with ⟨bound, eq⟩ | ⟨bound, eq⟩ | ⟨bound, eq⟩ | ⟨bound, eq⟩ |
    ⟨bound, eq⟩ | ⟨bound, eq⟩
  · exact .inl ⟨bound, by rw [eq]; rfl⟩
  · exact .inr (.inl ⟨by omega, by rw [eq]; rfl⟩)
  · exact .inr (.inl ⟨by omega, by rw [eq]; rfl⟩)
  · exact .inr (.inr (.inl ⟨bound, by rw [eq]; rfl⟩))
  · exact .inr (.inr (.inr (.inl ⟨bound, by rw [eq]; rfl⟩)))
  · exact .inr (.inr (.inr (.inr ⟨bound, by rw [eq]; omega⟩)))

theorem paper_select_iff (width : UInt32) :
    (select width true).value.paper = .custom ↔ 2000 < width.toNat := by
  rcases select_inv width with ⟨bound, eq⟩ | ⟨bound, eq⟩ | ⟨bound, eq⟩ | ⟨bound, eq⟩ |
    ⟨bound, eq⟩ | ⟨bound, eq⟩
  case inr.inr.inr.inr.inr => exact iff_of_true (by rw [eq]; rfl) bound
  all_goals exact iff_of_false (by rw [eq]; decide) (by omega)

/-- A computed page is exact although its divisor, 189 fiftieths, is rounded: no quotient has another
whole part for it, and the margins are added without overflow. Where a page is computed for a table, one
is computed for every wider table, and it is not narrower. -/
theorem widthMm_custom_exact (width : UInt32) :
    (tableWidthMm width).toNat = 50 * width.toNat / 189 ∧
    (tableWidthMm width).toNat + customMarginMm.toNat < UInt32.size ∧
    (custom width).widthMm.toNat = min (max (50 * width.toNat / 189 + 40) 420) 1682 ∧
    ((select width true).value.paper = .custom →
      (569 ≤ (select width true).value.widthMm ∧ (select width true).value.widthMm ≤ 1682) ∧
      ∀ wide, width ≤ wide → (select wide true).value.paper = .custom ∧
        (select width true).value.widthMm ≤ (select wide true).value.widthMm) := by
  have bits := width.toNat_lt
  have quotient : 100 * width.toNat / 378 = 50 * width.toNat / 189 := by omega
  have size : UInt32.size = 4294967296 := rfl
  have margins : customMarginMm.toNat = 40 := rfl
  refine ⟨?_, ?_, ?_, ?_⟩
  · rw [tableWidthMm_eq, quotient]
  · rw [tableWidthMm_eq, margins, size]
    omega
  · rw [widthMm_custom, quotient]
  · intro computed
    have page := widthMm_cases width
    rw [paper_select_iff] at computed
    refine ⟨?_, ?_⟩
    · simp only [UInt32.le_iff_toNat_le, UInt32.reduceToNat]
      omega
    · intro wide le
      have widePage := widthMm_cases wide
      rw [UInt32.le_iff_toNat_le] at le
      rw [paper_select_iff, UInt32.le_iff_toNat_le]
      omega

/-- 2079 pixels are 550 mm without a rest. -/
theorem widthMm_custom_exact_multiple :
    (select 2079 true).value.paper = .custom ∧ (custom 2079).widthMm.toNat = 590 ∧
      (select 2079 true).value.widthMm ≤ (select 100000 true).value.widthMm := by
  obtain ⟨-, -, exact, chosen⟩ := widthMm_custom_exact 2079
  have computed : (select 2079 true).value.paper = .custom := (paper_select_iff 2079).2 (by decide)
  exact ⟨computed, exact, ((chosen computed).2 100000 (by decide)).2⟩

theorem select_a2Landscape {width : UInt32} (above : 1400 < width.toNat) (upTo : width.toNat ≤ 2000) :
    (select width true).value = a2Landscape := by
  rcases select_inv width with ⟨bound, eq⟩ | ⟨bound, eq⟩ | ⟨bound, eq⟩ | ⟨bound, eq⟩ |
    ⟨bound, eq⟩ | ⟨bound, eq⟩
  case inr.inr.inr.inr.inl => exact eq
  all_goals omega

theorem select_custom {width : UInt32} (above : 2000 < width.toNat) :
    (select width true).value = custom width := by
  rcases select_inv width with ⟨bound, eq⟩ | ⟨bound, eq⟩ | ⟨bound, eq⟩ | ⟨bound, eq⟩ |
    ⟨bound, eq⟩ | ⟨bound, eq⟩
  case inr.inr.inr.inr.inr => exact eq
  all_goals omega

/-- A wider table never gets a narrower page, but for one seam: the largest standard page, landscape
A2, is wider than the pages computed for the widths that follow, up to 2094. -/
theorem select_widthMm_le_iff {narrow wide : UInt32} (le : narrow ≤ wide) :
    ((select narrow true).value.widthMm ≤ (select wide true).value.widthMm ↔
      ¬ ((1400 < narrow ∧ narrow ≤ 2000) ∧ 2000 < wide ∧ wide ≤ 2094)) ∧
    ((1400 < narrow ∧ narrow ≤ 2000) ∧ 2000 < wide ∧ wide ≤ 2094 →
      ((select narrow true).value = a2Landscape ∧ (select narrow true).value.widthMm = 594) ∧
      (select wide true).value = custom wide ∧
      569 ≤ (select wide true).value.widthMm ∧ (select wide true).value.widthMm ≤ 593) := by
  have narrowPage := widthMm_cases narrow
  have widePage := widthMm_cases wide
  simp only [UInt32.le_iff_toNat_le, UInt32.lt_iff_toNat_lt, UInt32.reduceToNat] at le ⊢
  refine ⟨by omega, ?_⟩
  rintro ⟨⟨above, upTo⟩, past, near⟩
  have largest := select_a2Landscape above upTo
  exact ⟨⟨largest, by rw [largest]; rfl⟩, select_custom past, by omega, by omega⟩

/-- The first computed page that is as wide as the largest standard one. -/
theorem select_widthMm_le_past_seam :
    (2000 : UInt32) ≤ 2095 ∧
      (select 2000 true).value.widthMm ≤ (select 2095 true).value.widthMm :=
  ⟨by decide, (select_widthMm_le_iff (by decide)).1.2 (by decide)⟩

theorem select_widthMm_not_monotone :
    ¬ ∀ narrow wide : UInt32, narrow ≤ wide →
      (select narrow true).value.widthMm ≤ (select wide true).value.widthMm := by
  intro monotone
  have le := UInt32.le_iff_toNat_le.1 (monotone 2000 2001 (by decide))
  have largest := widthMm_cases 2000
  have computed := widthMm_cases 2001
  simp only [UInt32.reduceToNat] at largest computed
  omega

/-- A length of a style sheet in millimetres: centimetres, whole or with one decimal. -/
def millimetres? (length : List Char) : Option Nat :=
  match length.span Char.isDigit with
  | ([], _) => none
  | (whole, ['c', 'm']) => some (10 * valueOfDigits whole)
  | (whole, ['.', tenth, 'c', 'm']) =>
    if tenth.isDigit then some (10 * valueOfDigits whole + valueOfDigits [tenth]) else none
  | _ => none

/-- The margin on the left and on the right, which is the second of a shorthand's two lengths. -/
def sideMarginMm? (shorthand : String) : Option Nat :=
  millimetres? ((shorthand.toList.dropWhile (· ≠ ' ')).drop 1)

/-- What is left of a page between its margins. -/
def contentWidthMm? (page : Geometry) : Option Int :=
  (sideMarginMm? page.margin).map fun side : Nat => (page.widthMm.toNat : Int) - 2 * side

theorem contentWidthMm?_custom (width : UInt32) :
    contentWidthMm? (custom width) = some (((custom width).widthMm.toNat : Int) - 40) := by
  have margin : (custom width).margin = "2cm 2cm" := rfl
  have side : sideMarginMm? "2cm 2cm" = some 20 := by decide
  have twice : (2 : Int) * (20 : Nat) = 40 := rfl
  simp only [contentWidthMm?, margin, side, Option.map_some, twice]

/-- The chosen page has room for its table at 3.78 pixels to a millimetre, up to the room of the
widest computed page, but for one band: an A3 page upright, with 267 mm between its margins, is up to
10 mm short of the widths from 1014 to 1050. -/
theorem select_carries_iff (width : UInt32) :
    ∃ content, contentWidthMm? (select width true).value = some content ∧
      ((min (100 * width.toNat / 378) 1642 : Nat) ≤ content ↔ ¬ (1014 ≤ width ∧ width ≤ 1050)) ∧
      (min (100 * width.toNat / 378) 1642 : Nat) ≤ content + 10 ∧
      (1014 ≤ width ∧ width ≤ 1050 → (select width true).value = a3Portrait ∧ content = 267) := by
  have computed := widthMm_custom width
  simp only [UInt32.le_iff_toNat_le, UInt32.reduceToNat]
  rcases select_inv width with ⟨bound, eq⟩ | ⟨bound, eq⟩ | ⟨bound, eq⟩ | ⟨bound, eq⟩ |
    ⟨bound, eq⟩ | ⟨bound, eq⟩
  · exact ⟨180, by rw [eq]; decide, by omega, by omega, fun band => by omega⟩
  · exact ⟨257, by rw [eq]; decide, by omega, by omega, fun band => by omega⟩
  · exact ⟨267, by rw [eq]; decide, by omega, by omega, fun _ => ⟨eq, rfl⟩⟩
  · exact ⟨380, by rw [eq]; decide, by omega, by omega, fun band => by omega⟩
  · exact ⟨544, by rw [eq]; decide, by omega, by omega, fun band => by omega⟩
  · exact ⟨_, by rw [eq]; exact contentWidthMm?_custom width, by omega, by omega, fun band => by omega⟩

theorem select_not_always_carries :
    ¬ ∀ width : UInt32, ∃ content, contentWidthMm? (select width true).value = some content ∧
      (min (100 * width.toNat / 378) 1642 : Nat) ≤ content := by
  intro carries
  obtain ⟨content, room, fits⟩ := carries 1050
  have least : (select 1050 true).value = a3Portrait := by decide
  have short : contentWidthMm? a3Portrait = some 267 := by decide
  rw [least, short] at room
  obtain rfl := Option.some.inj room
  exact absurd fits (by decide)

end PagedReport.Geometry
