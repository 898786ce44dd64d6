import PagedReport.Event
import PagedReport.Binary64.Decimal

/-! The choice of a page for an estimated width: the first standard paper that holds it, or a page
computed from it. -/
namespace PagedReport.Geometry

/-- The greatest width that each standard page holds, in ascending order. -/
def breakpoints : List (UInt32 × Geometry) := [
  (550, a4Portrait),
  (750, a4Landscape),
  (1050, a3Portrait),
  (1400, a3Landscape),
  (2000, a2Landscape)]

def pixelsPerMmDecimal : Decimal := ⟨378, -2⟩

def pixelsPerMm : Binary64 := pixelsPerMmDecimal.toBinary64 false

/-- The left and right margins of a computed page together. -/
def customMarginMm : UInt32 := 40

def customLeastWidthMm : UInt32 := 420

/-- The long edge of A0. -/
def customGreatestWidthMm : UInt32 := 1682

def customHeightMm : UInt32 := 420

def tableWidthMm (width : UInt32) : UInt32 :=
  (Binary64.ofNat width.toNat / pixelsPerMm).toUInt32

/-- The page computed for a table too wide for all standard papers. -/
def custom (width : UInt32) : Geometry where
  paper := .custom
  orientation := .landscape
  widthMm :=
    min (max (tableWidthMm width + customMarginMm) customLeastWidthMm) customGreatestWidthMm
  heightMm := customHeightMm
  margin := "2cm 2cm"

def holding (width : UInt32) : Geometry :=
  match breakpoints.find? (width ≤ ·.1) with
  | some (_, geometry) => geometry
  | none => custom width

/-- The page of a table of the given width; without resizing it is always the first one. -/
def select (width : UInt32) (autoResize : Bool) : Logged Geometry := do
  if autoResize then
    Logged.note (.pageSelected (holding width) width)
    return holding width
  else return a4Portrait

end PagedReport.Geometry
