import PagedReport.Table.Basic

/-! The estimated width of a table in pixels, which selects its page. Every character counts eight;
a column is as wide as its header or the mean of its first cells, within fixed bounds, so that
neither one long column nor one long cell decides alone. The arithmetic is binary64, from left to
right. -/
namespace PagedReport.Width

/-- The width of a table with nothing to show. -/
def ofNothing : UInt32 := 300

def indexColumn : Binary64 := 80
def leastColumn : Binary64 := 80
def greatestColumn : Binary64 := 250
def perCharacter : Binary64 := 8
def headerPadding : Binary64 := 20
def cellPadding : Binary64 := 16
def ofAbsent : Binary64 := 30
def ofLongCell : Binary64 := 400

/-- The mean of no cells. -/
def ofNoCells : Binary64 := 50

/-- The most characters that a cell may have without counting as long. -/
def longestMeasured : Nat := 50

def sampledRows : Nat := 10

def ofCell (cell : Cell) : Binary64 :=
  if cell.isAbsent then ofAbsent
  else
    let length := cell.shown.length
    if longestMeasured < length then ofLongCell
    else .ofNat length * perCharacter + cellPadding

def ofHeader (header : String) : Binary64 := .ofNat header.length * perCharacter + headerPadding

def mean (cells : List Cell) : Binary64 :=
  if cells.isEmpty then ofNoCells
  else Binary64.sum (cells.map ofCell) / .ofNat cells.length

def ofColumn (header : String) (sample : List Cell) : Binary64 :=
  (((ofHeader header).larger (mean sample)).larger leastColumn).smaller greatestColumn

def columns (t : Table) : List Binary64 :=
  t.columns.zipIdx.map fun (header, position) =>
    ofColumn header ((t.column position).take sampledRows)

/-- The width before its fraction is cut off. -/
def total (t : Table) : Binary64 := indexColumn + Binary64.sum (columns t)

def estimate (t : Table) : UInt32 := if t.isEmpty then ofNothing else (total t).toUInt32

end PagedReport.Width
