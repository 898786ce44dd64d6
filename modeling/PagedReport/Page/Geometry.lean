/-! Page geometry: the paper, its orientation and its margins, chosen by the estimated width of a
table. Standard papers come first, in ascending order of what they hold; a table too wide for all
of them gets a page computed from its width. -/
namespace PagedReport

inductive Paper where
  | a4
  | a3
  | a2
  | custom
  deriving DecidableEq

inductive Orientation where
  | portrait
  | landscape
  deriving DecidableEq

def Paper.name : Paper → String
  | .a4 => "A4"
  | .a3 => "A3"
  | .a2 => "A2"
  | .custom => "Custom"

def Orientation.name : Orientation → String
  | .portrait => "portrait"
  | .landscape => "landscape"

/-- The page of one document, in millimetres; `margin` is a style sheet's shorthand, vertical
before horizontal. -/
structure Geometry where
  paper : Paper
  orientation : Orientation
  widthMm : UInt32
  heightMm : UInt32
  margin : String
  deriving DecidableEq

def Geometry.pageSize (g : Geometry) : String :=
  match g.paper, g.orientation with
  | .custom, _ => toString g.widthMm ++ "mm " ++ toString g.heightMm ++ "mm"
  | paper, .portrait => paper.name
  | paper, .landscape => paper.name ++ " landscape"

namespace Geometry

def a4Portrait : Geometry := ⟨.a4, .portrait, 210, 297, "2cm 1.5cm"⟩
def a4Landscape : Geometry := ⟨.a4, .landscape, 297, 210, "1.5cm 2cm"⟩
def a3Portrait : Geometry := ⟨.a3, .portrait, 297, 420, "2cm 1.5cm"⟩
def a3Landscape : Geometry := ⟨.a3, .landscape, 420, 297, "1.5cm 2cm"⟩
def a2Landscape : Geometry := ⟨.a2, .landscape, 594, 420, "2cm 2.5cm"⟩

end Geometry

end PagedReport
