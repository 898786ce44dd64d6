/-! Documents as lists of numbered objects. Pictures are streams whose content is of any type, here
the compressed image; page contents are lists of drawing operations. -/
namespace PagedReport.Pdf

/-- The drawing operations that a page of one picture needs. -/
inductive Operation where
  | saveState
  | transform (a b c d e f : Int)
  | paint (name : String)
  | restoreState
  deriving DecidableEq

def Operation.text : Operation → String
  | .saveState => "q"
  | .transform a b c d e f => " ".intercalate ([a, b, c, d, e, f].map toString) ++ " cm"
  | .paint name => "/" ++ name ++ " Do"
  | .restoreState => "Q"

def contentText (operations : List Operation) : String :=
  "\n".intercalate (operations.map Operation.text)

inductive Object (Picture : Type) where
  | integer (value : Int)
  | name (value : String)
  | reference (number : Nat)
  | array (items : List (Object Picture))
  | dictionary (entries : List (String × Object Picture))
  | picture (entries : List (String × Object Picture)) (content : Picture)
  | contents (operations : List Operation)

/-- Objects in ascending order of their numbers, and the number of the catalog. -/
structure Document (Picture : Type) where
  objects : List (Nat × Object Picture)
  root : Nat

def header : String := "%PDF-1.5"

variable {Picture : Type}

def Object.field? (key : String) : Object Picture → Option (Object Picture)
  | .dictionary entries | .picture entries _ => entries.lookup key
  | _ => none

def Object.reference? : Object Picture → Option Nat
  | .reference number => some number
  | _ => none

namespace Document

def object? (d : Document Picture) (number : Nat) : Option (Object Picture) :=
  d.objects.lookup number

/-- The numbers of the pages in order, found through the catalog. -/
def pages (d : Document Picture) : List Nat :=
  match ((d.object? d.root).bind (·.field? "Pages")).bind Object.reference? with
  | none => []
  | some pages =>
    match (d.object? pages).bind (·.field? "Kids") with
    | some (.array kids) => kids.filterMap Object.reference?
    | _ => []

end Document

/-- A document in the making: numbers from `next` on are free. -/
structure Draft (Picture : Type) where
  next : Nat
  objects : List (Nat × Object Picture)

namespace Draft

def blank : Draft Picture := ⟨1, []⟩

/-- Takes a number for an object that comes later. -/
def reserve (d : Draft Picture) : Nat × Draft Picture := (d.next, { d with next := d.next + 1 })

def add (d : Draft Picture) (object : Object Picture) : Nat × Draft Picture :=
  (d.next, ⟨d.next + 1, d.objects ++ [(d.next, object)]⟩)

/-- Gives a reserved number its object, in the place of the number's order. -/
def fill (d : Draft Picture) (number : Nat) (object : Object Picture) : Draft Picture :=
  let (before, after) := d.objects.span (·.1 < number)
  { d with objects := before ++ (number, object) :: after }

end Draft

end PagedReport.Pdf
