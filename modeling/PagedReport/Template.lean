/-! Templates with named slots between doubled braces. A template is read once, from left to right:
a slot opens at the first doubled brace after the slot before it and closes at the first doubled
closing brace after that. What is put into a slot is never read again. -/
namespace PagedReport.Template

inductive Piece where
  | text (content : List Char)
  | slot (name : List Char)
  deriving DecidableEq

def slotOpen : List Char := ['{', '{']
def slotClose : List Char := ['}', '}']

mutual

/-- The pieces from inside a text on, of which `seen` has been read, last character first. -/
def piecesInText (seen : List Char) : List Char → List Piece
  | '{' :: '{' :: rest => piecesInSlot seen [] rest
  | c :: rest => piecesInText (c :: seen) rest
  | [] => [.text seen.reverse]

/-- The pieces from inside a slot on; a slot that is never closed is text up to the end. -/
def piecesInSlot (before seen : List Char) : List Char → List Piece
  | '}' :: '}' :: rest => .text before.reverse :: .slot seen.reverse :: piecesInText [] rest
  | c :: rest => piecesInSlot before (c :: seen) rest
  | [] => [.text (before.reverse ++ slotOpen ++ seen.reverse)]

end

def pieces (template : List Char) : List Piece := piecesInText [] template

/-- The text of a piece; a slot without value is left as it is. -/
def Piece.filled (values : List (List Char × List Char)) : Piece → List Char
  | .text content => content
  | .slot name => (values.lookup name).getD (slotOpen ++ name ++ slotClose)

/-- The template with the value of each slot put in its place; of two values for a name the first
counts. -/
def render (template : String) (values : List (String × String)) : String :=
  let values := values.map fun (name, value) => (name.toList, value.toList)
  String.ofList ((pieces template.toList).flatMap (·.filled values))

end PagedReport.Template
