import PagedReport.Json.Basic

/-! One cell of a table: its kinds, the text a reader of the report sees, and the two ways in which
JSON becomes a cell. `Cell.ofJson` takes any JSON and classifies a number by how it was written;
`Cell.decode?` tries the kinds in turn and takes scalars only. -/
namespace PagedReport

inductive Cell where
  | null
  | boolean (value : Bool)
  | integer (value : Int64)
  | float (value : Binary64)
  | text (value : String)

namespace Cell

/-- A cell that counts as absent: nothing at all, or "not a number". -/
def isAbsent : Cell → Bool
  | .null => true
  | .float value => value.isNaN
  | _ => false

/-- The first whole magnitude that is written without a fraction, `10^16`. -/
def wholeLimit : Nat := 10000000000000000

def isPlainlyWhole : Binary64 → Bool
  | .finite value => value.isWhole && value.wholePart < wholeLimit
  | _ => false

/-- The text of a number in a report. A whole number below the limit keeps one decimal; any other
is written without exponent. -/
def floatText (x : Binary64) : String :=
  match x, isPlainlyWhole x with
  | .finite value, true =>
    String.ofList (Binary64.signText value.negative ++ digitsOf value.wholePart ++ ['.', '0'])
  | x, _ => String.ofList x.plainText

def shown : Cell → String
  | .null => ""
  | .boolean true => "True"
  | .boolean false => "False"
  | .integer value => String.ofList (Json.Number.integerText value.toInt)
  | .float value => floatText value
  | .text value => value

/-- Equality of cells of one kind by value; "not a number" equals nothing. -/
def sameValue : Cell → Cell → Bool
  | .null, .null => true
  | .boolean a, .boolean b => a = b
  | .integer a, .integer b => a = b
  | .float a, .float b => a.sameValue b
  | .text a, .text b => a = b
  | _, _ => false

/-- The JSON of a cell. Numbers that are not finite have none and become null. -/
def toJson : Cell → Json
  | .null => .null
  | .boolean value => .boolean value
  | .integer value => .number (.ofInt64 value)
  | .float (.finite value) => .number (.float value)
  | .float _ => .null
  | .text value => .text value

/-- The cell of any JSON. Lists and objects become their compact text. -/
def ofJson : Json → Cell
  | .null => .null
  | .boolean value => .boolean value
  | .number value =>
    match value.toInt64? with
    | some i => .integer i
    | none => .float value.toBinary64
  | .text value => .text value
  | value => .text value.compact

def asNull? : Json → Option Cell
  | .null => some .null
  | _ => none

def asBoolean? : Json → Option Cell
  | .boolean value => some (.boolean value)
  | _ => none

def asInteger? : Json → Option Cell
  | .number value => value.toInt64?.map .integer
  | _ => none

def asFloat? : Json → Option Cell
  | .number value => some (.float value.toBinary64)
  | _ => none

def asText? : Json → Option Cell
  | .text value => some (.text value)
  | _ => none

def kinds : List (Json → Option Cell) := [asNull?, asBoolean?, asInteger?, asFloat?, asText?]

/-- The cell of the first kind that takes the JSON. -/
def decode? (value : Json) : Option Cell := kinds.findSome? (· value)

def ofOption : Option Cell → Cell := (·.getD .null)

end Cell

end PagedReport
