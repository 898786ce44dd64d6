import PagedReport.Table.Basic
import PagedReport.Text.Visible

/-! The split layout of a table, `columns`, `index` and `data`, as JSON. Reading takes an object
with these members in any order, or a list of the three parts in this order; all but the columns
may be missing. A `Split` is what was read, and `Split.toTable` makes it rectangular. -/
namespace PagedReport

structure Split where
  columns : List String
  index : List String
  data : List (List Cell)

namespace Split

/-- The rows labelled by the index as far as it reaches, and by position beyond; surplus labels are
left out. -/
def addRows : Table → List String → List (List Cell) → Table
  | table, _, [] => table
  | table, label :: labels, cells :: data => addRows (table.pushLabelled label cells) labels data
  | table, [], cells :: data => addRows (table.push cells) [] data

def toTable (s : Split) : Table := addRows (.empty s.columns) s.index s.data

/-- What was found in place of something else. -/
inductive Found where
  | null
  | boolean (value : Bool)
  | number (value : Json.Number)
  | text (value : String)
  | list
  | object

inductive Expected where
  | layout
  | list
  | text
  deriving DecidableEq

inductive Part where
  | columns
  | index
  | data
  deriving DecidableEq

inductive Fault where
  | mismatch (found : Found) (expected : Expected)
  | noColumns
  | repeated (part : Part)
  | emptyList
  | tooLong (length : Nat)
  | noCell

def Part.name : Part → String
  | .columns => "columns"
  | .index => "index"
  | .data => "data"

/-- The part that a member's key names, if it names one. -/
def Part.ofName? (name : String) : Option Part :=
  [Part.columns, .index, .data].find? (·.name = name)

def Expected.phrase : Expected → String
  | .layout => "struct SplitTable"
  | .list => "a sequence"
  | .text => "a string"

def Found.phrase : Found → String
  | .null => "null"
  | .boolean value => "boolean `" ++ (if value then "true" else "false") ++ "`"
  | .number (.integer value _) =>
    "integer `" ++ String.ofList (Json.Number.integerText value) ++ "`"
  | .number (.float value) =>
    "floating point `" ++ String.ofList (Json.Number.floatText value) ++ "`"
  | .text value => "string " ++ Text.inQuotes value
  | .list => "sequence"
  | .object => "map"

def Fault.message : Fault → String
  | .mismatch found expected => "invalid type: " ++ found.phrase ++ ", expected " ++ expected.phrase
  | .noColumns => "missing field `" ++ Part.columns.name ++ "`"
  | .repeated part => "duplicate field `" ++ part.name ++ "`"
  | .emptyList => "invalid length 0, expected " ++ Expected.layout.phrase ++ " with 3 elements"
  | .tooLong length =>
    "invalid length " ++ toString length ++ ", expected fewer elements in array"
  | .noCell => "data did not match any variant of untagged enum Value"

def Found.ofJson : Json → Found
  | .null => .null
  | .boolean value => .boolean value
  | .number value => .number value
  | .text value => .text value
  | .array _ => .list
  | .object _ => .object

/-- A list of what `item` reads. -/
def listOf {α : Type} (item : Json → Except Fault α) : Json → Except Fault (List α)
  | .array items => items.mapM item
  | value => .error (.mismatch (.ofJson value) .list)

def textOf : Json → Except Fault String
  | .text value => .ok value
  | value => .error (.mismatch (.ofJson value) .text)

def cellOf (value : Json) : Except Fault Cell :=
  match Cell.decode? value with
  | some cell => .ok cell
  | none => .error .noCell

structure Draft where
  columns : Option (List String)
  index : Option (List String)
  data : Option (List (List Cell))

namespace Draft

def blank : Draft := ⟨none, none, none⟩

def has (d : Draft) : Part → Bool
  | .columns => d.columns.isSome
  | .index => d.index.isSome
  | .data => d.data.isSome

/-- The whole layout, if the columns are there; other missing parts are empty. -/
def finish (d : Draft) : Except Fault Split :=
  match d.columns with
  | some columns => .ok ⟨columns, d.index.getD [], d.data.getD []⟩
  | none => .error .noColumns

def setPart (d : Draft) (part : Part) (value : Json) : Except Fault Draft := do
  match part with
  | .columns => return { d with columns := some (← listOf textOf value) }
  | .index => return { d with index := some (← listOf textOf value) }
  | .data => return { d with data := some (← listOf (listOf cellOf) value) }

/-- Reads a member; one that names no part may hold anything. -/
def setMember (d : Draft) (member : String × Json) : Except Fault Draft :=
  match Part.ofName? member.1 with
  | none => .ok d
  | some part => if d.has part then .error (.repeated part) else d.setPart part member.2

end Draft

/-- The layout that JSON holds; of several faults, the first one in reading order. -/
def ofJson : Json → Except Fault Split
  | .object members => do (← members.foldlM Draft.setMember .blank).finish
  | .array [] => .error .emptyList
  | .array items => do
    let draft ← ([Part.columns, .index, .data].zip items).foldlM
      (fun draft (part, value) => draft.setPart part value) Draft.blank
    if 3 < items.length then throw (.tooLong items.length)
    draft.finish
  | value => .error (.mismatch (.ofJson value) .layout)

end Split

namespace Table

def ofJson (value : Json) : Except Split.Fault Table := (Split.ofJson value).map Split.toTable

def toJson (t : Table) : Json := .object [
  (Split.Part.columns.name, .array (t.columns.map .text)),
  (Split.Part.index.name, .array (t.labels.map .text)),
  (Split.Part.data.name, .array (t.rows.map fun row => .array (row.cells.map Cell.toJson)))]

def toText (t : Table) : String := t.toJson.compact

end Table

end PagedReport
