import PagedReport.Table.Basic
import PagedReport.Event

/-! Tables from lists of JSON objects. The columns are the keys in order of first occurrence, and a
key that an object lacks is an absent cell. What is no object is left out and noted. -/
namespace PagedReport

def Json.members? : Json → Option (List (String × Json))
  | .object members => some members
  | _ => none

/-- Each text once, in order of first occurrence. -/
def firstOccurrences (texts : List String) : List String :=
  texts.foldl (fun known text => if text ∈ known then known else known ++ [text]) []

namespace Table

def recordCells (columns : List String) (members : List (String × Json)) : List Cell :=
  columns.map fun column => ((members.lookup column).map Cell.ofJson).getD .null

def skippedRecords (records : List Json) : List Nat :=
  records.zipIdx.filterMap fun (record, position) =>
    if record.members?.isSome then none else some position

/-- One row per object, labelled by position among the objects. -/
def ofObjects (objects : List (List (String × Json))) : Table :=
  let columns := firstOccurrences (objects.flatMap fun members => members.map Prod.fst)
  objects.foldl (fun table members => table.push (recordCells columns members)) (empty columns)

def ofRecords (records : List Json) : Logged Table :=
  ⟨ofObjects (records.filterMap Json.members?), (skippedRecords records).map .recordSkipped⟩

end Table

end PagedReport
