import PagedReport.Table.Split
import PagedReport.Json.Skip

/-! The split layout read from text in one pass: parts are checked as they are read, and members
that name no part are only passed over. A fault of the layout is reported where reading stands once
the bracket around it is closed, as far as it can be; a fault of a single value right after that
value, or before its bracket. -/
namespace PagedReport.Split

inductive TextFault where
  | json (fault : Json.Fault)
  | layout (fault : Fault)

def TextFault.message : TextFault → String
  | .json fault => fault.message
  | .layout fault => fault.message

abbrev Scan (α : Type) := List Char → Except (Json.Located TextFault) (α × List Char)

/-- A fault of the text is a fault here too. -/
def ofJsonFault (fault : Json.Located Json.Fault) : Json.Located TextFault := fault.map .json

def lifted {α : Type} (result : Except (Json.Located Json.Fault) α) :
    Except (Json.Located TextFault) α := result.mapError ofJsonFault

/-- Where reading stands after leaving a list early: past its end or one comma, if they are next. -/
def leaveList (s : List Char) : List Char :=
  match Json.skipBlank s with
  | ']' :: s => s
  | ',' :: s => Json.skipBlank s
  | s => s

/-- Where reading stands after leaving an object early: past its end, if that is next. -/
def leaveObject (s : List Char) : List Char :=
  match Json.skipBlank s with
  | '}' :: s => s
  | s => s

/-- A value that is not what was expected: the fault after a scalar, or before a bracket. -/
def mismatch [Json.DecimalReader] {α : Type} (expected : Expected) (s : List Char) :
    Except (Json.Located TextFault) α := do
  let fault found rest := .error (.here (.layout (.mismatch found expected)) rest)
  match s with
  | '[' :: _ => fault .list s
  | '{' :: _ => fault .object s
  | _ =>
    let (value, rest) ← lifted (Json.readValue 0 0 s)
    fault (.ofJson value) rest

def scanList [Json.DecimalReader] {α : Type} (rounds : Nat) (item : Scan α) : Scan (List α) := fun s =>
  match Json.skipBlank s with
  | [] => .error (ofJsonFault (.next .endInValue []))
  | '[' :: s => Json.readItems ofJsonFault item rounds true s
  | s => mismatch .list s

def scanText [Json.DecimalReader] : Scan String := fun s =>
  match Json.skipBlank s with
  | [] => .error (ofJsonFault (.next .endInValue []))
  | '"' :: s => lifted (Json.readText s)
  | s => mismatch .text s

/-- The number of brackets that may be open at a time inside a cell: those around it are three. -/
def cellDepth : Nat := Json.depthLimit - 3

def scanCell [Json.DecimalReader] (rounds : Nat) : Scan Cell := fun s => do
  let (value, rest) ← lifted (Json.readValue rounds cellDepth s)
  match Cell.decode? value with
  | some cell => .ok (cell, rest)
  | none => .error (.here (.layout .noCell) (leaveList rest))

def Draft.scanPart [Json.DecimalReader] (rounds : Nat) (d : Draft) (part : Part) : Scan Draft := fun s => do
  match part with
  | .columns =>
    let (columns, s) ← scanList rounds scanText s
    .ok ({ d with columns := some columns }, s)
  | .index =>
    let (index, s) ← scanList rounds scanText s
    .ok ({ d with index := some index }, s)
  | .data =>
    let (data, s) ← scanList rounds (scanList rounds (scanCell rounds)) s
    .ok ({ d with data := some data }, s)

def Draft.finishAt (d : Draft) (s : List Char) :
    Except (Json.Located TextFault) (Split × List Char) :=
  match d.finish with
  | .ok split => .ok (split, s)
  | .error fault => .error (.here (.layout fault) s)

/-- The members of an object, up to its closing bracket. -/
def scanMembers [Json.DecimalReader] (rounds : Nat) : Nat → Bool → Draft → Scan Split
  | 0, _, _, s => .error (ofJsonFault (.here .endInObject s))
  | left + 1, isFirst, draft, s => do
    match ← lifted (Json.nextKey? isFirst s) with
    | none => draft.finishAt (leaveObject s)
    | some s =>
      let (key, s) ← lifted (Json.readText s)
      match Part.ofName? key with
      | none =>
        let s ← lifted (Json.colon s)
        let s ← lifted (Json.skipValue rounds s)
        scanMembers rounds left false draft s
      | some part =>
        if draft.has part then throw (.here (.layout (.repeated part)) (leaveObject s))
        let s ← lifted (Json.colon s)
        let (draft, s) ← draft.scanPart rounds part s
        scanMembers rounds left false draft s

/-- Reads the parts that are left of a list, up to its closing bracket. -/
def scanParts [Json.DecimalReader] (rounds : Nat) : List Part → Bool → Draft → Scan Split
  | [], _, draft, s =>
    match Json.skipBlank s with
    | [] => .error (ofJsonFault (.next .endInList []))
    | ']' :: s => draft.finishAt s
    | ',' :: s =>
      match Json.skipBlank s with
      | ']' :: s => .error (ofJsonFault (.next .trailingComma (']' :: s)))
      | s => .error (ofJsonFault (.next .trailingText s))
    | s => .error (ofJsonFault (.next .trailingText s))
  | part :: parts, isFirst, draft, s => do
    match ← lifted (Json.nextItem? isFirst s) with
    | none =>
      if isFirst then throw (.here (.layout .emptyList) (leaveList s))
      draft.finishAt (leaveList s)
    | some s =>
      let (draft, s) ← draft.scanPart rounds part s
      scanParts rounds parts false draft s

def scan [Json.DecimalReader] (rounds : Nat) : Scan Split := fun s =>
  match Json.skipBlank s with
  | [] => .error (ofJsonFault (.next .endInValue []))
  | '[' :: s => scanParts rounds [.columns, .index, .data] true .blank s
  | '{' :: s => scanMembers rounds rounds true .blank s
  | s => mismatch .layout s

def ofText [Json.DecimalReader] (text : String) : Except (Json.Located TextFault) Split := do
  let (split, rest) ← scan (Json.roundsFor text.toList) text.toList
  lifted (Json.finish rest)
  return split

end PagedReport.Split

namespace PagedReport.Table

def ofText [Json.DecimalReader] (text : String) : Except String Table :=
  match Split.ofText text with
  | .ok split => .ok split.toTable
  | .error fault => .error ((fault.place text).report fault.cause.message)

end PagedReport.Table
