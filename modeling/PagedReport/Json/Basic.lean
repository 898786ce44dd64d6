import PagedReport.Binary64.Text

/-! JSON values that keep what a report can show of a text: the order of an object's members and
how each number was written. Writing is compact. `Json.written` is the written form as a list of
characters, by recursion on the value. -/
namespace PagedReport

/-- A number as its writing classifies it: a whole number of at most 64 bits, signed or not, or
any other number as a finite binary64. -/
inductive Json.Number where
  | integer (value : Int) (bounds : -0x8000000000000000 ≤ value ∧ value < 0x10000000000000000)
  | float (value : Binary64.Finite)

inductive Json where
  | null
  | boolean (value : Bool)
  | number (value : Json.Number)
  | text (value : String)
  | array (items : List Json)
  | object (members : List (String × Json))

namespace Json

instance : Inhabited Json := ⟨.null⟩

/-- Sets a member: a key keeps its first position and takes its last value. -/
def setMember (key : String) (value : Json) : List (String × Json) → List (String × Json)
  | [] => [(key, value)]
  | (k, v) :: rest =>
    if k = key then (key, value) :: rest else (k, v) :: setMember key value rest

def ofMembers (members : List (String × Json)) : List (String × Json) :=
  members.foldl (fun known member => setMember member.1 member.2 known) []

def member? (key : String) : Json → Option Json
  | .object members => members.lookup key
  | _ => none

namespace Number

def ofInt64 (value : Int64) : Number :=
  .integer value.toInt ⟨value.le_toInt, Int.lt_trans value.toInt_lt (by decide)⟩

/-- The number as a signed 64-bit integer, if it was written as one. -/
def toInt64? : Number → Option Int64
  | .integer value _ => if value < 0x8000000000000000 then some (.ofInt value) else none
  | .float _ => none

def toBinary64 : Number → Binary64
  | .integer value _ => .ofUnits (value < 0) (value.natAbs * Binary64.unitsPerOne) 1
  | .float value => .finite value

def integerText (value : Int) : List Char :=
  (if value < 0 then ['-'] else []) ++ digitsOf value.natAbs

/-- The fewest digits, ties to even; plain from `10^-5` up to `10^16`, always with a fraction,
and scientific beyond. -/
def floatText (value : Binary64.Finite) : List Char :=
  let spelled := (value.shortest .even).spelled
  Binary64.signText value.negative ++
    if -4 ≤ spelled.point ∧ spelled.point ≤ 16 then spelled.plain ['.', '0']
    else spelled.scientific

def written : Number → List Char
  | .integer value _ => integerText value
  | .float value => floatText value

end Number

def hexDigit (n : Nat) : Char := "0123456789abcdef".toList.getD n '0'

/-- Quotes, backslashes and the control characters are escaped; all else stands for itself. -/
def escaped (c : Char) : List Char :=
  match c with
  | '"' => ['\\', '"']
  | '\\' => ['\\', '\\']
  | '\x08' => ['\\', 'b']
  | '\x0c' => ['\\', 'f']
  | '\n' => ['\\', 'n']
  | '\r' => ['\\', 'r']
  | '\t' => ['\\', 't']
  | c =>
    if c.toNat < 0x20 then
      ['\\', 'u', '0', '0', hexDigit (c.toNat / 16), hexDigit (c.toNat % 16)]
    else [c]

def quoted (text : String) : List Char := '"' :: text.toList.flatMap escaped ++ ['"']

mutual

def written : Json → List Char
  | .null => "null".toList
  | .boolean true => "true".toList
  | .boolean false => "false".toList
  | .number value => value.written
  | .text value => quoted value
  | .array [] => ['[', ']']
  | .array (item :: items) => '[' :: written item ++ writtenItems items
  | .object [] => ['{', '}']
  | .object ((key, value) :: members) =>
    '{' :: quoted key ++ ':' :: written value ++ writtenMembers members

/-- The items after the first one, and the closing bracket. -/
def writtenItems : List Json → List Char
  | [] => [']']
  | item :: items => ',' :: written item ++ writtenItems items

/-- The members after the first one, and the closing bracket. -/
def writtenMembers : List (String × Json) → List Char
  | [] => ['}']
  | (key, value) :: members => ',' :: quoted key ++ ':' :: written value ++ writtenMembers members

end

def compact (value : Json) : String := String.ofList value.written

end Json

end PagedReport
