/-! Why a text is no JSON, and where. A reader hands back what it has left to read, so a place is
worked out from the whole text only when a fault is reported: lines count newlines, columns count
bytes since the last newline. -/
namespace PagedReport.Json

inductive Fault where
  | endInList
  | endInObject
  | endInText
  | endInValue
  | missingColon
  | missingListEnd
  | missingObjectEnd
  | misspelledWord
  | missingValue
  | badEscape
  | badNumber
  | numberTooLarge
  | keyNotText
  | controlCharacter
  | loneSurrogate
  | halfSurrogatePair
  | trailingComma
  | trailingText
  | nestedTooDeep
  deriving DecidableEq

def Fault.message : Fault → String
  | .endInList => "EOF while parsing a list"
  | .endInObject => "EOF while parsing an object"
  | .endInText => "EOF while parsing a string"
  | .endInValue => "EOF while parsing a value"
  | .missingColon => "expected `:`"
  | .missingListEnd => "expected `,` or `]`"
  | .missingObjectEnd => "expected `,` or `\x7d`"
  | .misspelledWord => "expected ident"
  | .missingValue => "expected value"
  | .badEscape => "invalid escape"
  | .badNumber => "invalid number"
  | .numberTooLarge => "number out of range"
  | .keyNotText => "key must be a string"
  | .controlCharacter => "control character (\\u0000-\\u001F) found while parsing a string"
  | .loneSurrogate => "lone leading surrogate in hex escape"
  | .halfSurrogatePair => "unexpected end of hex escape"
  | .trailingComma => "trailing comma"
  | .trailingText => "trailing characters"
  | .nestedTooDeep => "recursion limit exceeded"

/-- A fault with what was left to read, and how many bytes of that had been looked at. -/
structure Located (ε : Type) where
  cause : ε
  rest : List Char
  ahead : Nat

structure Place where
  line : Nat
  column : Nat
  deriving DecidableEq

def byteLength (cs : List Char) : Nat := cs.foldl (fun n c => n + c.utf8Size) 0

/-- The line and column right after the first `offset` bytes of a text. -/
def Place.after (text : String) (offset : Nat) : Place :=
  let before := text.toUTF8.toList.take offset
  let newline := '\n'.toUInt8
  ⟨1 + before.count newline, (before.reverse.takeWhile (· ≠ newline)).length⟩

namespace Located

variable {ε δ : Type}

def place (fault : Located ε) (text : String) : Place :=
  .after text (text.utf8ByteSize - byteLength fault.rest + fault.ahead)

def map (f : ε → δ) (fault : Located ε) : Located δ := ⟨f fault.cause, fault.rest, fault.ahead⟩

def here (cause : ε) (rest : List Char) : Located ε := ⟨cause, rest, 0⟩

/-- A fault about the byte that comes next. -/
def next (cause : ε) (rest : List Char) : Located ε := ⟨cause, rest, 1⟩

end Located

def Place.report (place : Place) (message : String) : String :=
  message ++ " at line " ++ toString place.line ++ " column " ++ toString place.column

end PagedReport.Json
