import PagedReport.Json.Basic
import PagedReport.Json.Fault

/-! Reading JSON from characters. A scan takes what is left to read and gives a result and what is
then left, or a located fault. `readValue` recurses on the number of brackets that may still be
opened. The loops over items and members take a number of rounds that is greater than the length
of the text, so that they cannot run out of rounds: each but the first reads a comma. How the decimal of
a number becomes a binary64 number is left to a `DecimalReader`. -/
namespace PagedReport.Json

abbrev Scan (α : Type) := List Char → Except (Located Fault) (α × List Char)

def isBlank (c : Char) : Bool := c = ' ' || c = '\n' || c = '\t' || c = '\r'

def skipBlank (s : List Char) : List Char := s.dropWhile isBlank

def isOneToNine (c : Char) : Bool := '1' ≤ c && c ≤ '9'

/-- The rest of a word whose first letter has been read. -/
def readWord : List Char → List Char → Except (Located Fault) (List Char)
  | [], s => .ok s
  | _ :: _, [] => .error (.here .endInValue [])
  | w :: ws, c :: s => if c = w then readWord ws s else .error (.next .misspelledWord (c :: s))

/-- The exponents that a number may have without being read as too large or too small at once. -/
def largestExponent : Nat := 0x7FFFFFFF

/-- What follows the first exponent digit that takes the value past the largest exponent. -/
def pastLargest (value : Nat) : List Char → Option (List Char)
  | [] => none
  | c :: s =>
    let next := 10 * value + (c.toNat - '0'.toNat)
    if !c.isDigit then none
    else if largestExponent < next then some s
    else pastLargest next s

/-- The exponent of a number, after its letter. A digit must follow the letter and the sign. A
positive exponent that no number has is a fault at once, unless the digits before it are zero. -/
def readExponent (significand : Nat) (s : List Char) : Except (Located Fault) (Int × List Char) :=
  let (negative, s) : Bool × List Char := match s with
    | '+' :: rest => (false, rest)
    | '-' :: rest => (true, rest)
    | rest => (false, rest)
  match s with
  | [] => .error (.here .endInValue [])
  | c :: _ =>
    if !c.isDigit then .error (.next .badNumber s)
    else
      let value : Int := valueOfDigits (s.takeWhile Char.isDigit)
      match negative || significand = 0, pastLargest 0 s with
      | false, some rest => .error (.here .numberTooLarge rest)
      | _, _ => .ok (if negative then -value else value, s.dropWhile Char.isDigit)

/-- How a decimal becomes a number of the given sign. Readers that take fewer steps than exact rounding
needs can miss the nearest number by its last place. -/
class DecimalReader where
  read (negative : Bool) (decimal : Decimal) : Binary64

/-- The reader that gives the nearest number. -/
instance DecimalReader.nearest : DecimalReader := ⟨fun negative decimal => decimal.toBinary64 negative⟩

/-- A number with a fraction or an exponent, or too long for an integer. -/
def rounded [DecimalReader] (negative : Bool) (decimal : Decimal) (rest : List Char) :
    Except (Located Fault) (Number × List Char) :=
  match DecimalReader.read negative decimal with
  | .finite value => .ok (.float value, rest)
  | _ => .error (.here .numberTooLarge rest)

/-- A number without fraction and exponent. Zero with a minus sign is no integer. -/
def integral [DecimalReader] (negative : Bool) (digits : Nat) (rest : List Char) :
    Except (Located Fault) (Number × List Char) :=
  let value : Int := if negative then -digits else digits
  if bounds : (-0x8000000000000000 ≤ value ∧ value < 0x10000000000000000) ∧ ¬ (negative ∧ digits = 0) then
    .ok (.integer value bounds.1, rest)
  else rounded negative ⟨digits, 0⟩ rest

def readFraction [DecimalReader] (negative : Bool) (whole : List Char) (s : List Char) :
    Except (Located Fault) (Number × List Char) := do
  match s with
  | '.' :: s =>
    let digits := s.takeWhile Char.isDigit
    let rest := s.dropWhile Char.isDigit
    if digits.isEmpty then
      .error (.next (if rest.isEmpty then .endInValue else .badNumber) rest)
    else
      let significand := valueOfDigits (whole ++ digits)
      match rest with
      | 'e' :: rest | 'E' :: rest =>
        let (power, rest) ← readExponent significand rest
        rounded negative ⟨significand, power - digits.length⟩ rest
      | rest => rounded negative ⟨significand, -digits.length⟩ rest
  | 'e' :: s | 'E' :: s =>
    let (power, rest) ← readExponent (valueOfDigits whole) s
    rounded negative ⟨valueOfDigits whole, power⟩ rest
  | s => integral negative (valueOfDigits whole) s

def readNumber [DecimalReader] (negative : Bool) (s : List Char) :
    Except (Located Fault) (Number × List Char) :=
  match s with
  | [] => .error (.here .endInValue [])
  | '0' :: rest =>
    if rest.head?.any Char.isDigit then .error (.next .badNumber rest)
    else readFraction negative ['0'] rest
  | c :: _ =>
    if isOneToNine c then
      readFraction negative (s.takeWhile Char.isDigit) (s.dropWhile Char.isDigit)
    else .error (.next .badNumber s)

def hexValue? (c : Char) : Option Nat :=
  if c.isDigit then some (c.toNat - '0'.toNat)
  else if 'a' ≤ c ∧ c ≤ 'f' then some (c.toNat - 'a'.toNat + 10)
  else if 'A' ≤ c ∧ c ≤ 'F' then some (c.toNat - 'A'.toNat + 10)
  else none

/-- Four hexadecimal digits; what is not that counts as four bytes read. -/
def fourHex (s : List Char) : Except (Located Fault) (Nat × List Char) :=
  let digits := s.take 4 |>.filterMap hexValue?
  if digits.length = 4 then .ok (digits.foldl (fun n d => 16 * n + d) 0, s.drop 4)
  else if byteLength s < 4 then .error (.here .endInText [])
  else .error ⟨.badEscape, s, 4⟩

def isLeadingSurrogate (n : Nat) : Bool := 0xD800 ≤ n && n ≤ 0xDBFF

def isTrailingSurrogate (n : Nat) : Bool := 0xDC00 ≤ n && n ≤ 0xDFFF

/-- The second half of a surrogate pair, which must follow the first at once. -/
def trailingHalf (leading : Nat) (s : List Char) : Except (Located Fault) Char :=
  match s with
  | [] | ['\\'] => .error (.here .endInText [])
  | '\\' :: 'u' :: s => do
    let (trailing, rest) ← fourHex s
    if isTrailingSurrogate trailing then
      .ok (.ofNat (0x10000 + (leading - 0xD800) * 0x400 + (trailing - 0xDC00)))
    else .error (.here .loneSurrogate rest)
  | '\\' :: s => .error (.next .halfSurrogatePair s)
  | s => .error (.next .halfSurrogatePair s)

/-- The character that an escape stands for, after its backslash, and the number of characters
that the escape has. -/
def escape (s : List Char) : Except (Located Fault) (Char × Nat) :=
  match s with
  | [] => .error (.here .endInText [])
  | '"' :: _ => .ok ('"', 1)
  | '\\' :: _ => .ok ('\\', 1)
  | '/' :: _ => .ok ('/', 1)
  | 'b' :: _ => .ok ('\x08', 1)
  | 'f' :: _ => .ok ('\x0c', 1)
  | 'n' :: _ => .ok ('\n', 1)
  | 'r' :: _ => .ok ('\r', 1)
  | 't' :: _ => .ok ('\t', 1)
  | 'u' :: s => do
    let (unit, rest) ← fourHex s
    if isTrailingSurrogate unit then .error (.here .loneSurrogate rest)
    else if isLeadingSurrogate unit then return (← trailingHalf unit rest, 11)
    else .ok (.ofNat unit, 5)
  | s => .error (.next .badEscape s)

/-- The characters of a text up to its closing quote; the first `passed` have been read as part of
an escape. -/
def characters : Nat → List Char → Except (Located Fault) (List Char × List Char)
  | _, [] => .error (.here .endInText [])
  | passed + 1, _ :: s => characters passed s
  | 0, '"' :: s => .ok ([], s)
  | 0, '\\' :: s => do
    let (c, passed) ← escape s
    let (more, rest) ← characters passed s
    .ok (c :: more, rest)
  | 0, c :: s => do
    if c.toNat < 0x20 then throw (.here .controlCharacter s)
    let (more, rest) ← characters 0 s
    .ok (c :: more, rest)

def readText : Scan String := fun s => do
  let (content, rest) ← characters 0 s
  .ok (.ofList content, rest)

/-- What must stand after a comma between items: an item, and not the end. -/
def itemAfterComma (s : List Char) : Except (Located Fault) Unit :=
  match s with
  | [] => .error (.next .endInValue [])
  | ']' :: _ => .error (.next .trailingComma s)
  | _ => .ok ()

/-- Where the next item of a list begins, if there is one; a closing bracket is left to be read. -/
def nextItem? (isFirst : Bool) (s : List Char) : Except (Located Fault) (Option (List Char)) :=
  match skipBlank s with
  | [] => .error (.next .endInList [])
  | ']' :: _ => .ok none
  | c :: s =>
    if isFirst then .ok (some (c :: s))
    else if c = ',' then do
      itemAfterComma (skipBlank s)
      return some (skipBlank s)
    else .error (.next .missingListEnd (c :: s))

def keyAfterComma (s : List Char) : Except (Located Fault) (List Char) :=
  match s with
  | [] => .error (.next .endInValue [])
  | '"' :: s => .ok s
  | '}' :: _ => .error (.next .trailingComma s)
  | s => .error (.next .keyNotText s)

/-- Where the next key of an object begins, after its quote, if there is one; a closing bracket is
left to be read. -/
def nextKey? (isFirst : Bool) (s : List Char) : Except (Located Fault) (Option (List Char)) :=
  match skipBlank s with
  | [] => .error (.next .endInObject [])
  | '}' :: _ => .ok none
  | c :: s =>
    if isFirst then
      if c = '"' then .ok (some s) else .error (.next .keyNotText (c :: s))
    else if c = ',' then some <$> keyAfterComma (skipBlank s)
    else .error (.next .missingObjectEnd (c :: s))

def colon (s : List Char) : Except (Located Fault) (List Char) :=
  match skipBlank s with
  | [] => .error (.next .endInObject [])
  | ':' :: s => .ok s
  | s => .error (.next .missingColon s)

variable {ε α : Type}

/-- The items of a list, one after the other, up to the closing bracket. -/
def readItems (lift : Located Fault → ε) (item : List Char → Except ε (α × List Char)) :
    Nat → Bool → List Char → Except ε (List α × List Char)
  | 0, _, s => .error (lift (.here .endInList s))
  | rounds + 1, isFirst, s => do
    match ← (nextItem? isFirst s).mapError lift with
    | none => .ok ([], (skipBlank s).drop 1)
    | some s =>
      let (x, s) ← item s
      let (xs, s) ← readItems lift item rounds false s
      .ok (x :: xs, s)

/-- The members of an object, one after the other, up to the closing bracket. -/
def readMembers (item : Scan α) : Nat → Bool → Scan (List (String × α))
  | 0, _, s => .error (.here .endInObject s)
  | rounds + 1, isFirst, s => do
    match ← nextKey? isFirst s with
    | none => .ok ([], (skipBlank s).drop 1)
    | some s =>
      let (key, s) ← readText s
      let (x, s) ← item (← colon s)
      let (members, s) ← readMembers item rounds false s
      .ok ((key, x) :: members, s)

/-- The value that begins here, if the text does not end here. Lists and objects are read with
`opened`, which gets the bracket and what follows it. -/
def readValueWith [DecimalReader] (opened : Char → Scan Json) : Scan Json := fun s =>
  match skipBlank s with
  | [] => .error (.next .endInValue [])
  | 'n' :: s => return (.null, ← readWord ['u', 'l', 'l'] s)
  | 't' :: s => return (.boolean true, ← readWord ['r', 'u', 'e'] s)
  | 'f' :: s => return (.boolean false, ← readWord ['a', 'l', 's', 'e'] s)
  | '-' :: s => do
    let (n, s) ← readNumber true s
    return (.number n, s)
  | '"' :: s => do
    let (content, s) ← readText s
    return (.text content, s)
  | '[' :: s => opened '[' s
  | '{' :: s => opened '{' s
  | c :: s =>
    if c.isDigit then do
      let (n, s) ← readNumber false (c :: s)
      return (.number n, s)
    else .error (.next .missingValue (c :: s))

/-- A value with at most `depth` brackets open at a time. -/
def readValue [DecimalReader] (rounds : Nat) : Nat → Scan Json
  | 0 => readValueWith fun bracket s => .error (.next .nestedTooDeep (bracket :: s))
  | depth + 1 => readValueWith fun bracket s => do
    if bracket = '[' then
      let (xs, s) ← readItems id (readValue rounds depth) rounds true s
      .ok (.array xs, s)
    else
      let (members, s) ← readMembers (readValue rounds depth) rounds true s
      .ok (.object (ofMembers members), s)

/-- The number of brackets that may be open at a time in a whole text. -/
def depthLimit : Nat := 127

/-- Rounds enough for any list or object in a text. -/
def roundsFor (s : List Char) : Nat := s.length + 1

def finish (s : List Char) : Except (Located Fault) Unit :=
  match skipBlank s with
  | [] => .ok ()
  | s => .error (.next .trailingText s)

def parse [DecimalReader] (s : String) : Except (Located Fault) Json := do
  let (result, rest) ← readValue (roundsFor s.toList) depthLimit s.toList
  finish rest
  return result

end PagedReport.Json
