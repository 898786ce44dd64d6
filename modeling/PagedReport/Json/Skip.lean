import PagedReport.Json.Reader

/-! Passing over a value whose content does not matter: only its syntax is checked, so numbers have
any size, surrogates need no partner, and nesting has no limit. After a comma a value or a key must
follow, and a closing bracket there is reported as the missing one. -/
namespace PagedReport.Json

def skipDigits (s : List Char) : List Char := s.dropWhile Char.isDigit

def skipSomeDigits (fault : List Char → Located Fault) (s : List Char) :
    Except (Located Fault) (List Char) :=
  if s.head?.any Char.isDigit then .ok (skipDigits s) else .error (fault s)

def skipExponent (s : List Char) : Except (Located Fault) (List Char) :=
  match s with
  | '+' :: s | '-' :: s => skipSomeDigits (.next .badNumber) s
  | s => skipSomeDigits (.next .badNumber) s

def skipFraction (s : List Char) : Except (Located Fault) (List Char) := do
  match s with
  | '.' :: s =>
    match ← skipSomeDigits (fun s => .next .badNumber (skipDigits s)) s with
    | 'e' :: s | 'E' :: s => skipExponent s
    | s => return s
  | 'e' :: s | 'E' :: s => skipExponent s
  | s => return s

def skipNumber (s : List Char) : Except (Located Fault) (List Char) :=
  match s with
  | '0' :: s =>
    if s.head?.any Char.isDigit then .error (.next .badNumber s) else skipFraction s
  | c :: rest =>
    if isOneToNine c then skipFraction (skipDigits rest) else .error (.next .badNumber s)
  | [] => .error (.here .badNumber [])

/-- The number of characters that an escape has after its backslash. -/
def skipEscape (s : List Char) : Except (Located Fault) Nat :=
  match s with
  | [] => .error (.here .endInText [])
  | 'u' :: s => do
    let _ ← fourHex s
    return 5
  | c :: _ =>
    if c ∈ ['"', '\\', '/', 'b', 'f', 'n', 'r', 't'] then .ok 1 else .error (.next .badEscape s)

/-- The rest after a text's closing quote; the first `passed` characters belong to an escape. -/
def skipText : Nat → List Char → Except (Located Fault) (List Char)
  | _, [] => .error (.here .endInText [])
  | passed + 1, _ :: s => skipText passed s
  | 0, '"' :: s => .ok s
  | 0, '\\' :: s => do skipText (← skipEscape s) s
  | 0, c :: s =>
    if c.toNat < 0x20 then .error (.here .controlCharacter (c :: s)) else skipText 0 s

/-- Where the value of the next member begins: after its key and colon. -/
def skipKey (s : List Char) : Except (Located Fault) (List Char) :=
  match skipBlank s with
  | [] => .error (.next .endInObject [])
  | '"' :: s => do colon (← skipText 0 s)
  | s => .error (.next .keyNotText s)

/-- The rest of a list or an object whose last value has just been read, or whose bracket has just
been opened; `item` passes over what stands between commas. -/
def skipRest (close : Char) (unclosed unseparated : Fault)
    (item : List Char → Except (Located Fault) (List Char)) :
    Nat → Bool → List Char → Except (Located Fault) (List Char)
  | 0, _, s => .error (.here unclosed s)
  | rounds + 1, isFirst, s =>
    match skipBlank s with
    | [] => .error (.next unclosed [])
    | c :: s => do
      if c = close then .ok s
      else if isFirst then skipRest close unclosed unseparated item rounds false (← item (c :: s))
      else if c = ',' then skipRest close unclosed unseparated item rounds false (← item s)
      else .error (.next unseparated (c :: s))

/-- The rest after a value with at most `depth` brackets open at a time. -/
def skipDeep (rounds : Nat) : Nat → List Char → Except (Located Fault) (List Char)
  | depth, s =>
    match skipBlank s with
    | [] => .error (.next .endInValue [])
    | 'n' :: s => readWord ['u', 'l', 'l'] s
    | 't' :: s => readWord ['r', 'u', 'e'] s
    | 'f' :: s => readWord ['a', 'l', 's', 'e'] s
    | '-' :: s => skipNumber s
    | '"' :: s => skipText 0 s
    | c :: s =>
      if c.isDigit then skipNumber (c :: s)
      else match depth with
        | 0 => .error (.next .missingValue (c :: s))
        | depth + 1 =>
          if c = '[' then
            skipRest ']' .endInList .missingListEnd (skipDeep rounds depth) rounds true s
          else if c = '{' then
            skipRest '}' .endInObject .missingObjectEnd
              (fun s => do skipDeep rounds depth (← skipKey s)) rounds true s
          else .error (.next .missingValue (c :: s))

/-- The rest after a value; rounds enough for its items are enough for its brackets too. -/
def skipValue (rounds : Nat) (s : List Char) : Except (Located Fault) (List Char) :=
  skipDeep rounds rounds s

end PagedReport.Json
