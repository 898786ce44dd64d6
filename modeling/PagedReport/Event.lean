import PagedReport.Page.Geometry

/-! What happened on the way to a result, as data: each event has a level and a line of text, and a
`Logged` result carries its events in order. -/
namespace PagedReport

inductive Event where
  | recordSkipped (position : Nat)
  | tableMeasured (columns rows : Nat) (width : UInt32)
  | pageSelected (geometry : Geometry) (width : UInt32)
  | conversionStarted
  | conversionFinished (bytes : Nat)
  | browserFound (path : String)
  | browserMissing (reason : String)
  | alphaDropped (layout : String)
  | screenshotsDecoded (count : Nat)
  deriving DecidableEq

namespace Event

inductive Level where
  | debug
  | info
  | warn
  deriving DecidableEq

def Level.name : Level → String
  | .debug => "DEBUG"
  | .info => "INFO"
  | .warn => "WARN"

def level : Event → Level
  | .recordSkipped _ => .warn
  | .alphaDropped _ => .debug
  | _ => .info

def message : Event → String
  | .recordSkipped position =>
    "Skipping record " ++ toString position ++ ": expected a JSON object"
  | .tableMeasured columns rows width =>
    "Generating PDF for table with " ++ toString columns ++ " columns, " ++ toString rows ++
      " rows, estimated width: " ++ toString width ++ " px"
  | .pageSelected geometry width =>
    "Selected page size: " ++ geometry.pageSize ++ " (" ++ geometry.orientation.name ++
      ") for table width " ++ toString width ++ " px"
  | .conversionStarted => "Converting HTML to PDF using headless Chrome"
  | .conversionFinished bytes =>
    "Successfully generated PDF from HTML (" ++ toString bytes ++ " bytes)"
  | .browserFound path => "Using Chrome at " ++ path ++ " for HTML to PDF conversion"
  | .browserMissing reason =>
    "No Chrome installation found - HTML to PDF conversion not available: " ++ reason
  | .alphaDropped layout => "Dropping alpha channel from " ++ layout ++ " screenshot"
  | .screenshotsDecoded count => "building pdf from " ++ toString count ++ " screenshots"

end Event

/-- A result with the events that led to it, in order. -/
@[ext] structure Logged (α : Type) where
  value : α
  events : List Event

namespace Logged

variable {α β : Type}

def note (event : Event) : Logged Unit := ⟨(), [event]⟩

instance : Monad Logged where
  pure value := ⟨value, []⟩
  bind first next := ⟨(next first.value).value, first.events ++ (next first.value).events⟩

@[simp] theorem value_pure (value : α) : (pure value : Logged α).value = value := rfl

@[simp] theorem events_pure (value : α) : (pure value : Logged α).events = [] := rfl

@[simp] theorem value_bind (first : Logged α) (next : α → Logged β) :
    (first >>= next).value = (next first.value).value := rfl

@[simp] theorem events_bind (first : Logged α) (next : α → Logged β) :
    (first >>= next).events = first.events ++ (next first.value).events := rfl

@[simp] theorem value_map (f : α → β) (first : Logged α) :
    (f <$> first).value = f first.value := rfl

@[simp] theorem events_map (f : α → β) (first : Logged α) :
    (f <$> first).events = first.events := List.append_nil first.events

instance : LawfulMonad Logged := LawfulMonad.mk' Logged
  (fun first => Logged.ext rfl (List.append_nil first.events))
  (fun _ _ => Logged.ext rfl (List.nil_append _))
  (fun _ _ _ => Logged.ext rfl (List.append_assoc _ _ _))

@[simp] theorem events_note (event : Event) : (note event).events = [event] := rfl

end Logged

end PagedReport
