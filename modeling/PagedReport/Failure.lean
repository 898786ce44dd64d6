/-! Why no document came out. The kind says which step failed. Each kind has a message of its own, and
`message_eq` says what they share: every failure reads "PDF generation failed: " and its cause. -/
namespace PagedReport

inductive Failure where
  /-- A renderer or decoder that a step needs is not there. -/
  | capabilityUnavailable (cause : String)
  | noScreenshots
  | render (cause : String)
  | decode (cause : String)
  | assembly (cause : String)
  | table (cause : String)
  deriving DecidableEq

namespace Failure

def cause : Failure → String
  | .noScreenshots => "No screenshots provided for PDF generation"
  | .capabilityUnavailable cause | .render cause | .decode cause | .assembly cause
  | .table cause => cause

/-- What a failure reads when it is shown. -/
def message : Failure → String
  | .capabilityUnavailable cause => "PDF generation failed: " ++ cause
  | .noScreenshots => "PDF generation failed: No screenshots provided for PDF generation"
  | .render cause => "PDF generation failed: " ++ cause
  | .decode cause => "PDF generation failed: " ++ cause
  | .assembly cause => "PDF generation failed: " ++ cause
  | .table cause => "PDF generation failed: " ++ cause

theorem message_eq (failure : Failure) :
    failure.message = "PDF generation failed: " ++ failure.cause := by
  cases failure with
  | noScreenshots => decide
  | _ => rfl

def kind : Failure → String
  | .capabilityUnavailable _ => "CapabilityUnavailable"
  | .noScreenshots => "NoScreenshots"
  | .render _ => "RenderError"
  | .decode _ => "DecodeError"
  | .assembly _ => "AssemblyError"
  | .table _ => "TableError"

/-- The failure of a named kind; "NoScreenshots" has a cause of its own. -/
def ofKind? (kind cause : String) : Option Failure :=
  [.capabilityUnavailable cause, .noScreenshots, .render cause, .decode cause, .assembly cause,
    .table cause].find? (·.kind = kind)

/-- A failure of the browser with the contexts it was put in, innermost first: only the outermost
text is kept. -/
def ofContexts (innermost : String) (contexts : List String) : Failure :=
  .render (contexts.getLast?.getD innermost)

def ofAssembly (reason : String) : Failure :=
  .assembly ("Failed converting screenshots to pdf " ++ reason)

end Failure

end PagedReport
