import PagedReport.Failure
import PagedReport.Report.Document

/-! Printing documents with a headless browser. The machine and the printing step are parameters:
whether a renderer is available is settled when it is made, and each failure of the printing step
comes back with the step's own words in front of its cause. -/
namespace PagedReport

structure Viewport where
  width : UInt32
  height : UInt32
  deriving DecidableEq

structure BrowserSettings where
  /-- The browser's executable; without one, the one found on the machine. -/
  executable : Option String
  viewport : Viewport
  timeoutMs : UInt64
  sandbox : Bool
  printBackground : Bool
  deriving DecidableEq

def BrowserSettings.standard : BrowserSettings := ⟨none, ⟨1280, 720⟩, 30000, true, true⟩

/-- What a renderer asks of the machine it runs on. -/
structure Machine where
  isFile : String → Bool
  /-- The path of the installed browser, or why none was found. -/
  installedBrowser : Except String String

structure Capabilities where
  htmlRenderer : Bool
  imageDecoder : Bool
  deriving DecidableEq

namespace Capabilities

/-- Looks for a browser; images can always be decoded. -/
def detect (machine : Machine) : Logged Capabilities := do
  match machine.installedBrowser with
  | .ok path =>
    Logged.note (.browserFound path)
    return ⟨true, true⟩
  | .error reason =>
    Logged.note (.browserMissing reason)
    return ⟨false, true⟩

end Capabilities

structure Renderer where
  config : BrowserSettings
  isAvailable : Bool
  deriving DecidableEq

namespace Renderer

def new (machine : Machine) (config : BrowserSettings) : Renderer where
  config := config
  isAvailable :=
    match config.executable with
    | some path => machine.isFile path
    | none => (Capabilities.detect machine).value.htmlRenderer

/-- The printing step: a document to bytes. -/
abbrev Print := BrowserSettings → String → Logged (Except Failure ByteArray)

def noBrowser : String := "Chrome is not available - cannot generate PDF from HTML"

def printHtml (r : Renderer) (print : Print) (html : String) :
    Logged (Except Failure ByteArray) := do
  if r.isAvailable then
    Logged.note .conversionStarted
    match ← print r.config html with
    | .ok pdf =>
      Logged.note (.conversionFinished pdf.size)
      return .ok pdf
    | .error failure => return .error (.render ("Failed converting HTML to PDF: " ++ failure.cause))
  else return .error (.capabilityUnavailable noBrowser)

def printTable (r : Renderer) (print : Print) (t : Table) (options : Report.Options) :
    Logged (Except Failure ByteArray) := do
  match ← r.printHtml print (← Report.document t options) with
  | .ok pdf => return .ok pdf
  | .error failure => return .error (.table ("Failed generating PDF from table: " ++ failure.cause))

/-- The printing step with a browser that does not start. -/
def printUnlaunched (reason : String) : Print := fun _ _ =>
  pure (.error (.render ("Failed to launch browser: " ++ reason)))

end Renderer

end PagedReport
