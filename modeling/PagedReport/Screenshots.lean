import PagedReport.Event
import PagedReport.Pdf.Album
import PagedReport.Renderer

/-! Albums of screenshots: every file is decoded and flattened before the first page is assembled,
and the first failure of either step is the answer. Decoder and encoder are parameters. -/
namespace PagedReport

/-- How screenshots become images, and images pictures; a fault is its message. -/
structure Codec (Source Picture : Type) where
  decode : Source → Except String Raster
  encode : Raster → Except String Picture

namespace Screenshots

variable {Source Picture : Type}

def decodeOne (codec : Codec Source Picture) (source : Source) : Logged (Except String Raster) := do
  match codec.decode source with
  | .error reason => return .error reason
  | .ok image =>
    if image.layout.hasAlpha then Logged.note (.alphaDropped image.layout.name)
    return .ok image.flattened

/-- All screenshots from a position on, up to the first that fails. -/
def decodeFrom (codec : Codec Source Picture) :
    Nat → List Source → Logged (Except Failure (List Raster))
  | _, [] => pure (.ok [])
  | position, source :: sources => do
    match ← decodeOne codec source with
    | .error reason =>
      return .error (.decode
        ("Failed decoding screenshot " ++ toString position ++ ": " ++ reason))
    | .ok image => return (← decodeFrom codec (position + 1) sources).map (image :: ·)

def album (codec : Codec Source Picture) (sources : List Source) :
    Logged (Except Failure (Pdf.Document Picture)) := do
  if sources.isEmpty then return .error .noScreenshots
  match ← decodeFrom codec 0 sources with
  | .error failure => return .error failure
  | .ok images =>
    Logged.note (.screenshotsDecoded images.length)
    return Pdf.Album.ofRasters codec.encode images

def noDecoder : String := "An image decoder is required for screenshot-based PDF generation"

/-- The album of screenshots, as far as the machine can decode images at all. The machine has been asked
before. -/
def albumOn (capabilities : Capabilities) (codec : Codec Source Picture) (sources : List Source) :
    Logged (Except Failure (Pdf.Document Picture)) :=
  if sources.isEmpty then pure (.error .noScreenshots)
  else if capabilities.imageDecoder then album codec sources
  else pure (.error (.capabilityUnavailable noDecoder))

/-- The first album of a process, which asks the machine as soon as there is something to decode. -/
def albumAsking (machine : Machine) (codec : Codec Source Picture) (sources : List Source) :
    Logged (Except Failure (Pdf.Document Picture)) := do
  if sources.isEmpty then return .error .noScreenshots
  albumOn (← Capabilities.detect machine) codec sources

end Screenshots

end PagedReport
