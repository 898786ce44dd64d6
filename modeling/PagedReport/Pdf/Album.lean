import PagedReport.Pdf.Document
import PagedReport.Raster.Basic
import PagedReport.Failure

/-! Albums: documents with one picture on each page, the page being as large in points as the
picture is in pixels. The encoder of pictures is a parameter; the first picture that it refuses
ends the assembly. -/
namespace PagedReport.Pdf

structure JpegFrame where
  width : Nat
  height : Nat
  components : Nat
  deriving DecidableEq

def JpegFrame.greatestSide : Nat := 65535

/-- The frame of an image, if a JPEG stream can have its size. -/
def JpegFrame.ofRaster (r : Raster) : Except String JpegFrame :=
  if 0 < r.width ∧ r.width ≤ greatestSide ∧ 0 < r.height ∧ r.height ≤ greatestSide then
    .ok ⟨r.width, r.height, r.layout.colourChannels⟩
  else .error "Format error encoding Jpeg"

namespace Album

variable {Picture : Type}

def pictureName : String := "Im0"

def pictureObject (r : Raster) (content : Picture) : Object Picture :=
  .picture [
    ("Type", .name "XObject"),
    ("Subtype", .name "Image"),
    ("Width", .integer r.width),
    ("Height", .integer r.height),
    ("ColorSpace", .name (if r.layout.hasColour then "DeviceRGB" else "DeviceGray")),
    ("BitsPerComponent", .integer 8),
    ("Filter", .name "DCTDecode")] content

def drawing (r : Raster) : List Operation :=
  [.saveState, .transform r.width 0 0 r.height 0 0, .paint pictureName, .restoreState]

def pageObject (r : Raster) (pages picture contents : Nat) : Object Picture :=
  .dictionary [
    ("Type", .name "Page"),
    ("Parent", .reference pages),
    ("MediaBox", .array [.integer 0, .integer 0, .integer r.width, .integer r.height]),
    ("Resources", .dictionary [("XObject", .dictionary [(pictureName, .reference picture)])]),
    ("Contents", .reference contents)]

def addPage (d : Draft Picture) (pages : Nat) (r : Raster) (content : Picture) :
    Nat × Draft Picture :=
  let (picture, d) := d.add (pictureObject r content)
  let (contents, d) := d.add (.contents (drawing r))
  d.add (pageObject r pages picture contents)

/-- Appends a page for each image, as long as the encoder accepts it. -/
def addPages (encode : Raster → Except String Picture) (pages : Nat) :
    Draft Picture → List Raster → Except Failure (List Nat × Draft Picture)
  | d, [] => .ok ([], d)
  | d, r :: images =>
    match encode r with
    | .error reason => .error (.ofAssembly reason)
    | .ok content => do
      let (page, d) := addPage d pages r content
      let (more, d) ← addPages encode pages d images
      return (page :: more, d)

/-- The document of a list of images. The node that lists the pages has the first number, since
every page refers to it, and is filled in when all of them are known. -/
def ofRasters (encode : Raster → Except String Picture) (images : List Raster) :
    Except Failure (Document Picture) := do
  let (pages, d) := Draft.blank.reserve
  let (kids, d) ← addPages encode pages d images
  let d := d.fill pages (.dictionary [
    ("Type", .name "Pages"),
    ("Count", .integer kids.length),
    ("Kids", .array (kids.map .reference))])
  let (root, d) := d.add (.dictionary [("Type", .name "Catalog"), ("Pages", .reference pages)])
  return ⟨d.objects, root⟩

end Album

end PagedReport.Pdf
