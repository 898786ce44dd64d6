import PagedReport.Raster.Png
import PagedReport.Raster.Bmp.Pixels
import PagedReport.Raster.Gif
import PagedReport.Raster.WebP
import PagedReport.Raster.Saved

/-! Image files of any format. Of the formats that are known by their first bytes, PNG, BMP and GIF
are read in full; JPEG and WebP files stand for the image that was saved in them, so that their
bytes alone are no image here. -/
namespace PagedReport.Raster

def ofFile (file : List UInt8) : Except Fault Raster :=
  match FileFormat.detect? file with
  | none => .error .unknownFormat
  | some .png => Png.read (file.drop 8)
  | some .bmp => Bmp.read file
  | some .gif => Gif.read file
  | some .jpeg => .error (.malformed .jpeg)
  | some .webp => WebP.read (file.drop 12)
  | some format => .error (.unsupported format)

end PagedReport.Raster

namespace PagedReport

/-- A screenshot: the bytes of a file, or an image and the format it is saved in. -/
inductive Screenshot where
  | file (bytes : List UInt8)
  | saved (image : Raster) (format : FileFormat)

def Screenshot.raster : Screenshot → Except Raster.Fault Raster
  | .file bytes => Raster.ofFile bytes
  | .saved image format => image.savedAs format

end PagedReport
