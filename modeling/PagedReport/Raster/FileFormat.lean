import PagedReport.Raster.Basic

/-! The formats of image files, told apart by the bytes that files begin with, and why a file is
not read as an image. -/
namespace PagedReport

inductive FileFormat where
  | png
  | jpeg
  | gif
  | webp
  | bmp
  | tiff
  | dds
  | ico
  | hdr
  | avif
  | openExr
  | qoi
  | pnm
  | farbfeld
  deriving DecidableEq

namespace FileFormat

def name : FileFormat → String
  | .png => "Png"
  | .jpeg => "Jpeg"
  | .gif => "Gif"
  | .webp => "WebP"
  | .bmp => "Bmp"
  | .tiff => "Tiff"
  | .dds => "Dds"
  | .ico => "Ico"
  | .hdr => "Hdr"
  | .avif => "Avif"
  | .openExr => "OpenExr"
  | .qoi => "Qoi"
  | .pnm => "Pnm"
  | .farbfeld => "Farbfeld"

def ascii (text : String) : List (Option UInt8) := text.toList.map fun c => some (.ofNat c.toNat)

def exact (bytes : List UInt8) : List (Option UInt8) := bytes.map some

/-- The bytes that files begin with; `none` stands for any byte. -/
def signatures : List (List (Option UInt8) × FileFormat) := [
  (exact [0x89, 0x50, 0x4e, 0x47, 0x0d, 0x0a, 0x1a, 0x0a], .png),
  (exact [0xff, 0xd8, 0xff], .jpeg),
  (ascii "GIF89a", .gif),
  (ascii "GIF87a", .gif),
  (ascii "RIFF" ++ [none, none, none, none] ++ ascii "WEBP", .webp),
  (ascii "MM" ++ exact [0x00] ++ ascii "*", .tiff),
  (ascii "II*" ++ exact [0x00], .tiff),
  (ascii "DDS ", .dds),
  (ascii "BM", .bmp),
  (exact [0x00, 0x00, 0x01, 0x00], .ico),
  (ascii "#?RADIANCE", .hdr),
  (exact [0x00, 0x00] ++ [none, none] ++ ascii "ftypavif", .avif),
  (exact [0x76, 0x2f, 0x31, 0x01], .openExr),
  (ascii "qoif", .qoi),
  (ascii "P1", .pnm),
  (ascii "P2", .pnm),
  (ascii "P3", .pnm),
  (ascii "P4", .pnm),
  (ascii "P5", .pnm),
  (ascii "P6", .pnm),
  (ascii "P7", .pnm),
  (ascii "farbfeld", .farbfeld)]

def begins : List (Option UInt8) → List UInt8 → Bool
  | [], _ => true
  | _ :: _, [] => false
  | expected :: more, byte :: file => expected.all (· = byte) && begins more file

def detect? (file : List UInt8) : Option FileFormat :=
  (signatures.find? fun (signature, _) => begins signature file).map Prod.snd

end FileFormat

namespace Raster

/-- What a file asks for that its reader does not offer. -/
inductive Feature where
  | headerOfSize (bytes : Nat)
  | jpegCompression
  | pngCompression
  | cmyk
  | dimensions (width height : Nat)
  deriving DecidableEq

def Feature.phrase : Feature → String
  | .headerOfSize bytes => "Unknown bitmap header type (size=" ++ toString bytes ++ ")"
  | .jpegCompression => "JPEG compression"
  | .pngCompression => "PNG compression"
  | .cmyk => "CMYK format"
  | .dimensions width height =>
    "Image dimensions (" ++ toString width ++ "x" ++ toString height ++
      " w/3 channels) are too large"

inductive Fault where
  | unknownFormat
  | unsupported (format : FileFormat)
  | malformed (format : FileFormat)
  /-- The file ends where the format needs more of it. -/
  | cutShort (format : FileFormat)
  /-- The file ends within a run whose length it gave. -/
  | runCutShort
  /-- A note beside the image contradicts what the format allows. -/
  | contradiction
  | lacking (format : FileFormat) (feature : Feature)
  /-- The file is whole, but there is no image in it. -/
  | noImage
  /-- The samples would take more memory than an image may. -/
  | tooLarge
  deriving DecidableEq

def Fault.message : Fault → String
  | .unknownFormat => "The image format could not be determined"
  | .unsupported format => "The image format " ++ format.name ++ " is not supported"
  | .malformed format => "Format error decoding " ++ format.name
  | .cutShort .png => "unexpected end of file"
  | .cutShort .bmp | .cutShort .webp => "failed to fill whole buffer"
  | .cutShort format => "Format error decoding " ++ format.name
  | .runCutShort => "unexpected end of file"
  | .contradiction => "invalid data"
  | .lacking format feature =>
    "The decoder for " ++ format.name ++ " does not support the format features " ++ feature.phrase
  | .noImage => "The end of the image has been reached"
  | .tooLarge => "Memory limit exceeded"

/-- The bytes that the samples of an image may take. -/
def memoryLimit : Nat := 512 * 1024 * 1024

/-- The bytes that can have addresses. -/
def greatestAddress : Nat := 0x7FFFFFFFFFFFFFFF

def sizeInMemory (layout : Layout) (width height : Nat) : Nat :=
  width * height * layout.pixelBytes

/-- Refuses an image whose samples take too much memory. -/
def checkSize (layout : Layout) (width height : Nat) : Except Fault Unit :=
  if memoryLimit < sizeInMemory layout width height then .error .tooLarge else .ok ()

def greatestBmpSide : Nat := 0xFFFF

end Raster

end PagedReport
