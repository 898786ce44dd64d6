import PagedReport.Raster.Bytes
import PagedReport.Raster.FileFormat

/-! Headers of BMP files: the sides of the image, and how its pixels are stored. Entries of a
palette may be packed in runs; colours may have fields of bits of their own. A file that ends early
is told from one that is malformed by what comes first in it. -/
namespace PagedReport.Bmp

open Raster (Fault Feature)

def malformed : Fault := .malformed .bmp
def cutShort : Fault := .cutShort .bmp
def lacking (feature : Feature) : Fault := .lacking .bmp feature

def fileHeaderSize : Nat := 14

/-- The size of the oldest image header, with sides of 16 bits and palette entries of 3 bytes. -/
def coreHeaderSize : Nat := 12

/-- The size up to which all later image headers have the same fields. Masks come next. -/
def commonHeaderSize : Nat := 40

/-- The size from which on an image header has a mask for alpha. -/
def alphaHeaderSize : Nat := 56

def headerSizes : List Nat := [coreHeaderSize, commonHeaderSize, 52, alphaHeaderSize, 108, 124]

/-- Bits of a pixel, side by side, that are one sample; eight at most. -/
structure Field where
  shift : Nat
  length : Nat

/-- The sample of a pixel on the scale of eight bits, rounded to the nearest. -/
def Field.sample (f : Field) (pixel : Nat) : UInt16 :=
  let greatest := Nat.pow 2 f.length - 1
  .ofNat ((2 * 255 * (pixel / Nat.pow 2 f.shift % Nat.pow 2 f.length) + greatest) / (2 * greatest))

/-- The field that a mask shows, if any. Its bits are neighbours within the pixel; of more than
eight, the upper eight count. -/
def Field.ofMask (pixelBits mask : Nat) : Except Fault (Option Field) :=
  let ones := (List.range 32).filter mask.testBit
  match ones with
  | [] => .ok none
  | shift :: _ =>
    let length := ones.length
    if mask = (Nat.pow 2 length - 1) * Nat.pow 2 shift ∧ shift + length ≤ pixelBits then
      .ok (some ⟨shift + (length - 8), min length 8⟩)
    else .error malformed

structure Fields where
  red : Field
  green : Field
  blue : Field
  alpha : Option Field

def Fields.samples (f : Fields) (pixel : Nat) : List UInt16 :=
  [f.red, f.green, f.blue].map (·.sample pixel) ++ f.alpha.toList.map (·.sample pixel)

/-- The fields of 16 bits if the file names none. -/
def fiveBits : Fields := ⟨⟨10, 5⟩, ⟨5, 5⟩, ⟨0, 5⟩, none⟩

/-- The fields of 24 and 32 bits if the file names none. -/
def wholeBytes : Fields := ⟨⟨16, 8⟩, ⟨8, 8⟩, ⟨0, 8⟩, none⟩

inductive Storage where
  /-- Entries of a palette, of 1, 2, 4 or 8 bits. -/
  | entries (bits : Nat)
  /-- Runs of entries of a palette, of 4 or 8 bits. -/
  | runs (bits : Nat)
  /-- Colours of 2, 3 or 4 bytes. -/
  | colours (bytes : Nat) (fields : Fields)

structure Header where
  size : Nat
  dataOffset : Nat
  width : Nat
  height : Nat
  topDown : Bool
  storage : Storage
  /-- The number of palette entries, or zero for as many as there can be. -/
  entryCount : Nat

def Header.layout (h : Header) : Layout :=
  match h.storage with
  | .colours _ fields => ⟨true, fields.alpha.isSome, .eight⟩
  | _ => ⟨true, false, .eight⟩

def slice (file : List UInt8) (start count : Nat) : Except Fault (List UInt8) :=
  match Bytes.split? count (file.drop start) with
  | some (bytes, _) => .ok bytes
  | none => .error cutShort

def number (file : List UInt8) (start count : Nat) : Except Fault Nat :=
  return Bytes.littleEndian (← slice file start count)

def signed (width n : Nat) : Int := if n < Nat.pow 2 (width - 1) then n else n - Nat.pow 2 width

/-- Sides that are no image have no storage for their pixels. -/
def checkSides (width height : Nat) : Except Fault Unit :=
  if width = 0 ∨ height = 0 then .error (lacking (.dimensions width height)) else .ok ()

def checkPlanes (file : List UInt8) (start : Nat) : Except Fault Unit := do
  if (← number file start 2) ≠ 1 then throw malformed

/-- The header of the oldest kind, from its sides on. -/
def readCore (file : List UInt8) (dataOffset : Nat) : Except Fault Header := do
  let width ← number file 18 2
  let height ← number file 20 2
  checkSides width height
  checkPlanes file 22
  let bits ← number file 24 2
  let storage : Storage ←
    if bits ∈ [1, 4, 8] then pure (.entries bits)
    else if bits = 24 then pure (.colours 3 wholeBytes)
    else throw malformed
  return ⟨coreHeaderSize, dataOffset, width, height, false, storage, 0⟩

def uncompressed : Nat := 0

/-- The number of no compression either, with masks for the fields of colours. -/
def masked : Nat := 3

/-- The fields of colours from the masks after the common part of the header. Red, green and blue
must have some bits. -/
def readFields (file : List UInt8) (size pixelBits : Nat) : Except Fault Fields := do
  let start := fileHeaderSize + commonHeaderSize
  let red ← number file start 4
  let green ← number file (start + 4) 4
  let blue ← number file (start + 8) 4
  let alpha ← if alphaHeaderSize ≤ size then number file (start + 12) 4 else pure 0
  match ← Field.ofMask pixelBits red, ← Field.ofMask pixelBits green,
      ← Field.ofMask pixelBits blue, ← Field.ofMask pixelBits alpha with
  | some red, some green, some blue, alpha => return ⟨red, green, blue, alpha⟩
  | _, _, _, _ => throw malformed

/-- The storage that a compression and the bits of a pixel name, but for the fields of masks. -/
def storage (compression bits : Nat) : Except Fault Storage :=
  match compression, bits with
  | 0, 1 | 0, 2 | 0, 4 | 0, 8 => .ok (.entries bits)
  | 0, 16 => .ok (.colours 2 fiveBits)
  | 0, 24 => .ok (.colours 3 wholeBytes)
  | 0, 32 => .ok (.colours 4 wholeBytes)
  | 1, 8 | 2, 4 => .ok (.runs bits)
  | 3, 16 => .ok (.colours 2 fiveBits)
  | 3, 32 => .ok (.colours 4 wholeBytes)
  | 4, _ => .error (lacking .jpegCompression)
  | 5, _ => .error (lacking .pngCompression)
  | 11, _ | 12, _ | 13, _ => .error (lacking .cmyk)
  | _, _ => .error malformed

/-- The header of a later kind, from its sides on. A negative height is that of an image stored
from the top, which is not packed in runs. -/
def readCommon (file : List UInt8) (dataOffset size : Nat) : Except Fault Header := do
  let width := signed 32 (← number file 18 4)
  let height := signed 32 (← number file 22 4)
  if width < 0 ∨ Raster.greatestBmpSide < width ∨ Raster.greatestBmpSide < height ∨
      height = -0x80000000 then
    throw malformed
  checkSides width.natAbs height.natAbs
  checkPlanes file 26
  let bits ← number file 28 2
  let compression ← number file 30 4
  if height < 0 ∧ compression ≠ uncompressed ∧ compression ≠ masked then throw malformed
  let storage ← storage compression bits
  let _ ← number file 34 12
  let entryCount ← number file 46 4
  let _ ← number file 50 4
  let storage ← match storage with
    | .colours bytes _ =>
      if compression = masked then pure (.colours bytes (← readFields file size bits))
      else pure storage
    | _ => pure storage
  return ⟨size, dataOffset, width.natAbs, height.natAbs, height < 0, storage, entryCount⟩

def readHeader (file : List UInt8) : Except Fault Header := do
  let dataOffset ← number file 10 4
  let size ← number file fileHeaderSize 4
  if size < coreHeaderSize then throw malformed
  if size ∉ headerSizes then throw (lacking (.headerOfSize size))
  if size = coreHeaderSize then readCore file dataOffset else readCommon file dataOffset size

abbrev Palette := Array (List UInt16)

/-- The colour of an entry; one that the palette lacks is black. -/
def Palette.colour (p : Palette) (entry : UInt16) : List UInt16 := p.getD entry.toNat [0, 0, 0]

/-- The palette of entries with so many bits. -/
def readEntries (file : List UInt8) (h : Header) (bits : Nat) : Except Fault Palette := do
  let entry := if h.size = coreHeaderSize then 3 else 4
  let count := if h.entryCount = 0 then Nat.pow 2 bits else h.entryCount
  if Nat.pow 2 bits < count then throw malformed
  let bytes ← slice file (fileHeaderSize + h.size) (count * entry)
  return ((List.range count).map fun i =>
    ((bytes.drop (entry * i)).take 3).reverse.map UInt8.toUInt16).toArray

/-- The palette, which only entries need. -/
def readPalette (file : List UInt8) (h : Header) : Except Fault Palette :=
  match h.storage with
  | .entries bits | .runs bits => readEntries file h bits
  | .colours _ _ => .ok #[]

end PagedReport.Bmp
