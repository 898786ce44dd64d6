import PagedReport.Raster.Bmp.Header

/-! Pixels of BMP files. Lines are stored from the bottom unless the header says otherwise, each
filled up to four bytes, or in runs. A run of eight bits is cut where its line ends; all else that
goes beyond a line is a fault. -/
namespace PagedReport.Bmp

open Raster (Fault)

def Storage.pixelBits : Storage → Nat
  | .entries bits | .runs bits => bits
  | .colours bytes _ => 8 * bytes

def Header.lineBytes (h : Header) : Nat := (h.width * h.storage.pixelBits + 31) / 32 * 4

/-- The samples of pixels of so many bytes, one after the other. -/
def colourSamples (bytes : Nat) (fields : Fields) : Nat → List UInt8 → List UInt16
  | 0, _ => []
  | count + 1, line =>
    fields.samples (Bytes.littleEndian (line.take bytes)) ++
      colourSamples bytes fields count (line.drop bytes)

def lineSamples (h : Header) (palette : Palette) (line : List UInt8) : List UInt16 :=
  match h.storage with
  | .entries bits | .runs bits =>
    ((line.flatMap (Bytes.samplesOf bits)).take h.width).flatMap palette.colour
  | .colours bytes fields => colourSamples bytes fields h.width line

def storedLines (h : Header) (palette : Palette) : Nat → List UInt8 → List (List UInt16)
  | 0, _ => []
  | count + 1, data =>
    lineSamples h palette (data.take h.lineBytes) ::
      storedLines h palette count (data.drop h.lineBytes)

inductive Step where
  /-- Entries that have to fit into the line. -/
  | entries (run : List UInt16)
  /-- One entry again and again, as far as the line goes. -/
  | fill (count : Nat) (entry : UInt16)
  | endOfLine
  | endOfImage
  | skip (columns lines : Nat)

/-- The first step and what follows it. A count that is not zero repeats the entries of one byte; a
zero comes before an end, a skip or a count of entries to be taken as they are, which take an even
number of bytes and have a fault of their own if they are cut short. -/
def step (bits : Nat) : List UInt8 → Except Fault (Step × List UInt8)
  | 0 :: 0 :: data => .ok (.endOfLine, data)
  | 0 :: 1 :: data => .ok (.endOfImage, data)
  | 0 :: 2 :: columns :: lines :: data => .ok (.skip columns.toNat lines.toNat, data)
  | 0 :: 2 :: _ => .error cutShort
  | 0 :: count :: data =>
    match Bytes.split? ((count.toNat * bits + 15) / 16 * 2) data with
    | some (packed, data) =>
      .ok (.entries ((packed.flatMap (Bytes.samplesOf bits)).take count.toNat), data)
    | none => .error .runCutShort
  | count :: byte :: data =>
    if bits = 8 then .ok (.fill count.toNat byte.toUInt16, data)
    else
      let entries := Bytes.samplesOf bits byte
      .ok (.entries ((List.replicate count.toNat entries).flatten.take count.toNat), data)
  | _ => .error cutShort

def black (pixels : Nat) : List UInt16 := List.replicate (3 * pixels) 0

/-- Follows the steps through lines of `width` pixels, of which `left` are still to come, the
current one with it. The line has pixels up to `column`, which is beyond its end after a run that
was cut, and what is skipped is black. To skip nothing is never a fault. -/
def unpackFrom (bits width : Nat) (palette : Palette) :
    Nat → Nat → Nat → Array UInt16 → List UInt8 → Except Fault (Array UInt16)
  | 0, _, _, _, _ => .error cutShort
  | _, 0, _, out, _ => .ok out
  | bound + 1, left + 1, column, out, data => do
    let (next, data) ← step bits data
    match next with
    | .entries run =>
      if width < column + run.length then throw malformed
      unpackFrom bits width palette bound (left + 1) (column + run.length)
        (out ++ run.flatMap palette.colour) data
    | .fill count entry =>
      let shown := List.replicate (min count (width - column)) (palette.colour entry)
      unpackFrom bits width palette bound (left + 1) (column + count) (out ++ shown.flatten) data
    | .endOfLine => unpackFrom bits width palette bound left 0 (out ++ black (width - column)) data
    | .endOfImage => return out ++ black (width - column + left * width)
    | .skip columns lines =>
      if left < lines ∨ (0 < columns + lines ∧ width < column + columns) then throw malformed
      unpackFrom bits width palette bound (left + 1 - lines) (column + columns)
        (out ++ black (lines * width + columns)) data

def cutLines (size : Nat) : Nat → List UInt16 → List (List UInt16)
  | 0, _ => []
  | count + 1, samples => samples.take size :: cutLines size count (samples.drop size)

/-- The packed lines as they are stored. Every step takes at least one byte. -/
def unpack (h : Header) (bits : Nat) (palette : Palette) (data : List UInt8) :
    Except Fault (List (List UInt16)) := do
  let samples ← unpackFrom bits h.width palette (data.length + 2) h.height 0 #[] data
  return cutLines (3 * h.width) h.height samples.toList

def read (file : List UInt8) : Except Fault Raster := do
  let h ← readHeader file
  let palette ← readPalette file h
  Raster.checkSize h.layout h.width h.height
  let stored ← match h.storage with
    | .runs bits => unpack h bits palette (file.drop h.dataOffset)
    | _ =>
      let data ← slice file h.dataOffset (h.lineBytes * h.height)
      pure (storedLines h palette h.height data)
  match Raster.ofSamples? h.layout h.width h.height
      (if h.topDown then stored else stored.reverse).flatten with
  | some raster => return raster
  | none => throw malformed

end PagedReport.Bmp
