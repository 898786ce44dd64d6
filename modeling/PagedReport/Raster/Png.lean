import PagedReport.Raster.Inflate
import PagedReport.Raster.FileFormat

/-! PNG files. Chunks are read one after the other, each with its check sum, up to the first chunk
after the image data. The data is decompressed as far as the image needs it, or to its end if the
image is interlaced, unfiltered line by line, and brought to eight or sixteen bits, colours and
transparency listed apart being filled in. -/
namespace PagedReport.Png

open Raster (Fault)

def malformed : Fault := .malformed .png
def cutShort : Fault := .cutShort .png

def crcBit (sum : Nat) : Nat := if sum % 2 = 1 then 0xEDB88320 ^^^ (sum / 2) else sum / 2

def crcByte (sum : Nat) (byte : UInt8) : Nat :=
  (crcBit ∘ crcBit ∘ crcBit ∘ crcBit ∘ crcBit ∘ crcBit ∘ crcBit ∘ crcBit) (sum ^^^ byte.toNat)

def crc (bytes : List UInt8) : Nat := bytes.foldl crcByte 0xFFFFFFFF ^^^ 0xFFFFFFFF

inductive ColourKind where
  | gray
  | rgb
  | palette
  | grayAlpha
  | rgbAlpha
  deriving DecidableEq

namespace ColourKind

def ofCode? : Nat → Option ColourKind
  | 0 => some .gray
  | 2 => some .rgb
  | 3 => some .palette
  | 4 => some .grayAlpha
  | 6 => some .rgbAlpha
  | _ => none

def bitDepths : ColourKind → List Nat
  | .gray => [1, 2, 4, 8, 16]
  | .palette => [1, 2, 4, 8]
  | _ => [8, 16]

def samples : ColourKind → Nat
  | .gray | .palette => 1
  | .grayAlpha => 2
  | .rgb => 3
  | .rgbAlpha => 4

end ColourKind

structure Header where
  width : Nat
  height : Nat
  bitDepth : Nat
  kind : ColourKind
  interlaced : Bool

def Header.ofBytes? (content : List UInt8) : Option Header := do
  let (width, content) ← Bytes.split? 4 content
  let (height, content) ← Bytes.split? 4 content
  match content with
  | [bitDepth, kind, compression, filtering, interlacing] =>
    let kind ← ColourKind.ofCode? kind.toNat
    if bitDepth.toNat ∈ kind.bitDepths ∧ compression = 0 ∧ filtering = 0 ∧ interlacing ≤ 1 ∧
        0 < Bytes.bigEndian width ∧ 0 < Bytes.bigEndian height then
      some ⟨Bytes.bigEndian width, Bytes.bigEndian height, bitDepth.toNat, kind, interlacing = 1⟩
    else none
  | _ => none

/-- What the chunks before the image data say. -/
structure Info where
  header : Header
  palette : Option (List UInt8)
  transparency : Option (List UInt8)
  /-- The number of the last frame announced, in a file with an animation. -/
  frame : Option Nat
  /-- The space of the colours was described. -/
  hasColourSpace : Bool

/-- The layout of the image once it is expanded. -/
def Info.layout (info : Info) : Layout where
  hasColour := info.header.kind ∈ [ColourKind.rgb, .palette, .rgbAlpha]
  hasAlpha := info.transparency.isSome || info.header.kind ∈ [ColourKind.grayAlpha, .rgbAlpha]
  depth := if info.header.bitDepth = 16 then .sixteen else .eight

/-- What is known once the header is read. The image's samples must have addresses. -/
def Info.ofHeader (header : Header) : Except Fault Info :=
  let info : Info := ⟨header, none, none, none, false⟩
  if Raster.greatestAddress < Raster.sizeInMemory info.layout header.width header.height then
    .error .tooLarge
  else .ok info

def nameOf (text : String) : List UInt8 := text.toList.map fun c => .ofNat c.toNat

/-- A chunk that a reader may pass over: its name begins with a small letter. -/
def isAncillary (name : List UInt8) : Bool := name.head?.any fun byte => byte.toNat.testBit 5

/-- The least and the greatest length of a chunk's content, for the chunks that matter here. -/
def lengthBounds? (name : List UInt8) : Option (Nat × Nat) :=
  [(nameOf "IHDR", 13, 13), (nameOf "PLTE", 3, 768), (nameOf "IEND", 0, 0),
    (nameOf "fcTL", 26, 26), (nameOf "tRNS", 1, 256), (nameOf "cICP", 4, 4),
    (nameOf "bKGD", 1, 6)].lookup name

def hasRightLength (name : List UInt8) (length : Nat) : Bool :=
  (lengthBounds? name).any fun (least, greatest) => least ≤ length && length ≤ greatest

/-- A list of transparency fits the kind of image: a gray value, a colour, or entries of a palette
that came before. Pixels with alpha of their own have none. -/
def Info.fitsTransparency (info : Info) (content : List UInt8) : Bool :=
  info.transparency.isNone && match info.header.kind with
    | .gray => 2 ≤ content.length
    | .rgb => 6 ≤ content.length
    | .palette => info.palette.isSome
    | _ => false

def Info.nextFrame (info : Info) : Nat :=
  match info.frame with
  | none => 0
  | some number => number + 1

/-- A frame announced before any data is the whole image; its number is the next one. -/
def Info.fitsFrame (info : Info) (content : List UInt8) : Bool :=
  let side (i : Nat) : Nat := Bytes.bigEndian ((content.drop (4 * i)).take 4)
  side 0 = info.nextFrame && side 1 = info.header.width && side 2 = info.header.height &&
    side 3 = 0 && side 4 = 0 && content.getD 24 0 ≤ 2 && content.getD 25 0 ≤ 1

/-- A description of the colours' space says that they are red, green and blue, and whether they
have their full range. -/
def fitsColourSpace (content : List UInt8) : Bool :=
  content.getD 2 0 = 0 && content.getD 3 0 ≤ 1

/-- Takes in a chunk's content. A second header or palette and an end before any data are faults,
and so are a frame that does not fit, a colour space that is not one of red, green and blue, and a
background of a palette that is not there. A list of transparency that does not fit is left out, as
is any other ancillary chunk of a wrong length. -/
def Info.add (info : Info) (name content : List UInt8) : Except Fault Info :=
  if name = nameOf "PLTE" then
    if info.palette.isNone then .ok { info with palette := some content } else .error malformed
  else if name = nameOf "fcTL" then
    if info.fitsFrame content then .ok { info with frame := some info.nextFrame }
    else .error malformed
  else if !isAncillary name then .error malformed
  else if !hasRightLength name content.length then .ok info
  else if name = nameOf "tRNS" ∧ info.fitsTransparency content then
    .ok { info with transparency := some content }
  else if name = nameOf "cICP" ∧ !info.hasColourSpace ∧ info.palette.isNone then
    if fitsColourSpace content then .ok { info with hasColourSpace := true }
    else .error .contradiction
  else if name = nameOf "bKGD" ∧ info.header.kind = .palette ∧ info.palette.isNone then
    .error .contradiction
  else .ok info

/-- The length of a chunk's content, its name, and what follows them. -/
def chunkStart (file : List UInt8) : Except Fault (Nat × List UInt8 × List UInt8) :=
  match Bytes.split? 8 file with
  | some (start, file) => .ok (Bytes.bigEndian (start.take 4), start.drop 4, file)
  | none => .error cutShort

/-- The content of a chunk, whether its sum is right, and what follows them. -/
def chunkContent (name : List UInt8) (length : Nat) (file : List UInt8) :
    Except Fault (List UInt8 × Bool × List UInt8) :=
  match Bytes.split? (length + 4) file with
  | some (chunk, file) =>
    let content := chunk.take length
    .ok (content, Bytes.bigEndian (chunk.drop length) = crc (name ++ content), file)
  | none => .error cutShort

/-- Refuses a chunk before the image data that cannot be passed over, if it is unknown or of a
wrong length, and a piece of a frame. -/
def checkStart (name : List UInt8) (length : Nat) : Except Fault Unit :=
  if name = nameOf "fdAT" then .error malformed
  else if (isAncillary name && name ≠ nameOf "fcTL") || hasRightLength name length then .ok ()
  else .error malformed

/-- Reads the chunks after the header up to the first one with image data. An ancillary chunk with
a wrong sum is passed over. -/
def infoFrom : Nat → Info → List UInt8 → Except Fault (Info × List UInt8)
  | 0, _, _ => .error cutShort
  | bound + 1, info, file => do
    let (length, name, rest) ← chunkStart file
    if name = nameOf "IDAT" then return (info, file)
    checkStart name length
    let (content, isSound, rest) ← chunkContent name length rest
    if isSound then infoFrom bound (← info.add name content) rest
    else if isAncillary name then infoFrom bound info rest
    else throw malformed

def info (file : List UInt8) : Except Fault (Info × List UInt8) := do
  let (length, name, rest) ← chunkStart file
  if name ≠ nameOf "IHDR" then throw malformed
  checkStart name length
  let (content, isSound, rest) ← chunkContent name length rest
  match isSound, Header.ofBytes? content with
  | true, some header => infoFrom (rest.length + 1) (← Info.ofHeader header) rest
  | _, _ => throw malformed

def Header.pixelBits (h : Header) : Nat := h.kind.samples * h.bitDepth

/-- The distance in bytes between neighbouring pixels, at least one. -/
def Header.pixelBytes (h : Header) : Nat := (h.pixelBits + 7) / 8

def Header.lineBytes (h : Header) (width : Nat) : Nat := (width * h.pixelBits + 7) / 8

/-- The passes of an interlaced image: first column and row, and the steps between them. -/
def passes : List (Nat × Nat × Nat × Nat) :=
  [(0, 0, 8, 8), (4, 0, 8, 8), (0, 4, 4, 8), (2, 0, 4, 4), (0, 2, 2, 4), (1, 0, 2, 2), (0, 1, 1, 2)]

/-- The number of columns or rows that a pass has. -/
def passSize (whole first step : Nat) : Nat := (whole + step - 1 - first) / step

/-- The widths and heights of the passes, or of the whole image; without those that are empty. -/
def Header.parts (h : Header) : List (Nat × Nat) :=
  if h.interlaced then
    (passes.map fun (firstX, firstY, stepX, stepY) =>
      (passSize h.width firstX stepX, passSize h.height firstY stepY)).filter fun (width, height) =>
        0 < width && 0 < height
  else [(h.width, h.height)]

/-- The space for the data: lines with a filter each. That of an interlaced image has no limit. -/
def Header.space (h : Header) : Option Nat :=
  if h.interlaced then none else some (h.height * (h.lineBytes h.width + 1))

def greatestFilter : UInt8 := 4

/-- The lines from `start` on that are complete have filters that are known. -/
def Header.hasKnownFilters (h : Header) (data : Array UInt8) : List (Nat × Nat) → Nat → Bool
  | [], _ => true
  | (width, height) :: more, start =>
    let size := h.lineBytes width + 1
    let complete := min height ((data.size - start) / size)
    ((List.range complete).all fun i => data.getD (start + size * i) 0 ≤ greatestFilter) &&
      hasKnownFilters h data more (start + size * height)

/-- Refuses an unknown filter of a line, and a line of entries without a palette, as soon as the
line is complete. -/
def Info.checkLines (info : Info) (data : Array UInt8) : Except Fault Unit :=
  let h := info.header
  let firstLine := (h.parts.head?.map fun (width, _) => h.lineBytes width + 1).getD 0
  if h.kind = .palette ∧ info.palette.isNone ∧ firstLine ≤ data.size then .error malformed
  else if h.hasKnownFilters data h.parts 0 then .ok ()
  else .error malformed

/-- Decompresses the data of chunks that follow one another, until the space is full; the chunks
after that are only checked. If the space is not full after the last one, the data must have come to
its end. -/
def dataFrom (info : Info) : Nat → Inflate.Stream → List UInt8 → Except Fault (Array UInt8)
  | 0, _, _ => .error cutShort
  | bound + 1, stream, file => do
    let (length, name, rest) ← chunkStart file
    if name ≠ nameOf "IDAT" then
      if stream.isFull || stream.isComplete then return stream.out else throw malformed
    let stream ←
      if stream.isFull then pure stream
      else
        match stream.feed (rest.take length) with
        | some stream => pure stream
        | none => throw malformed
    info.checkLines stream.out
    let (_, isSound, rest) ← chunkContent name length rest
    if isSound then dataFrom info bound stream rest else throw malformed

/-- The neighbour closest to a guess from all three, the left one first and the upper one next. -/
def paeth (left up corner : Nat) : Nat :=
  let distance (a : Nat) : Nat := ((left : Int) + up - corner - a).natAbs
  if distance left ≤ distance up ∧ distance left ≤ distance corner then left
  else if distance up ≤ distance corner then up
  else corner

def predicted (filter : UInt8) (left up corner : Nat) : Option Nat :=
  match filter.toNat with
  | 0 => some 0
  | 1 => some left
  | 2 => some up
  | 3 => some ((left + up) / 2)
  | 4 => some (paeth left up corner)
  | _ => none

/-- Undoes the filter of a line. `done` holds the bytes before, last one first, and `above` the line
above from this byte on, after the bytes over those before. -/
def unfilterFrom (filter : UInt8) (distance : Nat) :
    List UInt8 → List UInt8 → List UInt8 → List UInt8 → Option (List UInt8)
  | done, _, _, [] => some done.reverse
  | done, aboveDone, above, byte :: line => do
    let back (bytes : List UInt8) : Nat := (bytes[distance - 1]?.getD 0).toNat
    let up := above.headD 0
    let guess ← predicted filter (back done) up.toNat (back aboveDone)
    unfilterFrom filter distance (.ofNat (byte.toNat + guess) :: done) (up :: aboveDone)
      (above.drop 1) line

def lines (bytesPerLine distance : Nat) : Nat → List UInt8 → List UInt8 → Option (List (List UInt8))
  | 0, _, _ => some []
  | count + 1, above, data => do
    let (filter, data) ← Bytes.split? 1 data
    let (line, data) ← Bytes.split? bytesPerLine data
    let line ← unfilterFrom (filter.headD 0) distance [] [] above line
    let more ← lines bytesPerLine distance count line data
    return line :: more

/-- Pairs of bytes as samples of sixteen bits. -/
def wideSamples : List UInt8 → List UInt16
  | high :: low :: rest => .ofNat (256 * high.toNat + low.toNat) :: wideSamples rest
  | _ => []

def lineSamples (h : Header) (count : Nat) (line : List UInt8) : List UInt16 :=
  if h.bitDepth = 16 then wideSamples line
  else (line.flatMap (Bytes.samplesOf h.bitDepth)).take count

def rows (h : Header) (width height : Nat) (data : List UInt8) :
    Option (List (List UInt16) × List UInt8) := do
  if width = 0 ∨ height = 0 then return ([], data)
  let found ← lines (h.lineBytes width) h.pixelBytes height [] data
  return (found.map (lineSamples h (width * h.kind.samples)),
    data.drop (height * (h.lineBytes width + 1)))

def scatter (h : Header) (pass : Nat × Nat × Nat × Nat) (found : List (List UInt16))
    (samples : Array UInt16) : Array UInt16 :=
  let (firstX, firstY, stepX, stepY) := pass
  let channels := h.kind.samples
  found.zipIdx.foldl (fun samples (line, y) =>
    line.zipIdx.foldl (fun samples (sample, i) =>
      let x := firstX + stepX * (i / channels)
      samples.setIfInBounds
        (((firstY + stepY * y) * h.width + x) * channels + i % channels) sample) samples) samples

def interlaced (h : Header) : List (Nat × Nat × Nat × Nat) → Array UInt16 → List UInt8 →
    Option (Array UInt16)
  | [], samples, _ => some samples
  | pass :: more, samples, data => do
    let (firstX, firstY, stepX, stepY) := pass
    let (found, data) ←
      rows h (passSize h.width firstX stepX) (passSize h.height firstY stepY) data
    interlaced h more (scatter h pass found samples) data

/-- The samples of the file in the order of the image. -/
def fileSamples (h : Header) (data : List UInt8) : Option (List UInt16) :=
  if h.interlaced then
    (interlaced h passes (.replicate (h.width * h.height * h.kind.samples) 0) data).map
      Array.toList
  else (rows h h.width h.height data).map fun (found, _) => found.flatten

def grouped (size : Nat) : Nat → List UInt16 → List (List UInt16)
  | 0, _ => []
  | count + 1, samples => samples.take size :: grouped size count (samples.drop size)

/-- The colour of a palette's entry; beyond the palette it is black. -/
def paletteColour (palette : List UInt8) (entry : UInt16) : List UInt16 :=
  (List.range 3).map fun i => ((palette[3 * entry.toNat + i]?).getD 0).toUInt16

/-- A sample of fewer than eight bits on the scale of eight. -/
def scaled (bitDepth : Nat) (sample : UInt16) : UInt16 :=
  if bitDepth < 8 then .ofNat (sample.toNat * 255 / (Nat.pow 2 bitDepth - 1)) else sample

/-- The most that a sample can be once it is scaled. -/
def opaqueSample (bitDepth : Nat) : UInt16 := if bitDepth = 16 then 65535 else 255

/-- A pixel with its colours filled in, and with alpha where the file lists transparency apart:
entry by entry for a palette, else by the one colour that is transparent. -/
def expanded (info : Info) (pixel : List UInt16) : List UInt16 :=
  let depth := info.header.bitDepth
  match info.header.kind with
  | .palette =>
    let entry := pixel.headD 0
    paletteColour (info.palette.getD []) entry ++
      match info.transparency with
      | none => []
      | some alphas => [((alphas[entry.toNat]?).getD 255).toUInt16]
  | .gray | .rgb =>
    pixel.map (scaled depth) ++
      match info.transparency with
      | none => []
      | some key =>
        let known := (wideSamples key).take pixel.length
        [if known.map (fun sample => .ofNat (sample.toNat % Nat.pow 2 depth)) = pixel then 0
          else opaqueSample depth]
  | .grayAlpha | .rgbAlpha => pixel

/-- The image from the data of its lines. -/
def Info.raster? (info : Info) (data : List UInt8) : Option Raster := do
  let h := info.header
  let samples ← fileSamples h data
  let pixels := grouped h.kind.samples (h.width * h.height) samples
  Raster.ofSamples? info.layout h.width h.height (pixels.flatMap (expanded info))

def read (file : List UInt8) : Except Fault Raster := do
  let (info, file) ← info file
  let h := info.header
  Raster.checkSize info.layout h.width h.height
  let data ← dataFrom info (file.length + 1) (.start h.space) file
  match info.raster? data.toList with
  | some raster => .ok raster
  | none => .error malformed

end PagedReport.Png
