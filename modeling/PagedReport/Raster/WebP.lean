import PagedReport.Raster.Bytes
import PagedReport.Raster.FileFormat

/-! WebP files as far as their headers go: the sides of the image, checked against what the memory
allows. The pixels are not decoded, so a file with sound headers ends in a fault as well. -/
namespace PagedReport.WebP

open Raster (Fault)

def malformed : Fault := .malformed .webp
def cutShort : Fault := .cutShort .webp

def take (count : Nat) (file : List UInt8) : Except Fault (List UInt8 × List UInt8) :=
  match Bytes.split? count file with
  | some result => .ok result
  | none => .error cutShort

def number (count : Nat) (file : List UInt8) : Except Fault (Nat × List UInt8) := do
  let (bytes, file) ← take count file
  return (Bytes.littleEndian bytes, file)

/-- Sides have fourteen bits. -/
def side (n : Nat) : Nat := n % 0x4000

/-- The three bytes before the sides of a lossy image. -/
def lossyStart : List UInt8 := [0x9d, 0x01, 0x2a]

/-- Why a lossy image is not read. It is a whole picture, of a known version and shown, and the
size of its first part is given. -/
def lossy (chunk : Nat) (file : List UInt8) : Except Fault Unit := do
  let content := file.take chunk
  let (tag, file) ← number 3 file
  if tag.testBit 0 ∨ 3 < tag / 2 % 8 ∨ !tag.testBit 4 then throw malformed
  let (start, file) ← take 3 file
  if start ≠ lossyStart then throw malformed
  let (width, file) ← number 2 file
  let (height, _) ← number 2 file
  if side width = 0 ∨ side height = 0 then throw malformed
  Raster.checkSize ⟨true, false, .eight⟩ (side width) (side height)
  let _ ← take (10 + tag / 0x20) content

/-- Why a lossless image is not read: its first byte, its version, or its sides. -/
def lossless (file : List UInt8) : Except Fault Unit := do
  let (start, file) ← number 1 file
  if start ≠ 0x2f then throw malformed
  let (head, _) ← number 4 file
  if head / 0x20000000 ≠ 0 then throw malformed
  Raster.checkSize ⟨true, head.testBit 28, .eight⟩ (side (head + 1)) (side (head / 0x4000 + 1))

def headers (name : List UInt8) (size : Nat) (file : List UInt8) : Except Fault Unit :=
  if name = "VP8 ".toUTF8.toList then lossy size file
  else if name = "VP8L".toUTF8.toList then lossless file
  else if name = "VP8X".toUTF8.toList then (take 10 file).map fun _ => ()
  else .error malformed

def read (file : List UInt8) : Except Fault Raster := do
  let (name, file) ← take 4 file
  let (size, file) ← number 4 file
  headers name size file
  throw malformed

end PagedReport.WebP
