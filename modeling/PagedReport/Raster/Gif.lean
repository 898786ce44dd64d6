import PagedReport.Raster.Bytes
import PagedReport.Raster.FileFormat

/-! GIF files: the first frame on a transparent screen, as colours with alpha. The pixels of a frame
are entries of a palette, in codes that grow as the table of known sequences does, and are read in
rounds. A file is read only as far as the frame needs it. Every fault is one of format, but for a
file that ends properly without a frame and for sides that would take too much memory. -/
namespace PagedReport.Gif

open Raster (Fault)

def malformed : Fault := .malformed .gif

/-- A table of sequences, by code. The two codes after the single entries clear it and end the
data; the sequence last written and one more entry make the next one. Codes have one bit more than
entries at first, and one more still whenever the table reaches their greatest value. An entry is a
byte, even if its code is not. -/
structure Table where
  least : Nat
  codeWidth : Nat
  sequences : Array (List Nat)

namespace Table

def clearCode (t : Table) : Nat := Nat.pow 2 t.least

def endCode (t : Table) : Nat := Nat.pow 2 t.least + 1

def fresh (least : Nat) : Table :=
  ⟨least, least + 1,
    ((List.range (Nat.pow 2 least)).map fun code => [code % 256]).toArray ++ #[[], []]⟩

def greatestWidth : Nat := 12

def capacity : Nat := Nat.pow 2 greatestWidth

/-- The next sequence has the greatest code of the present width, or a greater one. -/
def isAtEdge (t : Table) : Bool := Nat.pow 2 t.codeWidth ≤ t.sequences.size + 1

def learn (t : Table) (sequence : List Nat) : Table :=
  if t.sequences.size < capacity then
    { t with
      codeWidth := if t.isAtEdge then min greatestWidth (t.codeWidth + 1) else t.codeWidth
      sequences := t.sequences.push sequence }
  else t

end Table

/-- The sequence of a code: one that is known, or the very next one after another sequence. -/
def Table.sequence? (t : Table) (last : List Nat) (code : Nat) : Option (List Nat) :=
  match t.sequences[code]? with
  | some sequence => some sequence
  | none => if code = t.sequences.size then last.head?.map fun first => last ++ [first] else none

structure Reader where
  table : Table
  /-- The sequence written last, or nothing at the start and after the table was cleared. -/
  last : List Nat
  /-- Bits of the file that are taken but not used. -/
  held : List Bool
  /-- Entries that are read but not written. -/
  waiting : List Nat
  ended : Bool

namespace Reader

def start (least : Nat) : Reader := ⟨.fresh least, [], [], [], false⟩

/-- Up to eight bytes are held. -/
def fill (r : Reader) (data : List UInt8) : Reader × List UInt8 :=
  let count := (64 - r.held.length) / 8
  ({ r with held := r.held ++ Bytes.bits (data.take count) }, data.drop count)

/-- A code that clears the table or ends the data, if it is one. -/
def command? (r : Reader) (code : Nat) : Option Reader :=
  if code = r.table.clearCode then some { r with table := .fresh r.table.least, last := [] }
  else if code = r.table.endCode then some { r with ended := true }
  else none

/-- There is a sequence for the next one to follow, and it is written. -/
def isBetweenCodes (r : Reader) : Bool := !r.ended && !r.last.isEmpty && r.waiting.isEmpty

/-- Reads a code that follows no sequence; its entry waits to be written. -/
def first? (r : Reader) (data : List UInt8) : Option (Reader × List UInt8) := do
  let (r, data) := if r.held.length < r.table.codeWidth then r.fill data else (r, data)
  match Bytes.takeBits? r.table.codeWidth r.held with
  | none => return (r, data)
  | some (code, held) =>
    let r := { r with held := held }
    match r.command? code with
    | some r => return (r, data)
    | none =>
      let sequence ← r.table.sequence? [] code
      return ({ r with last := sequence, waiting := sequence }, data)

/-- Reads a group of codes that follow sequences and writes theirs; a sequence that would go beyond
the goal waits. The group ends early with a command, with a code that was new when it began, or
where the width of codes grows. -/
def group? (known goal : Nat) : Nat → Reader → Array Nat → Option (Reader × Array Nat)
  | 0, r, out => some (r, out)
  | count + 1, r, out =>
    match Bytes.takeBits? r.table.codeWidth r.held with
    | none => some (r, out)
    | some (code, held) =>
      let r := { r with held := held }
      match r.command? code with
      | some r => some (r, out)
      | none => do
        let sequence ← r.table.sequence? r.last code
        let isLast := r.table.isAtEdge || known ≤ code
        let r := { r with table := r.table.learn (r.last ++ sequence.take 1), last := sequence }
        if goal < out.size + sequence.length then return ({ r with waiting := sequence }, out)
        let out := out ++ sequence.toArray
        if isLast then return (r, out) else group? known goal count r out

def groupSize : Nat := 6

/-- Reads groups of the codes that are held, up to a goal, to a command, or to the end of the data
at hand. -/
def groupsFrom (goal : Nat) : Nat → Reader → Array Nat → List UInt8 →
    Option (Reader × Array Nat × List UInt8)
  | 0, _, _, _ => none
  | bound + 1, r, out, data => do
    if goal ≤ out.size ∨ !r.isBetweenCodes then return (r, out, data)
    let (r, data) := r.fill data
    let count := min groupSize (r.held.length / r.table.codeWidth)
    if count = 0 then return (r, out, data)
    let (r, out) ← group? r.table.sequences.size goal count r out
    groupsFrom goal bound r out data

/-- Reads codes from the data at hand, up to a goal or to the next one that clears the table. What
waits is written first, as far as the goal allows; only after all of it do further codes count. -/
def round? (r : Reader) (out : Array Nat) (goal : Nat) (data : List UInt8) :
    Option (Reader × Array Nat × List UInt8) := do
  if r.ended then none
  let (r, data) ← if r.last.isEmpty then r.first? data else some (r, data)
  let space := goal - out.size
  let out := out ++ (r.waiting.take space).toArray
  let r := { r with waiting := r.waiting.drop space }
  groupsFrom goal (r.held.length + 8 * data.length + 1) r out data

end Reader

/-- Reads pixels up to one goal after the other. The data stands in pieces, each with its size in
front, of which `left` bytes are still to come of the current one. A piece of size zero, but for
the first one, ends the data: then only what is held counts. Every round needs a further byte of
the file, even if it does not take it. A round that begins between two codes and takes no byte
loses the rest of its piece, or ends the data unless it has written a pixel. -/
def pixelsFrom : Nat → Reader → Nat → List UInt8 → Array Nat → List Nat → Option (Array Nat)
  | 0, _, _, _, _, _ => none
  | _, _, _, _, out, [] => some out
  | bound + 1, r, left, file, out, goal :: goals =>
    if goal ≤ out.size then pixelsFrom bound r left file out goals
    else
      match left, file with
      | _, [] => none
      | 0, 0 :: _ => do
        let (next, more, _) ← r.round? out goal []
        if more.size = out.size ∧ (r.isBetweenCodes ∨ next.held.length = r.held.length) then none
        else pixelsFrom bound next 0 file more (goal :: goals)
      | 0, size :: file => pixelsFrom bound r size.toNat file out (goal :: goals)
      | left, file => do
        let atHand := min left file.length
        let (next, more, rest) ← r.round? out goal (file.take left)
        let taken :=
          if r.isBetweenCodes && rest.length = atHand then atHand else atHand - rest.length
        pixelsFrom bound next (left - taken) (file.drop taken) more (goal :: goals)

/-- The pixels of compressed data that begins with the size of its first piece, up to goals that
are read one after the other. A round takes a byte, uses a bit or writes a pixel. -/
def decode? (least : Nat) (goals : List Nat) (data : List UInt8) : Option (List Nat) :=
  match data with
  | [] => none
  | size :: file =>
    (pixelsFrom (goals.length + goals.getLastD 0 + 10 * file.length + 2) (.start least) size.toNat
      file #[] goals).map Array.toList

/-- What follows data in pieces, the last of which must have a size that fits; without any, the
size is zero. -/
def afterPieces (fits : Nat → Bool) : Nat → Nat → List UInt8 → Except Fault (List UInt8)
  | 0, _, _ | _, _, [] => .error malformed
  | bound + 1, last, size :: file =>
    if size ≠ 0 then afterPieces fits bound size.toNat (file.drop size.toNat)
    else if fits last then .ok file
    else .error malformed

def take (count : Nat) (file : List UInt8) : Except Fault (List UInt8 × List UInt8) :=
  match Bytes.split? count file with
  | some result => .ok result
  | none => .error malformed

def palette (packed : UInt8) (file : List UInt8) :
    Except Fault (Option (List UInt8) × List UInt8) := do
  if packed.toNat.testBit 7 then
    let (colours, file) ← take (3 * Nat.pow 2 (packed.toNat % 8 + 1)) file
    return (some colours, file)
  else return (none, file)

/-- The screen: its sides and the palette for frames without one of their own. -/
structure Screen where
  width : Nat
  height : Nat
  shared : Option (List UInt8)

def sideAt (i : Nat) (bytes : List UInt8) : Nat := Bytes.littleEndian ((bytes.drop i).take 2)

def screen (file : List UInt8) : Except Fault (Screen × List UInt8) := do
  let (head, file) ← take 13 file
  let (shared, file) ← palette (head.getD 10 0) file
  return (⟨sideAt 6 head, sideAt 8 head, shared⟩, file)

/-- What follows an extension. Controls of frames, texts, comments and those of applications are
known; the last piece of a control has four bytes. -/
def afterExtension (file : List UInt8) : Except Fault (List UInt8) :=
  match file with
  | 0xf9 :: file => afterPieces (· = 4) (file.length + 1) 0 file
  | label :: file =>
    if label ∈ [0x01, 0xfe, 0xff] then afterPieces (fun _ => true) (file.length + 1) 0 file
    else .error malformed
  | [] => .error malformed

/-- The file from the first block on that is no extension. A block has more than its first byte,
except for the last one of all after an extension. -/
def afterExtensions : Nat → Bool → List UInt8 → Except Fault (List UInt8)
  | 0, _, _ => .error malformed
  | bound + 1, isFirst, file => do
    match file with
    | 0x21 :: file => afterExtensions bound false (← afterExtension file)
    | [0x3b] => if isFirst then throw malformed else return file
    | _ :: _ :: _ => return file
    | _ => throw malformed

/-- The place of a frame on the screen, and how its pixels are stored. -/
structure Frame where
  left : Nat
  top : Nat
  width : Nat
  height : Nat
  interlaced : Bool
  colours : List UInt8
  least : Nat

def greatestLeast : Nat := 11

def frame (s : Screen) (file : List UInt8) : Except Fault (Frame × List UInt8) := do
  let (place, file) ← take 9 file
  let packed := place.getD 8 0
  let (own, file) ← palette packed file
  match own <|> s.shared, file with
  | some colours, least :: data :: file =>
    if least = 0 ∨ greatestLeast < least.toNat then throw malformed
    return (⟨sideAt 0 place, sideAt 2 place, sideAt 4 place, sideAt 6 place,
      packed.toNat.testBit 6, colours, least.toNat⟩, data :: file)
  | _, _ => throw malformed

/-- A frame from edge to edge needs no memory besides that of the screen. -/
def Frame.spans (f : Frame) (s : Screen) : Bool :=
  f.left = 0 && f.width = s.width && f.top + f.height ≤ s.height

def layout : Layout := ⟨true, true, .eight⟩

/-- Refuses a frame that takes too much memory besides the screen. -/
def Frame.checkSize (f : Frame) (s : Screen) : Except Fault Unit :=
  if !f.spans s &&
      Raster.memoryLimit - Raster.sizeInMemory layout s.width s.height <
        Raster.sizeInMemory layout f.width f.height then
    .error .tooLarge
  else .ok ()

/-- The lines of an interlaced frame in the order in which they are stored. -/
def storedOrder (height : Nat) : List Nat :=
  [(0, 8), (4, 8), (2, 4), (1, 2)].flatMap fun (first, step) =>
    (List.range ((height + step - 1 - first) / step)).map fun i => first + step * i

def inOrder (width height : Nat) (entries : List Nat) : List Nat :=
  let order := storedOrder height
  (List.range height).flatMap fun y =>
    (entries.drop (width * order.idxOf y)).take width

/-- The numbers of pixels at which reading pauses: after each line of an interlaced frame, and only
at the end of any other. -/
def Frame.goals (f : Frame) : List Nat :=
  if f.interlaced then (List.range f.height).map fun y => f.width * (y + 1)
  else [f.width * f.height]

/-- The entries of a frame's pixels from the top. A frame has lines of at least one pixel, and at
least one line if it is not interlaced. -/
def Frame.entries? (f : Frame) (data : List UInt8) : Option (List Nat) := do
  if f.interlaced ∧ f.height = 0 then return []
  if f.width * f.height = 0 then none
  let entries ← decode? f.least f.goals data
  return if f.interlaced then inOrder f.width f.height entries else entries

/-- The pixel of a frame at a place of the screen. Outside the frame, and for an entry beyond the
palette, it is transparent. -/
def Frame.pixel (f : Frame) (entries : Array Nat) (x y : Nat) : List UInt16 :=
  if f.left ≤ x ∧ x < f.left + f.width ∧ f.top ≤ y ∧ y < f.top + f.height then
    let entry := entries.getD ((y - f.top) * f.width + (x - f.left)) 0
    match (f.colours.drop (3 * entry)).take 3 with
    | [red, green, blue] => [red.toUInt16, green.toUInt16, blue.toUInt16, 255]
    | _ => [0, 0, 0, 0]
  else [0, 0, 0, 0]

def Frame.raster? (f : Frame) (s : Screen) (data : List UInt8) : Option Raster := do
  let entries := (← f.entries? data).toArray
  Raster.ofSamples? layout s.width s.height
    ((List.range s.height).flatMap fun y => (List.range s.width).flatMap fun x =>
      f.pixel entries x y)

def read (file : List UInt8) : Except Fault Raster := do
  let (s, file) ← screen file
  let file ← afterExtensions (file.length + 1) true file
  Raster.checkSize layout s.width s.height
  match file with
  | 0x3b :: _ => throw .noImage
  | 0x2c :: file =>
    let (f, data) ← frame s file
    f.checkSize s
    match f.raster? s data with
    | some raster => return raster
    | none => throw malformed
  | _ => throw malformed

end PagedReport.Gif
