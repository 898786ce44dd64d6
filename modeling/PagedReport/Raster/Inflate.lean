import PagedReport.Raster.Bytes

/-! Decompressing zlib data into a space of given size, or into one without a limit: stored blocks,
and blocks of Huffman codes with back references. The data comes in pieces, and each piece is read
as far as its bits go; what needs more of them waits for the next piece. Once the space is full,
only the end of the block and what comes before the next block's bytes are read, as far as the
piece goes, and a fault there still counts. The sum at the end must be there, but is not compared.
Loops are bounded by the number of bits that are left, of which every round takes at least one. -/
namespace PagedReport.Inflate

/-- Why reading stops: the bits at hand are used up, or the data is corrupt. -/
inductive Stop where
  | exhausted
  | corrupt

def take (width : Nat) (bits : List Bool) : Except Stop (Nat × List Bool) :=
  match Bytes.takeBits? width bits with
  | some result => .ok result
  | none => .error .exhausted

def needBits (count : Nat) (bits : List Bool) : Except Stop Unit :=
  if Bytes.hasBits count bits then .ok () else .error .exhausted

/-- A canonical Huffman code: for each length from 1 to the greatest, the symbols whose words have
it. -/
abbrev Code := List (List Nat)

/-- The code that gives each symbol a word of the given length, or none for length zero. -/
def Code.ofLengths (lengths : List Nat) : Code :=
  (List.range (lengths.foldl max 0)).map fun shorter =>
    lengths.zipIdx.filterMap fun (length, symbol) =>
      if length = shorter + 1 then some symbol else none

/-- Every sequence of bits begins with exactly one word: the words, counted in words of the
greatest length, are as many as there are of these. -/
def Code.isComplete (code : Code) : Bool :=
  code.foldl (fun used symbols => 2 * used + symbols.length) 0 = Nat.pow 2 code.length

/-- A code for distances may also have no word, or a single one of one bit. -/
def Code.fitsDistances (code : Code) : Bool :=
  code.isEmpty || code.map List.length = [1] || code.isComplete

structure Symbol where
  value : Nat
  width : Nat

/-- Reads one symbol. `word` is what was read of it, of the given width, and `first` the first word
that is one bit wider. -/
def symbolFrom : Code → Nat → Nat → Nat → List Bool → Except Stop (Symbol × List Bool)
  | [], _, _, _, _ => .error .corrupt
  | _ :: _, _, _, _, [] => .error .exhausted
  | symbols :: longer, width, word, first, bit :: bits =>
    let word := 2 * word + bit.toNat
    match symbols[word - first]? with
    | some value => .ok (⟨value, width + 1⟩, bits)
    | none => symbolFrom longer (width + 1) word (2 * (first + symbols.length)) bits

def symbol (code : Code) (bits : List Bool) : Except Stop (Symbol × List Bool) :=
  symbolFrom code 0 0 0 bits

/-- The least length of a copy for each symbol from 257 on, and the bits that follow it. -/
def lengthTable : List (Nat × Nat) := [
  (3, 0), (4, 0), (5, 0), (6, 0), (7, 0), (8, 0), (9, 0), (10, 0), (11, 1), (13, 1), (15, 1),
  (17, 1), (19, 2), (23, 2), (27, 2), (31, 2), (35, 3), (43, 3), (51, 3), (59, 3), (67, 4),
  (83, 4), (99, 4), (115, 4), (131, 5), (163, 5), (195, 5), (227, 5), (258, 0)]

/-- The least distance of a copy for each symbol, and the bits that follow it. -/
def distanceTable : List (Nat × Nat) := [
  (1, 0), (2, 0), (3, 0), (4, 0), (5, 1), (7, 1), (9, 2), (13, 2), (17, 3), (25, 3), (33, 4),
  (49, 4), (65, 5), (97, 5), (129, 6), (193, 6), (257, 7), (385, 7), (513, 8), (769, 8),
  (1025, 9), (1537, 9), (2049, 10), (3073, 10), (4097, 11), (6145, 11), (8193, 12), (12289, 12),
  (16385, 13), (24577, 13)]

def extended (table : List (Nat × Nat)) (symbol : Nat) (bits : List Bool) :
    Except Stop (Nat × List Bool) :=
  match table[symbol]? with
  | none => .error .corrupt
  | some (least, width) => do
    let (more, bits) ← take width bits
    return (least + more, bits)

/-- The length and the distance of a copy, after the symbol of its length. That no distance has
the word which follows is told from ten bits. -/
def reference (distances : Code) (lengthSymbol : Nat) (bits : List Bool) :
    Except Stop ((Nat × Nat) × List Bool) := do
  let (length, bits) ← extended lengthTable lengthSymbol bits
  match symbol distances bits with
  | .ok (word, bits) =>
    let (distance, bits) ← extended distanceTable word.value bits
    return ((length, distance), bits)
  | .error .corrupt => do
    needBits 10 bits
    throw .corrupt
  | .error .exhausted => throw .exhausted

/-- Appends bytes that stand `distance` before the end, one after the other, so that a copy may
run into what it has just written. -/
def copy (distance : Nat) : Nat → Array UInt8 → Array UInt8
  | 0, out => out
  | count + 1, out => copy distance count (out.push (out[out.size - distance]?.getD 0))

/-- The order in which the lengths of the code for lengths are given. -/
def lengthOrder : List Nat := [16, 17, 18, 0, 8, 7, 9, 6, 10, 5, 11, 4, 12, 3, 13, 2, 14, 1, 15]

/-- Reads the lengths of two codes, with repetitions, last one first. Seven bits, the longest word
of a length, must be there for each. -/
def codeLengths (code : Code) (count : Nat) :
    Nat → List Nat → List Bool → Except Stop (List Nat × List Bool)
  | 0, _, _ => .error .exhausted
  | bound + 1, known, bits => do
    if count ≤ known.length then return (known.reverse, bits)
    needBits 7 bits
    let (word, bits) ← symbol code bits
    let (added, bits) ← match word.value with
      | 16 => do
        let (more, bits) ← take 2 bits
        match known with
        | [] => throw .corrupt
        | last :: _ => pure (List.replicate (3 + more) last, bits)
      | 17 => do
        let (more, bits) ← take 3 bits
        pure (List.replicate (3 + more) 0, bits)
      | 18 => do
        let (more, bits) ← take 7 bits
        pure (List.replicate (11 + more) 0, bits)
      | length => pure ([length], bits)
    if count < known.length + added.length then throw .corrupt
    codeLengths code count bound (added ++ known) bits

/-- The codes that a block brings for its literals and distances. A block's end must have a word. -/
def ownCodes (bits : List Bool) : Except Stop ((Code × Code) × List Bool) := do
  needBits 14 bits
  let (literalCount, bits) ← take 5 bits
  let (distanceCount, bits) ← take 5 bits
  let (lengthCount, bits) ← take 4 bits
  if 29 < literalCount ∨ 29 < distanceCount then throw .corrupt
  let shown := lengthCount + 4
  needBits (3 * shown) bits
  let lengths := (List.range shown).map fun i => Bytes.ofBits ((bits.drop (3 * i)).take 3)
  let bits := bits.drop (3 * shown)
  let code := Code.ofLengths
    ((List.range 19).map fun symbol => ((lengthOrder.zip lengths).lookup symbol).getD 0)
  if !code.isComplete then throw .corrupt
  let literalCount := literalCount + 257
  let (all, bits) ← codeLengths code (literalCount + distanceCount + 1) (bits.length + 1) [] bits
  let literals := Code.ofLengths (all.take literalCount)
  let distances := Code.ofLengths (all.drop literalCount)
  if all[256]? = some 0 || !literals.isComplete || !distances.fitsDistances then throw .corrupt
  return ((literals, distances), bits)

/-- The code of literals for blocks that bring none. Its last two words, to which no length belongs,
end a block as the proper word does. -/
def fixedLiterals : Code := .ofLengths
  (List.replicate 144 8 ++ List.replicate 112 9 ++ List.replicate 24 7 ++ List.replicate 8 8)

/-- The code of distances for blocks that bring none; two words belong to no distance. -/
def fixedDistances : Code := .ofLengths (List.replicate 30 5)

/-- The length of a stored block, which begins on a byte's boundary and is given twice. -/
def storedLength (bits : List Bool) : Except Stop (Nat × List Bool) := do
  let (length, bits) ← take 16 (bits.drop (bits.length % 8))
  let (inverted, bits) ← take 16 bits
  if length + inverted ≠ 0xFFFF then throw .corrupt
  return (length, bits)

inductive Part where
  | header
  | blockHead
  | stored (left : Nat)
  | coded (literals distances : Code)
  | checkSum
  | nothing

/-- Data between two pieces: what comes next, the bits that are not used yet, and the bytes that
are written. -/
structure Stream where
  space : Option Nat
  part : Part
  /-- The block is the last one. -/
  isLast : Bool
  held : List Bool
  out : Array UInt8

namespace Stream

def start (space : Option Nat) : Stream := ⟨space, .header, false, [], #[]⟩

def isFull (s : Stream) : Bool := s.space.any (· ≤ s.out.size)

def isComplete (s : Stream) : Bool := s.part matches .nothing

def room (s : Stream) (count : Nat) : Nat :=
  match s.space with
  | some space => min count (space - s.out.size)
  | none => count

def endBlock (s : Stream) (bits : List Bool) : Stream :=
  { s with part := if s.isLast then .checkSum else .blockHead, held := bits }

def write (s : Stream) (literal : Symbol) : Stream :=
  { s with out := s.out.push (.ofNat literal.value) }

/-- The two bytes before the blocks name the method and carry a check of themselves. -/
def isHeader (method flags : Nat) : Bool :=
  method % 16 = 8 && method / 16 ≤ 7 && !flags.testBit 5 && (256 * method + flags) % 31 = 0

def header (s : Stream) : Except Stop Stream := do
  needBits 16 s.held
  let (method, bits) ← take 8 s.held
  let (flags, bits) ← take 8 bits
  if isHeader method flags then return { s with part := .blockHead, held := bits }
  else throw .corrupt

/-- The head of a block is read once ten bits are there, for a block of the fixed codes that is
empty has no more. -/
def blockHead (s : Stream) : Except Stop Stream := do
  needBits 10 s.held
  let (isLast, bits) ← take 1 s.held
  let (kind, bits) ← take 2 bits
  let s := { s with isLast := isLast = 1 }
  match kind with
  | 0 =>
    let (length, bits) ← storedLength bits
    return { s with part := .stored length, held := bits }
  | 1 =>
    if (bits.take 7).any id then
      return { s with part := .coded fixedLiterals fixedDistances, held := bits }
    else return s.endBlock (bits.drop 7)
  | 2 =>
    let ((literals, distances), bits) ← ownCodes bits
    return { s with part := .coded literals distances, held := bits }
  | _ => throw .corrupt

def bytesOf : Nat → List Bool → Array UInt8 → Array UInt8
  | 0, _, out => out
  | count + 1, bits, out =>
    bytesOf count (bits.drop 8) (out.push (.ofNat (Bytes.ofBits (bits.take 8))))

def stored (s : Stream) (left : Nat) : Stream :=
  let count := s.room (min left (s.held.length / 8))
  let bits := s.held.drop (8 * count)
  let s := { s with out := bytesOf count s.held s.out, held := bits }
  if count = left then s.endBlock bits else { s with part := .stored (left - count) }

inductive Follower where
  /-- Another literal that is read together with the first one. -/
  | literal (second : Symbol) (bits : List Bool)
  /-- Anything else. -/
  | other
  /-- Another literal, it seems, but not all of its bits are there. -/
  | cutShort

/-- A literal is read together with the one before it if both words take twelve bits at most, and
its own two at least. -/
def isPaired (first second : Symbol) : Bool :=
  second.value < 256 && 2 ≤ second.width && first.width + second.width ≤ 12

/-- Looks at what follows a literal. Where bits are missing, zeros stand for them. -/
def follower (literals : Code) (first : Symbol) (bits : List Bool) : Follower :=
  match symbol literals bits with
  | .ok (second, bits) => if isPaired first second then .literal second bits else .other
  | .error .corrupt => .other
  | .error .exhausted =>
    match symbol literals (bits ++ List.replicate 12 false) with
    | .ok (second, _) => if isPaired first second then .cutShort else .other
    | .error _ => .other

/-- The end of a block when the space is full; fifteen bits must be there to tell it. -/
def endWhenFull (s : Stream) (literals : Code) : Stream :=
  match needBits 15 s.held, symbol literals s.held with
  | .ok (), .ok (⟨256, _⟩, bits) => s.endBlock bits
  | _, _ => s

/-- Reads symbols up to the end of the block, until the space is full, or as far as the bits go. -/
def coded (literals distances : Code) : Nat → Stream → Except Stop Stream
  | 0, s => .ok s
  | bound + 1, s =>
    if s.isFull then .ok (s.endWhenFull literals)
    else
      match symbol literals s.held with
      | .error .exhausted => .ok s
      | .error .corrupt => .error .corrupt
      | .ok (word, bits) =>
        if word.value < 256 then
          match follower literals word bits with
          | .cutShort => .ok s
          | .other => coded literals distances bound { s.write word with held := bits }
          | .literal second bits =>
            let s := { s.write word with held := bits }
            if s.isFull then .ok s else coded literals distances bound (s.write second)
        else if word.value = 256 ∨ 285 < word.value then .ok (s.endBlock bits)
        else
          match reference distances (word.value - 257) bits with
          | .error .exhausted => .ok s
          | .error .corrupt => .error .corrupt
          | .ok ((length, distance), bits) =>
            if s.out.size < distance then .error .corrupt
            else
              let room := s.room length
              let s := { s with out := copy distance room s.out, held := bits }
              if room < length then .ok s else coded literals distances bound s

/-- The sum is four bytes on a byte's boundary. -/
def checkSum (s : Stream) : Except Stop Stream := do
  let bits := s.held.drop (s.held.length % 8)
  needBits 32 bits
  return { s with part := .nothing, held := bits.drop 32 }

def step (s : Stream) : Except Stop Stream :=
  match s.part with
  | .header => s.header
  | .blockHead => s.blockHead
  | .stored left => .ok (s.stored left)
  | .coded literals distances => s.coded literals distances (s.held.length + 1)
  | .checkSum => s.checkSum
  | .nothing => .error .exhausted

/-- Another part comes next than before, or another block. -/
def hasMovedOn (before after : Stream) : Bool :=
  match before.part, after.part with
  | .stored _, .stored _ | .coded _ _, .coded _ _ => false
  | _, _ => true

/-- Reads one part after the other, as far as the bits go. -/
def advance : Nat → Stream → Option Stream
  | 0, s => some s
  | bound + 1, s =>
    match s.step with
    | .error .exhausted => some s
    | .error .corrupt => none
    | .ok next => if hasMovedOn s next then advance bound next else some next

/-- Reads another piece of the data; nothing if it is corrupt. -/
def feed (s : Stream) (piece : List UInt8) : Option Stream :=
  let held := s.held ++ Bytes.bits piece
  advance (2 * held.length + 2) { s with held := held }

end Stream

end PagedReport.Inflate
