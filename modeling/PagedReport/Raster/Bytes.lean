/-! Reading bytes and bits. Numbers are of either byte order; bits come least significant first, as
compressed streams have them. -/
namespace PagedReport.Bytes

def bigEndian (bytes : List UInt8) : Nat := bytes.foldl (fun n byte => 256 * n + byte.toNat) 0

def littleEndian (bytes : List UInt8) : Nat := bigEndian bytes.reverse

def split? (count : Nat) (bytes : List UInt8) : Option (List UInt8 × List UInt8) :=
  if count ≤ bytes.length then some (bytes.take count, bytes.drop count) else none

/-- The bits of a byte, least significant first. -/
def bitsOf (byte : UInt8) : List Bool := (List.range 8).map fun i => byte.toNat.testBit i

def bits (bytes : List UInt8) : List Bool := bytes.flatMap bitsOf

/-- The number whose bits are given, least significant first. -/
def ofBits (bits : List Bool) : Nat := bits.foldr (fun bit n => 2 * n + bit.toNat) 0

def hasBits (count : Nat) (bits : List Bool) : Bool := (bits.take count).length = count

/-- A number of the given width, and the other bits, if there are enough. -/
def takeBits? (width : Nat) (bits : List Bool) : Option (Nat × List Bool) :=
  if hasBits width bits then some (ofBits (bits.take width), bits.drop width) else none

/-- A byte cut into samples of 1, 2, 4 or 8 bits, most significant first. -/
def samplesOf (width : Nat) (byte : UInt8) : List UInt16 :=
  (List.range (8 / width)).map fun i =>
    .ofNat (byte.toNat / Nat.pow 2 (8 - width * (i + 1)) % Nat.pow 2 width)

end PagedReport.Bytes
