import PagedReport.Binary64.Basic

/-! Arithmetic on binary64 numbers: each operation is the exact result, rounded once.
"Not a number" comes out of an operation when it went in or when the result has no value; the
two selections `larger` and `smaller` ignore it instead. -/
namespace PagedReport.Binary64

def ofNat (n : Nat) : Binary64 := ofUnits false (n * unitsPerOne) 1

instance (n : Nat) : OfNat Binary64 n := ⟨ofNat n⟩

/-- A sum is exact in units; a zero sum is negative only if both terms are. -/
def add : Binary64 → Binary64 → Binary64
  | .finite a, .finite b =>
    let sum := a.signedUnits + b.signedUnits
    if sum = 0 then .finite (.zero (a.negative && b.negative))
    else ofUnits (sum < 0) sum.natAbs 1
  | .infinite a, .infinite b => if a = b then .infinite a else .nan
  | .infinite a, .finite _ => .infinite a
  | .finite _, .infinite b => .infinite b
  | _, _ => .nan

def mul : Binary64 → Binary64 → Binary64
  | .finite a, .finite b => ofUnits (a.negative != b.negative) (a.units * b.units) unitsPerOne
  | .infinite a, .infinite b => .infinite (a != b)
  | .infinite a, .finite b => if b.units = 0 then .nan else .infinite (a != b.negative)
  | .finite a, .infinite b => if a.units = 0 then .nan else .infinite (a.negative != b)
  | _, _ => .nan

def div : Binary64 → Binary64 → Binary64
  | .finite a, .finite b =>
    if b.units = 0 then
      if a.units = 0 then .nan else .infinite (a.negative != b.negative)
    else ofUnits (a.negative != b.negative) (a.units * unitsPerOne) b.units
  | .infinite a, .finite b => .infinite (a != b.negative)
  | .finite a, .infinite b => .finite (.zero (a.negative != b))
  | _, _ => .nan

instance : Add Binary64 := ⟨add⟩
instance : Mul Binary64 := ⟨mul⟩
instance : Div Binary64 := ⟨div⟩

/-- Equality of values: the two zeros are equal, and "not a number" equals nothing. -/
def sameValue : Binary64 → Binary64 → Bool
  | .finite a, .finite b => a.signedUnits = b.signedUnits
  | .infinite a, .infinite b => a = b
  | _, _ => false

/-- Order of values; "not a number" is below nothing and above nothing. -/
def isBelow : Binary64 → Binary64 → Bool
  | .finite a, .finite b => a.signedUnits < b.signedUnits
  | .finite _, .infinite b => !b
  | .infinite a, .finite _ => a
  | .infinite a, .infinite b => a && !b
  | _, _ => false

def larger (a b : Binary64) : Binary64 := if a.isNaN || a.isBelow b then b else a

def smaller (a b : Binary64) : Binary64 := if a.isNaN || b.isBelow a then b else a

def sum (xs : List Binary64) : Binary64 := xs.foldl (· + ·) 0

/-- The whole part as a 32-bit count, cut to that range on both sides; "not a number" is 0. -/
def toUInt32 : Binary64 → UInt32
  | .finite x => if x.negative then 0 else .ofNat (min x.wholePart 0xFFFFFFFF)
  | .infinite negative => if negative then 0 else .ofNat 0xFFFFFFFF
  | .nan => 0

end PagedReport.Binary64
