import ChainProfile.Hash256

/-! Compact targets. A 32-bit word holds a size in its top byte, a sign bit, and a mantissa of 23
bits; it stands for the mantissa shifted so that the target has that many bytes. `expand` reads such
a word as a 256-bit number and `compress` writes the word nearest below a number. -/

namespace ChainProfile.Difficulty

inductive CompactError
  | negative
  | overflow
  | zero
  | aboveLimit
  deriving DecidableEq, Repr

def CompactError.message : CompactError → String
  | .negative => "compact target has negative sign bit"
  | .overflow => "compact target overflows 256-bit range"
  | .zero => "compact target is zero"
  | .aboveLimit => "compact target is easier than the pow limit"

abbrev Target := BitVec 256

def size (bits : UInt32) : Nat := (bits >>> 24).toNat

def mantissa (bits : UInt32) : Nat := (bits &&& 0x007fffff).toNat

def hasSign (bits : UInt32) : Bool := bits &&& 0x00800000 != 0

def overflows (size mantissa : Nat) : Bool :=
  mantissa != 0 && (size > 34 || (mantissa > 0xff && size > 33) || (mantissa > 0xffff && size > 32))

def expand (bits : UInt32) : Except CompactError Target :=
  if hasSign bits ∧ mantissa bits ≠ 0 then .error .negative
  else if size bits ≤ 3 then .ok (BitVec.ofNat 256 (mantissa bits >>> (8 * (3 - size bits))))
  else if overflows (size bits) (mantissa bits) then .error .overflow
  else .ok (BitVec.ofNat 256 (mantissa bits) <<< (8 * (size bits - 3)))

def byteLength (n : Nat) : Nat := n.log2 / 8 + 1

def leading (n size : Nat) : Nat :=
  if size ≤ 3 then n <<< (8 * (3 - size)) else n >>> (8 * (size - 3))

def pack (size : Nat) (word : UInt32) : UInt32 := (UInt32.ofNat size <<< 24) ||| (word &&& 0x007fffff)

/-- A leading byte that would set the sign bit is moved down by one byte. -/
def compress (target : Target) : UInt32 :=
  if target = 0 then 0
  else
    let size := byteLength target.toNat
    let word := UInt32.ofNat (leading target.toNat size)
    if hasSign word then pack (size + 1) (word >>> 8) else pack size word

def compactToTarget (bits : UInt32) : Except CompactError Hash256 :=
  (expand bits).map Hash256.ofBitVec

def targetToCompact (target : Hash256) : UInt32 := compress target.toBitVec

def meets (hash target : Hash256) : Bool := hash.value ≤ target.value

theorem meets_iff (hash target : Hash256) : meets hash target = true ↔ hash.value ≤ target.value :=
  decide_eq_true_iff

/-- The target of `bits`, if it is neither zero nor above the limit. -/
def checkedTarget (bits : UInt32) (limit : Hash256) : Except CompactError Hash256 := do
  let target ← expand bits
  if target = 0 then throw .zero
  if limit.value < target.toNat then throw .aboveLimit
  return Hash256.ofBitVec target

def checkProofOfWork (hash : Hash256) (bits : UInt32) (limit : Hash256) :
    Except CompactError Bool :=
  (checkedTarget bits limit).map (meets hash)

end ChainProfile.Difficulty
