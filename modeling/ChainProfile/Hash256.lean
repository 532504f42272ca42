import ChainProfile.Text.Hex

/-! Hashes of 32 bytes. The bytes are kept least significant first, so `value` is the number that
difficulty compares; the text form `hex` writes them most significant first. `value` and `ofNat`
are inverse below `2 ^ 256`. -/

namespace ChainProfile

structure Hash256 where
  bytes : Bytes
  length_bytes : bytes.length = 32
  deriving DecidableEq

namespace Hash256

open Text (trim)
open Text.Hex

@[ext] theorem ext {a b : Hash256} (h : a.bytes = b.bytes) : a = b := by
  cases a
  cases b
  cases h
  rfl

def value (h : Hash256) : Nat := Bytes.value h.bytes

def ofNat (n : Nat) : Hash256 := ⟨Bytes.le 32 n, Bytes.length_le 32 n⟩

def zero : Hash256 := ofNat 0

instance : Inhabited Hash256 := ⟨zero⟩

def ofBytes? (bs : Bytes) : Option Hash256 :=
  if h : bs.length = 32 then some ⟨bs, h⟩ else none

@[simp] theorem ofNat_value (h : Hash256) : ofNat h.value = h := by
  apply ext
  have read := Bytes.le_value h.bytes
  rw [h.length_bytes] at read
  exact read

theorem value_inj {a b : Hash256} : a.value = b.value ↔ a = b := by
  constructor
  · intro h
    rw [← ofNat_value a, ← ofNat_value b, h]
  · rintro rfl
    rfl

def toBitVec (h : Hash256) : BitVec 256 := BitVec.ofNat 256 h.value

def ofBitVec (v : BitVec 256) : Hash256 := ofNat v.toNat

def hex (h : Hash256) : String := encode h.bytes.reverse

/-- Why a text names no hash. A byte pair that would cut a character is no refusal of the text:
the reader has no answer for it. -/
inductive ParseFailure
  | refused (cause : HexError)
  | cutsCharacter
  deriving DecidableEq, Repr

def withoutMarker : List Char → List Char
  | '0' :: 'x' :: digits => digits
  | '0' :: 'X' :: digits => digits
  | digits => digits

/-- Reads up to 64 digits, most significant first, after trimming and one optional `0x`; shorter
texts are filled with zeros on the left. -/
def parse (s : String) : Except ParseFailure Hash256 :=
  let digits := withoutMarker (trim s.toList)
  let size := utf8Length digits
  if size = 0 ∨ 64 < size then .error (.refused .invalidLength)
  else match readPairs (List.replicate (64 - size) '0' ++ digits) with
    | .ok bs => .ok (ofNat (Bytes.value bs.reverse))
    | .error .notANumber => .error (.refused .invalidHex)
    | .error .cutsCharacter => .error .cutsCharacter

end Hash256

end ChainProfile
