import ChainProfile.Bytes
import ChainProfile.Text.Blank

/-! Hexadecimal text. Bytes are written as two lower-case digits each. They are read from pairs of
encoded bytes, so a character outside ASCII counts with its whole encoded length: it can fill a
pair, which is then no number, or be cut by one. The first character of a pair may be a plus sign. -/

namespace ChainProfile.Text.Hex

inductive HexError
  | invalidLength
  | invalidHex
  deriving DecidableEq, Repr

def HexError.message : HexError → String
  | .invalidLength => "hex string has invalid length"
  | .invalidHex => "hex string has invalid characters"

def octet (b : UInt8) : List Char :=
  [Nat.digitChar (b.toNat / 16), Nat.digitChar (b.toNat % 16)]

def encode (bs : Bytes) : String := String.ofList (bs.flatMap octet)

theorem length_encode (bs : Bytes) : (encode bs).toList.length = 2 * bs.length := by
  induction bs with
  | nil => rfl
  | cons b bs ih =>
    simp only [encode, String.toList_ofList, List.flatMap_cons, List.length_append,
      List.length_cons] at ih ⊢
    simp [octet, ih]
    omega

def digit? (c : Char) : Option Nat :=
  if '0' ≤ c ∧ c ≤ '9' then some (c.toNat - '0'.toNat)
  else if 'a' ≤ c ∧ c ≤ 'f' then some (c.toNat - 'a'.toNat + 10)
  else if 'A' ≤ c ∧ c ≤ 'F' then some (c.toNat - 'A'.toNat + 10)
  else none

def octet? (c d : Char) : Option UInt8 :=
  if c = '+' then (digit? d).map UInt8.ofNat
  else match digit? c, digit? d with
    | some high, some low => some (UInt8.ofNat (16 * high + low))
    | _, _ => none

inductive PairFault
  | notANumber
  | cutsCharacter
  deriving DecidableEq, Repr

def utf8Length (cs : List Char) : Nat := cs.foldr (fun c n => c.utf8Size + n) 0

/-- Reads byte pairs from the left, up to the first that is no number. A last single byte has no
partner and counts as a cut. -/
def readPairs : List Char → Except PairFault Bytes
  | [] => .ok []
  | [c] => .error (if c.utf8Size = 2 then .notANumber else .cutsCharacter)
  | c :: d :: rest =>
    if c.utf8Size = 2 then .error .notANumber
    else if c.utf8Size = 1 ∧ d.utf8Size = 1 then
      match octet? c d with
      | some b => (readPairs rest).map (b :: ·)
      | none => .error .notANumber
    else .error .cutsCharacter

def decode (s : String) : Except HexError Bytes :=
  let digits := trim s.toList
  if utf8Length digits % 2 ≠ 0 then .error .invalidLength
  else match readPairs digits with
    | .ok bs => .ok bs
    | .error _ => .error .invalidHex

end ChainProfile.Text.Hex
