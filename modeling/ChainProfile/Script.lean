import ChainProfile.Bytes

/-! Scripts of coinbases and outputs. A script is a run of pieces: bare opcodes, pushed data, and
pushed numbers. Data takes the shortest of four length forms; numbers are little-endian magnitudes
whose top bit is the sign, in as few bytes as possible. -/

namespace ChainProfile.Script

def opReturn : UInt8 := 0x6a

def opCheckSig : UInt8 := 0xac

def pushHeader (length : Nat) : Bytes :=
  if length ≤ 75 then [UInt8.ofNat length]
  else if length ≤ 0xff then 0x4c :: Bytes.le 1 length
  else if length ≤ 0xffff then 0x4d :: Bytes.le 2 length
  else 0x4e :: Bytes.le 4 length

def push (data : Bytes) : Bytes := pushHeader data.length ++ data

def magnitude (n : Nat) : Bytes :=
  if n = 0 then [] else UInt8.ofNat n :: magnitude (n / 256)
termination_by n

/-- Puts the sign on the top bit of the last byte, in a byte of its own if that bit is taken. -/
def withSign (negative : Bool) : Bytes → Bytes
  | [] => []
  | [b] =>
    let mark : UInt8 := if negative then 0x80 else 0
    if b < 0x80 then [b ||| mark] else [b, mark]
  | b :: c :: rest => b :: withSign negative (c :: rest)

def number (n : Int64) : Bytes := withSign (n < 0) (magnitude n.toInt.natAbs)

theorem number_zero : number 0 = [] := by
  have h : (0 : Int64).toInt.natAbs = 0 := rfl
  rw [number, h, magnitude, if_pos rfl, withSign]

inductive Piece
  | opcode (code : UInt8)
  | data (bytes : Bytes)
  /-- A number, by its own opcode if it is between -1 and 16. -/
  | int (n : Int64)
  /-- A number, always as pushed data. -/
  | num (n : Int64)
  deriving DecidableEq, Repr

def Piece.bytes : Piece → Bytes
  | .opcode code => [code]
  | .data bytes => push bytes
  | .int n =>
    if n = 0 then [0x00]
    else if n = -1 then [0x4f]
    else if 1 ≤ n ∧ n ≤ 16 then [0x50 + UInt8.ofNat n.toInt.toNat]
    else push (number n)
  | .num n => push (number n)

def assemble (pieces : List Piece) : Bytes := pieces.flatMap Piece.bytes

@[simp] theorem assemble_nil : assemble [] = [] := rfl

@[simp] theorem assemble_cons (p : Piece) (ps : List Piece) :
    assemble (p :: ps) = p.bytes ++ assemble ps := rfl

end ChainProfile.Script
