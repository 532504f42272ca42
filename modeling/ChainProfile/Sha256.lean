import ChainProfile.Hash256

/-! SHA-256 of a byte string, and the double application that identifies transactions and merkle
nodes. A message is padded to blocks of 64 bytes, each block is spread to 64 words, and the rounds
fold the words into eight running words. -/

namespace ChainProfile.Sha256

structure State where
  a : UInt32
  b : UInt32
  c : UInt32
  d : UInt32
  e : UInt32
  f : UInt32
  g : UInt32
  h : UInt32

/-- Square roots of the first eight primes: the first 32 bits after the point. -/
def initial : State :=
  ⟨0x6a09e667, 0xbb67ae85, 0x3c6ef372, 0xa54ff53a,
   0x510e527f, 0x9b05688c, 0x1f83d9ab, 0x5be0cd19⟩

/-- Cube roots of the first 64 primes: the first 32 bits after the point. -/
def roundConstants : List UInt32 :=
  [0x428a2f98, 0x71374491, 0xb5c0fbcf, 0xe9b5dba5, 0x3956c25b, 0x59f111f1,
   0x923f82a4, 0xab1c5ed5, 0xd807aa98, 0x12835b01, 0x243185be, 0x550c7dc3,
   0x72be5d74, 0x80deb1fe, 0x9bdc06a7, 0xc19bf174, 0xe49b69c1, 0xefbe4786,
   0x0fc19dc6, 0x240ca1cc, 0x2de92c6f, 0x4a7484aa, 0x5cb0a9dc, 0x76f988da,
   0x983e5152, 0xa831c66d, 0xb00327c8, 0xbf597fc7, 0xc6e00bf3, 0xd5a79147,
   0x06ca6351, 0x14292967, 0x27b70a85, 0x2e1b2138, 0x4d2c6dfc, 0x53380d13,
   0x650a7354, 0x766a0abb, 0x81c2c92e, 0x92722c85, 0xa2bfe8a1, 0xa81a664b,
   0xc24b8b70, 0xc76c51a3, 0xd192e819, 0xd6990624, 0xf40e3585, 0x106aa070,
   0x19a4c116, 0x1e376c08, 0x2748774c, 0x34b0bcb5, 0x391c0cb3, 0x4ed8aa4a,
   0x5b9cca4f, 0x682e6ff3, 0x748f82ee, 0x78a5636f, 0x84c87814, 0x8cc70208,
   0x90befffa, 0xa4506ceb, 0xbef9a3f7, 0xc67178f2]

def rotateRight (x n : UInt32) : UInt32 := (x >>> n) ||| (x <<< (32 - n))

def bigSigma0 (x : UInt32) : UInt32 := rotateRight x 2 ^^^ rotateRight x 13 ^^^ rotateRight x 22

def bigSigma1 (x : UInt32) : UInt32 := rotateRight x 6 ^^^ rotateRight x 11 ^^^ rotateRight x 25

def smallSigma0 (x : UInt32) : UInt32 := rotateRight x 7 ^^^ rotateRight x 18 ^^^ (x >>> 3)

def smallSigma1 (x : UInt32) : UInt32 := rotateRight x 17 ^^^ rotateRight x 19 ^^^ (x >>> 10)

def choose (x y z : UInt32) : UInt32 := (x &&& y) ^^^ (~~~x &&& z)

def majority (x y z : UInt32) : UInt32 := (x &&& y) ^^^ (x &&& z) ^^^ (y &&& z)

def pad (message : Bytes) : Bytes :=
  message ++ 0x80 :: List.replicate ((119 - message.length % 64) % 64) 0 ++
    Bytes.be 8 (8 * message.length)

def words : Bytes → List UInt32
  | x :: y :: z :: t :: rest =>
    ((x.toUInt32 <<< 24) ||| (y.toUInt32 <<< 16) ||| (z.toUInt32 <<< 8) ||| t.toUInt32) :: words rest
  | _ => []

def wordBack (w : Array UInt32) (k : Nat) : UInt32 := w.getD (w.size - k) 0

def spreadOne (w : Array UInt32) : Array UInt32 :=
  w.push (smallSigma1 (wordBack w 2) + wordBack w 7 + smallSigma0 (wordBack w 15) + wordBack w 16)

def schedule (block : Bytes) : List UInt32 :=
  (Nat.repeat spreadOne 48 (words block).toArray).toList

def round (s : State) (constant word : UInt32) : State :=
  let t := s.h + bigSigma1 s.e + choose s.e s.f s.g + constant + word
  ⟨t + bigSigma0 s.a + majority s.a s.b s.c, s.a, s.b, s.c, s.d + t, s.e, s.f, s.g⟩

def rounds (s : State) : List UInt32 → List UInt32 → State
  | constant :: constants, word :: ws => rounds (round s constant word) constants ws
  | _, _ => s

def compress (s : State) (block : Bytes) : State :=
  let t := rounds s roundConstants (schedule block)
  ⟨s.a + t.a, s.b + t.b, s.c + t.c, s.d + t.d, s.e + t.e, s.f + t.f, s.g + t.g, s.h + t.h⟩

def compressBlocks (s : State) : (count : Nat) → Bytes → State
  | 0, _ => s
  | count + 1, bs => compressBlocks (compress s (bs.take 64)) count (bs.drop 64)

def State.toBytes (s : State) : Bytes :=
  [s.a, s.b, s.c, s.d, s.e, s.f, s.g, s.h].flatMap fun word => Bytes.be 4 word.toNat

@[simp] theorem State.length_toBytes (s : State) : s.toBytes.length = 32 := by
  simp [State.toBytes]

def digest (message : Bytes) : Hash256 :=
  let padded := pad message
  let final := compressBlocks initial (padded.length / 64) padded
  ⟨final.toBytes, final.length_toBytes⟩

def double (message : Bytes) : Hash256 := digest (digest message).bytes

end ChainProfile.Sha256
