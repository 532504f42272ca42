import ChainProfile.Merkle
import ChainProfile.Transaction

/-! Block headers of 80 bytes and blocks. The hash of a header is not fixed here: a chain names its
own proof-of-work function on the header's bytes. -/

namespace ChainProfile

/-- The proof-of-work hash of a header's 80 bytes. -/
abbrev HeaderHasher := Bytes → Hash256

structure Header where
  version : Int32
  previous : Hash256
  merkleRoot : Hash256
  time : UInt32
  bits : UInt32
  nonce : UInt32
  deriving DecidableEq

namespace Header

def bytes (h : Header) : Bytes :=
  Bytes.i32 h.version ++ h.previous.bytes ++ h.merkleRoot.bytes ++ Bytes.u32 h.time ++
    Bytes.u32 h.bits ++ Bytes.u32 h.nonce

@[simp] theorem length_bytes (h : Header) : h.bytes.length = 80 := by
  simp [bytes, Hash256.length_bytes]

def hash (h : Header) (hasher : HeaderHasher) : Hash256 := hasher h.bytes

end Header

structure Block where
  header : Header
  transactions : List Transaction
  deriving DecidableEq

namespace Block

def merkleRoot (b : Block) : Hash256 := Merkle.root (b.transactions.map Transaction.id)

def bytes (b : Block) : Bytes :=
  b.header.bytes ++ CompactSize.counted Transaction.bytes b.transactions

end Block

end ChainProfile
