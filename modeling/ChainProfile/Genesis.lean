import ChainProfile.Block
import ChainProfile.Profile.Error
import ChainProfile.Script

/-! First blocks. A genesis block holds one coinbase, so its merkle root is that transaction's id.
A development network adds a second block that carries its name. `verify` checks a block against
the root and the hash that are fixed for its network. -/

namespace ChainProfile.Genesis

def message : String := "Polis, from people to people"

def outputKey : Bytes :=
  Bytes.be 65
    0x04678afdb0fe5548271967f1a67130b7105cd6a828e03909a67962e0ea1f61deb649f6bc3f4cef38c4f35504e51ec112de5c384df7ba0b8d578a4c702b6bf11d5f

def outputScript : Bytes := Script.assemble [.data outputKey, .opcode Script.opCheckSig]

def reward : Int64 := 50 * 100000000

/-- The first number of every genesis coinbase, the compact target `0x1d00ffff`. -/
def marker : Int64 := 486604799

def devnetVersion : Int32 := 4

def assemble (coinbase : Transaction) (previous : Hash256) (time nonce bits : UInt32)
    (version : Int32) : Block :=
  ⟨⟨version, previous, coinbase.id, time, bits, nonce⟩, [coinbase]⟩

theorem merkleRoot_assemble (coinbase : Transaction) (previous : Hash256)
    (time nonce bits : UInt32) (version : Int32) :
    (assemble coinbase previous time nonce bits version).merkleRoot = coinbase.id := by
  simp [assemble, Block.merkleRoot]

def coinbaseScript (text : String) : Bytes :=
  Script.assemble [.int marker, .num 4, .data (Bytes.utf8 text)]

def build (text : String) (output : Bytes) (time nonce bits : UInt32) (version : Int32)
    (pays : Int64) : Block :=
  assemble (.coinbase (coinbaseScript text) [⟨pays, output⟩]) .zero time nonce bits version

def standard (time nonce bits : UInt32) (version : Int32) (pays : Int64) : Block :=
  build message outputScript time nonce bits version pays

def devnetScript (name : String) : Bytes := Script.assemble [.int 1, .data (Bytes.utf8 name)]

/-- The block after the first one of a named network; nobody can spend its output. -/
def devnet (previous : Hash256) (name : String) (time nonce bits : UInt32) (pays : Int64) :
    Except ProfileError Block :=
  if name = "" then .error .emptyDevnetName
  else .ok (assemble (.coinbase (devnetScript name) [⟨pays, [Script.opReturn]⟩]) previous time nonce
    bits devnetVersion)

def devnetName (name : String) : String :=
  let name := Text.trimmed name
  if name = "" then "devnet" else "devnet-" ++ name

def verify (network : Network) (block : Block) (hasher : HeaderHasher)
    (expectedHash expectedRoot : Hash256) : Except ProfileError Hash256 :=
  let root := block.merkleRoot
  let hash := block.header.hash hasher
  if root ≠ block.header.merkleRoot ∨ root ≠ expectedRoot then
    .error (.genesisMismatch network .merkleRoot expectedRoot root)
  else if hash ≠ expectedHash then
    .error (.genesisMismatch network .blockHash expectedHash hash)
  else .ok hash

end ChainProfile.Genesis
