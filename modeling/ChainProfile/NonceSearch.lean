import ChainProfile.Genesis
import ChainProfile.Log.Trace

/-! Nonce searches. `search` tries the nonces from the header's own up to the largest and stops at
the first whose hash meets the target. -/

namespace ChainProfile.NonceSearch

structure Found where
  nonce : UInt32
  hash : Hash256
  attempts : UInt64
  deriving DecidableEq

def remaining (nonce : UInt32) : Nat := 0xffffffff - nonce.toNat

def searchFrom (target : Hash256) (hasher : HeaderHasher) (attempts : UInt64) :
    (remaining : Nat) → Header → Option Found × Header
  | left, header =>
    let hash := header.hash hasher
    if Difficulty.meets hash target then (some ⟨header.nonce, hash, attempts⟩, header)
    else match left with
      | 0 => (none, header)
      | left + 1 =>
        searchFrom target hasher (attempts + 1) left { header with nonce := header.nonce + 1 }

/-- What was found, and the header with the last nonce tried. -/
def search (header : Header) (target : Hash256) (hasher : HeaderHasher) : Option Found × Header :=
  searchFrom target hasher 1 (remaining header.nonce) header

def logTarget : String := "polisd_chainparams::miner"

/-- Searches all nonces from zero, whatever nonce the block has. -/
def mine (network : Network) (block : Block) (target : Hash256) (hasher : HeaderHasher) :
    ExceptT ProfileError Logged (Block × Found) := do
  match search { block.header with nonce := 0 } target hasher with
  | (some found, header) =>
    Logged.record .debug logTarget
      s!"{network.token} nonce {found.nonce} found after {found.attempts} attempts"
    return ({ block with header }, found)
  | (none, header) =>
    Logged.record .error logTarget
      s!"{network.token} genesis search exhausted the nonce space (bits {hexWord header.bits})"
    throw (.nonceSpaceExhausted network header.bits)

def nextTime (time : UInt32) : UInt32 := if time = 0xffffffff then time else time + 1

/-- Mines the block after `parent`, one second later and at the parent's difficulty. -/
def mineDevnet (parent : Header) (parentHash : Hash256) (name : String) (pays : Int64)
    (hasher : HeaderHasher) : ExceptT ProfileError Logged (Block × Found) := do
  let target ← liftExcept ((Difficulty.compactToTarget parent.bits).mapError .compact)
  let candidate ←
    liftExcept (Genesis.devnet parentHash name (nextTime parent.time) 0 parent.bits pays)
  let (block, found) ← mine .devnet candidate target hasher
  Logged.record .info logTarget
    s!"{name} genesis {found.hash.hex} (nonce {found.nonce}, {found.attempts} attempts)"
  return (block, found)
where
  liftExcept {α : Type} (x : Except ProfileError α) : ExceptT ProfileError Logged α :=
    ExceptT.mk (pure x)

end ChainProfile.NonceSearch
