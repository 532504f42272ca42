/-! The four networks of the chain and the tokens that name them. -/

namespace ChainProfile

inductive Network
  | main
  | testnet
  | devnet
  | regtest
  deriving DecidableEq, Repr

namespace Network

def all : List Network := [main, testnet, devnet, regtest]

def token : Network → String
  | main => "main"
  | testnet => "test"
  | devnet => "dev"
  | regtest => "regtest"

def ofToken? (text : String) : Option Network := all.find? fun network => network.token == text

theorem mem_all (n : Network) : n ∈ all := by
  cases n <;> simp [all]

def isTest (n : Network) : Bool := n ≠ main

end Network

end ChainProfile
