import ChainProfile.Block
import ChainProfile.Checkpoint
import ChainProfile.Consensus.Constants
import ChainProfile.Difficulty
import ChainProfile.Script
import ChainProfile.Genesis
import ChainProfile.Log.Level
import ChainProfile.Log.Trace
import ChainProfile.NonceSearch
import ChainProfile.Profile
import ChainProfile.Profile.Build
import ChainProfile.Override
import ChainProfile.Registry
import ChainProfile.Text.Decimal
import ChainProfile.Text.Field
import ChainProfile.Options.Apply
import ChainProfile.Log.Calendar
import ChainProfile.Log.Logger
import ChainProfile.Proofs.LittleEndian
import ChainProfile.Proofs.Outcome
import ChainProfile.Proofs.Wire.Reader
import ChainProfile.Proofs.Script.Number
import ChainProfile.Proofs.Script.Push
import ChainProfile.Proofs.Script.Scan
import ChainProfile.Proofs.Wire.CompactSize
import ChainProfile.Proofs.Wire.Block
import ChainProfile.Proofs.Genesis.Binding
import ChainProfile.Proofs.Genesis.Devnet
import ChainProfile.Proofs.Genesis.Commitment
import ChainProfile.Proofs.Genesis.Mismatch
import ChainProfile.Proofs.Merkle.Layers
import ChainProfile.Proofs.Merkle.Binding
import ChainProfile.Proofs.Merkle.Tree
import ChainProfile.Proofs.Merkle.Repetition
import ChainProfile.Proofs.Text.Trim
import ChainProfile.Proofs.Text.Utf8
import ChainProfile.Proofs.Deployment
import ChainProfile.Proofs.Consensus
import ChainProfile.Proofs.ProofOfWork
import ChainProfile.Proofs.NonceSearch
import ChainProfile.Proofs.NonceSearch.Report
import ChainProfile.Proofs.NonceSearch.Successor
import ChainProfile.Proofs.Checkpoint
import ChainProfile.Proofs.Profile.Build
import ChainProfile.Proofs.Profile.Override
import ChainProfile.Proofs.Profile.Sound
import ChainProfile.Proofs.Registry.Request
import ChainProfile.Proofs.Options.Apply
import ChainProfile.Proofs.Options.Reading
import ChainProfile.Proofs.Registry.Run
import ChainProfile.Proofs.Registry.Consistent
import ChainProfile.Proofs.Registry.Frozen
import ChainProfile.Proofs.Registry.Revision
import ChainProfile.Proofs.Registry.Replay
import ChainProfile.Proofs.Registry.Refusal
import ChainProfile.Proofs.Registry.Signalling
import ChainProfile.Proofs.Options.Refusal
import ChainProfile.Proofs.Profile.Genesis
import ChainProfile.Proofs.Profile.Work
import ChainProfile.Proofs.Profile.Anchored
import ChainProfile.Proofs.Profile.Isolation
import ChainProfile.Proofs.Profile.Lookup
import ChainProfile.Proofs.Registry.Commute
import ChainProfile.Proofs.Options.Effect
import ChainProfile.Proofs.Difficulty.Rounding
import ChainProfile.Proofs.Difficulty.Order
import ChainProfile.Proofs.Options.Again
import ChainProfile.Proofs.Options.Entries
import ChainProfile.Proofs.Options.Line
import ChainProfile.Proofs.Options.Rows
import ChainProfile.Proofs.Options.Spelling
import ChainProfile.Proofs.Options.Shadow
import ChainProfile.Proofs.Text.Decimal
import ChainProfile.Proofs.Text.Joined
import ChainProfile.Proofs.Text.Lines
import ChainProfile.Proofs.Text.Hex
import ChainProfile.Proofs.Text.Pairs
import ChainProfile.Proofs.Text.Order
import ChainProfile.Proofs.Hash256
import ChainProfile.Proofs.Hash256.Reading
import ChainProfile.Proofs.Hash256.Agreement
import ChainProfile.Proofs.Options.Selection
import ChainProfile.Proofs.Options.Value
import ChainProfile.Proofs.Options.Printed
import ChainProfile.Proofs.Options.Quotation
import ChainProfile.Proofs.Log.Calendar
import ChainProfile.Proofs.Log.Run
import ChainProfile.Proofs.Log.Capture
import ChainProfile.Proofs.Text.Columns
import ChainProfile.Proofs.Log.Timestamp
