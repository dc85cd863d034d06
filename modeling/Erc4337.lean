import Erc4337.Arith
import Erc4337.Text.Hex
import Erc4337.Text.Quote
import Erc4337.Text.FieldError
import Erc4337.Crypto.Keccak
import Erc4337.Eth.Address
import Erc4337.Eth.Hash
import Erc4337.Eth.Abi
import Erc4337.Eth.HexCodec
import Erc4337.Json.Value
import Erc4337.Json.Parse
import Erc4337.Json.Decode
import Erc4337.UserOp.Basic
import Erc4337.UserOp.Wire
import Erc4337.Json.Fields
import Erc4337.Text.Utf8
import Erc4337.Rpc.Error
import Erc4337.Rpc.Fault
import Erc4337.Bundle.Failure
import Erc4337.Validation.StorageMap
import Erc4337.Reputation.Params
import Erc4337.Reputation.Tracker
import Erc4337.Chain.Fee
import Erc4337.Chain.NonceTracker
import Erc4337.Crypto.Sha256
import Erc4337.Crypto.Secp256k1
import Erc4337.Eth.Rlp
import Erc4337.Eth.Transaction
import Erc4337.Chain.Signer
import Erc4337.Config.Yaml
import Erc4337.Text.Duration
import Erc4337.Config.Schema
import Erc4337.Decimal
import Erc4337.Mempool.Config
import Erc4337.Bundle.Config
import Erc4337.Config.Rules
import Erc4337.Config.Basic
import Erc4337.Mempool.Pool
import Erc4337.Log.Record
import Erc4337.Text.Ulid
import Erc4337.Rpc.Spec
import Erc4337.Node.Memory
import Erc4337.Chain.Reader
import Erc4337.Chain.Contract
import Erc4337.Chain.OpHasher
import Erc4337.Chain.Transport
import Erc4337.Validation.Result
import Erc4337.Validation.Remote
import Erc4337.Service.Metrics
import Erc4337.Service.State
import Erc4337.Service.Backend
import Erc4337.Bundle.Builder
import Erc4337.Bundle.Submitter
import Erc4337.Text.Url
import Erc4337.Service.Admission
import Erc4337.Service.Inclusion
import Erc4337.Service.Lifecycle
import Erc4337.Text.Float64
import Erc4337.Sim.Scripted
import Erc4337.Sim.Setup
import Erc4337.Sim.Scenario
import Erc4337.Sim.Run
import Erc4337.Service.Debug
import Erc4337.Json.Stream
import Erc4337.Http.Message
import Erc4337.Http.Bind
import Erc4337.Service.Api
import Erc4337.Text.Pretty
import Erc4337.Service.Console
import Erc4337.Text.Blank
import Erc4337.Json.Typed
import Erc4337.Client.Report
import Erc4337.Sim.Status
import Erc4337.Text.Printf
import Erc4337.Sim.Logging
import Erc4337.Service.Launch
import Erc4337.Sim.Wired
import Erc4337.Cli.Command
import Erc4337.Cli.Flags
import Erc4337.Cli.Usage
import Erc4337.Cli.Execute
import Erc4337.Cli.Bundler
import Erc4337.Cli.Scripts
import Erc4337.Sim.CommandLine
import Erc4337.Main
import Erc4337.Proofs.Mempool.Representation
import Erc4337.Proofs.Reputation.Counters
import Erc4337.Proofs.Reputation.Severity
import Erc4337.Proofs.UserOp.Decode
import Erc4337.Proofs.Service.Admission
import Erc4337.Proofs.Bundle.Consider
import Erc4337.Proofs.Mempool.Roles
import Erc4337.Proofs.Mempool.SenderCap
import Erc4337.Proofs.Mempool.Release
import Erc4337.Proofs.Bundle.Partition
import Erc4337.Proofs.Bundle.Safety
import Erc4337.Proofs.Bundle.Settled
import Erc4337.Proofs.Bundle.Submission
import Erc4337.Proofs.Bundle.Blame
import Erc4337.Proofs.Text.Utf8
import Erc4337.Proofs.Eth.HexCodec
import Erc4337.Proofs.Eth.Abi
import Erc4337.Proofs.Bundle.FailureText
import Erc4337.Proofs.Bundle.Attribution
import Erc4337.Proofs.Json.Strings
import Erc4337.Proofs.UserOp.RoundTrip
import Erc4337.Proofs.Validation.StorageMerge
import Erc4337.Proofs.Chain.Nonces
import Erc4337.Proofs.Bundle.SignerNonces
import Erc4337.Proofs.Bundle.KnownAccounts
import Erc4337.Proofs.Bundle.DepositLedger
import Erc4337.Proofs.Mempool.Claiming
import Erc4337.Proofs.Service.Reverts
import Erc4337.Proofs.Chain.OpHashCache
import Erc4337.Proofs.Validation.StorageJson
import Erc4337.Proofs.Reputation.Ratio
import Erc4337.Proofs.Reputation.Decay
import Erc4337.Proofs.Service.TimeWindow
import Erc4337.Proofs.Validation.SlotOrder
import Erc4337.Proofs.Mempool.FeeBump
