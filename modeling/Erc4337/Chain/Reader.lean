import Erc4337.Node.Memory
import Erc4337.Chain.Fee
import Erc4337.Chain.Contract
/-!
The bundler's read-only questions to a node: a paymaster's deposit in the entry point, an
account's storage root, the chain id (asked once, then remembered), a fee suggestion, the
pending nonce and balance of an account, and transaction receipts. The deposit is the first
word of a checked `balanceOf` call.
-/
namespace Erc4337.Reader
open Node

def caller : Contract.Caller NodeM := ⟨ethCall, getCode⟩

structure Session where
  entryPoint : Address
  chainId : Option Int := none
  deriving Inhabited

abbrev ReaderM := StateT Session NodeM

def deposit (paymaster : Address) : ReaderM (Except Fault Int) := do
  let ep := (← get).entryPoint
  let out ← (Contract.boundCall caller ep (Abi.call "balanceOf(address)" [.address paymaster]) : NodeM _)
  pure ((out.map fun w => (Hex.bytesNat (w.take 32) : Int)).mapError (Fault.wrap ("balanceOf " ++ paymaster.checksum)))

def storageRoot (a : Address) : ReaderM (Except Fault Hash) := do
  pure ((← getProof a).mapError (Fault.wrap ("eth_getProof " ++ a.checksum)))

def chainId : ReaderM (Except Fault Int) := do
  match (← get).chainId with
  | some id => pure (.ok id)
  | none =>
    match ← Node.chainId with
    | .ok id =>
      modify fun r => { r with chainId := some id }
      pure (.ok id)
    | .error e => pure (.error e)

def fee : ReaderM (Except Fault (Int × Int)) := do
  match ← maxPriorityFee with
  | .error e => pure (.error e)
  | .ok tip =>
    match ← latestBaseFee with
    | .error e => pure (.error e)
    | .ok base => pure (.ok (Fee.suggest tip base))

def nonce (a : Address) : ReaderM (Except Fault Nat) := pendingNonce a

def balanceOf (a : Address) : ReaderM (Except Fault Int) := Node.balance a

def receiptOf (h : Hash) : ReaderM (Except Fault Receipt) := do
  pure (match ← Node.receipt h with
    | .ok (some r) => .ok r
    | .ok none => .error (.plain "not found")
    | .error e => .error e)

end Erc4337.Reader
