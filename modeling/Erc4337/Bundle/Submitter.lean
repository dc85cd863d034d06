import Erc4337.Bundle.Builder
import Erc4337.Bundle.Failure
import Erc4337.Text.Utf8
/-!
Sending bundles. A send claims a batch of pending entries (or all of them), builds a bundle
and, unless it came out empty, signs a `handleOps` transaction for it and hands it to the
transport, conditionally on the bundle's storage when so configured.

The fees go to the configured beneficiary, or to the signer when none is configured or when
the signer's balance is at or below its minimum. A failure while preparing the transaction
returns the bundle to pending. A refused transaction resets the signer's nonce cache; when the
refusal names an operation of the bundle, the entity it blames is marked as crashed, the
operation leaves the pool and the others return to pending. A refusal that names nothing
leaves the bundle claimed, unless the node does not know the method at all, which is an error.
-/
namespace Erc4337.Bundle
open Service

def etherText (wei : Int) : String :=
  let digits := (toString wei.natAbs).toList
  let padded := List.replicate (19 - min 19 digits.length) '0' ++ digits
  let whole := padded.take (padded.length - 18)
  let frac := (padded.drop (padded.length - 18)).reverse.dropWhile (· == '0') |>.reverse
  let number := String.ofList whole ++ (if frac.isEmpty then "" else "." ++ String.ofList frac)
  if wei < 0 then "-" ++ number else number

def SubmitterConfig.effective (c : SubmitterConfig) : SubmitterConfig :=
  let c := c.withDefaults
  { c with opHashHelper := if c.opHashHelper.isZero then c.entryPoint else c.opHashHelper }

def isMethodNotFound (f : Fault) : Bool := f.code == some RpcError.methodNotFound

section
variable {m : Type → Type} [Monad m]

def callAs {α : Type} (pfx : String) (x : m (Except Fault α)) : SvcE m α := do
  match ← (x : m _) with
  | .ok v => pure v
  | .error e => throw (e.wrap pfx)

def selectBeneficiary (b : Backend m) (cfg : SubmitterConfig) : SvcM m Address := do
  let signer := b.signerAddress
  if cfg.beneficiary.isZero then return signer
  match ← (b.signerBalance : m _) with
  | .error e =>
    log .warn "cannot read signer balance, paying configured beneficiary" ["signer", signer.checksum, "err", e.message]
    return cfg.beneficiary
  | .ok balance =>
    if balance ≤ cfg.minSignerBalance then
      log .info "signer balance low, paying bundle proceeds to signer"
        ["signer", signer.checksum, "balance", etherText balance, "min", etherText cfg.minSignerBalance]
      return signer
    return cfg.beneficiary

def nextNonce (b : Backend m) : SvcE m UInt64 := do
  let signer := b.signerAddress
  let onChain ← callAs "signer nonce" (b.pendingNonce signer)
  let (nonce, cached) := (← get).nonces.next signer onChain
  if cached then
    log .debug "using cached signer nonce" ["signer", signer.checksum, "cached", toString nonce, "onChain", toString onChain]
  return nonce

def prepare (b : Backend m) (cfg : SubmitterConfig) (built : Built) (beneficiary : Address) :
    SvcE m (List UInt8 × UInt64) := do
  let callData := handleOpsCalldata (built.entries.map (·.op)) beneficiary
  let chainId ← callAs "chain id" b.chainId
  let (maxFee, tip) ← callAs "fee estimate" b.fee
  let nonce ← nextNonce b
  let tx : Transaction := { chainId, nonce, tip, feeCap := maxFee, gas := cfg.gasLimit,
                            recipient := some cfg.entryPoint, data := callData }
  let signed ← callAs "sign bundle" (b.sign tx)
  return (signed.encode, nonce)

def resetNonce (signer : Address) : SvcM m Unit := do
  modify fun s => { s with nonces := s.nonces.reset signer }
  log .info "reset signer nonce" ["signer", signer.checksum]

def recordCrashed (a : Address) : SvcM m Unit := do
  if a.isZero then return
  modifyRep (·.recordCrashed a)
  let seen := (((← get).rep.counters? a).map (·.opsSeen)).getD 0
  log .warn "entity crashed handleOps" ["address", a.checksum, "opsSeen", toString seen]

def blamedEntity (role : String) (op : UserOperation) : Option Address :=
  if role == "factory" then some op.factory
  else if role == "sender" then some op.sender
  else if role == "paymaster" then some op.paymaster
  else none

def blame (role : String) (op : UserOperation) : SvcM m Unit := do
  if let some a := blamedEntity role op then
    recordCrashed a
    metric (.entityCrashed role)

def handleFailure (bundleId : String) (built : Built) (err : Fault) : SvcE m Submission := do
  match AttributedFailure.ofFault err with
  | none =>
    if isMethodNotFound err then throw (err.wrap "bundle submission not supported by node")
    log .error "❌ bundle submission failed" ["bundle", bundleId, "err", err.message]
    return .none
  | some f =>
    match built.entries[f.opIndex]? with
    | none =>
      log .error "handleOps revert names an op outside the bundle"
        ["bundle", bundleId, "opIndex", toString f.opIndex, "reason", Utf8.decodeLossy f.reason]
      for e in built.entries do revertToPending e.hash
      return .none
    | some culprit =>
      let op := culprit.op
      (blame f.role op : SvcM m Unit)
      removeFromPool culprit.hash
      log .warn "handleOps reverted" ["bundle", bundleId, "opIndex", toString f.opIndex, "reason", Utf8.decodeLossy f.reason,
        "hash", culprit.hash.hex, "sender", op.sender.checksum]
      for (e, i) in built.entries.zipIdx do
        if i != f.opIndex then revertToPending e.hash
      return .none

def claimFrom (pool : Mempool.Pool) (drainAll : Bool) : Except Fault (Mempool.Pool × List Mempool.Entry) :=
  if drainAll then .ok pool.takeAll else pool.takeBatch pool.batchLimit

def SubmitterConfig.assumed (cfg : SubmitterConfig) (built : Built) : Option StorageMap :=
  if cfg.conditionalRpc then some built.storageMap else none

def ready (b : Backend m) (built : Built) : SvcE m (SubmitterConfig × String × List UInt8 × UInt64) := do
  let cfg := (← config).submitter.effective
  let bundleId ← freshBundleId
  let beneficiary ← (selectBeneficiary b cfg : SvcM m _)
  log .info "📦 sending bundle" ["bundle", bundleId, "ops", toString built.entries.length,
    "beneficiary", beneficiary.checksum, "conditional", boolText cfg.conditionalRpc]
  let (raw, nonce) ← tryCatch (prepare b cfg built beneficiary) fun e => do
    for x in built.entries do revertToPending x.hash
    metric (.bundleFailed "prepare")
    throw e
  return (cfg, bundleId, raw, nonce)

def settle (b : Backend m) (cfg : SubmitterConfig) (bundleId : String) (built : Built) (nonce : UInt64) :
    Except Fault Hash → SvcE m Submission
  | .error e => do
    (resetNonce b.signerAddress : SvcM m Unit)
    metric (.bundleFailed "send")
    handleFailure bundleId built e
  | .ok txHash => do
    modify fun s => { s with nonces := s.nonces.commit b.signerAddress nonce }
    let ops := built.entries.map (·.op)
    let mut opHashes := built.entries.map (·.hash)
    if let some hasher := b.opHashes then
      match ← (hasher cfg.opHashHelper ops : m _) with
      | .ok hs => opHashes := hs
      | .error e => log .warn "getUserOpHash failed, reporting local hashes" ["bundle", bundleId, "err", e.message]
    metric .bundleSent
    metric (.bundleSize built.entries.length)
    log .info "✅ bundle sent" ["bundle", bundleId, "tx", txHash.hex, "ops", toString built.entries.length]
    return { bundleId, txHash, opHashes, entries := built.entries }

def sendNext (b : Backend m) (drainAll : Bool) : SvcE m Submission := do
  let svc ← get
  if svc.pool.size == 0 then return .none
  let entries ← match claimFrom svc.pool drainAll with
    | .ok (pool, taken) =>
      set { svc with pool }
      pure taken
    | .error e => throw e
  if entries.isEmpty then return .none
  let attempt : Except Fault Built ← (build b entries : SvcM m _)
  let built ← match attempt with
    | .ok built => pure built
    | .error e =>
      metric (.bundleFailed "build")
      throw e
  if built.isEmpty then return .none
  let (cfg, bundleId, raw, nonce) ← ready b built
  settle b cfg bundleId built nonce (← (b.send raw (cfg.assumed built) : m _))

end

end Erc4337.Bundle
