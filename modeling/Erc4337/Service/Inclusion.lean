import Erc4337.Service.State
import Erc4337.Service.Backend
/-!
Following sent bundles until their transaction is mined. An included bundle's operations
leave the pool and credit every entity they name; a bundle whose transaction reverted returns
its operations to pending, except those that have now been in three reverted bundles, which
are dropped; a bundle with no receipt in time returns its operations to pending.

A tracked bundle waits in the service's in-flight list until its receipt is looked up, or until
the service stops, which releases it.
-/
namespace Erc4337.Service

def maxOnChainReverts : Nat := 3

section
variable {n : Type → Type} [Monad n] [MonadStateOf Service n]

def revertCount (s : Service) (h : Hash) : Nat := (s.reverts.lookup h).getD 0

def setReverts (h : Hash) (v : Option Nat) : n Unit :=
  modifyThe Service fun s =>
    let rest := s.reverts.filter (·.1 != h)
    { s with reverts := match v with
      | some k => (h, k) :: rest
      | none => rest }

def settle (sub : Submission) : n Unit := do
  for e in sub.entries do setReverts e.hash none
  for e in sub.entries do
    removeFromPool e.hash
    modifyRep fun r => (((r.recordIncluded e.op.sender).recordIncluded e.op.paymaster).recordIncluded
      e.op.factory).recordIncluded e.aggregator
  metric (.included sub.entries.length)

def release (sub : Submission) : n Unit := do
  for e in sub.entries do revertToPending e.hash

def releaseReverted (sub : Submission) : n Unit := do
  for e in sub.entries do
    let count := revertCount (← getThe Service) e.hash + 1
    if count < maxOnChainReverts then
      setReverts e.hash (some count)
      revertToPending e.hash
    else
      setReverts e.hash none
      removeFromPool e.hash
      log .warn "dropping userop after repeated on-chain reverts"
        ["userOpHash", e.hash.hex, "sender", e.op.sender.checksum, "reverts", toString maxOnChainReverts]

def notIncluded (sub : Submission) (why : String) : n Unit := do
  log .warn "bundle not included, releasing its userops" ["bundle", sub.bundleId, "tx", sub.txHash.hex, "err", why]
  release sub

def track (sub : Submission) : n Unit :=
  modifyThe Service fun s => { s with inflight := s.inflight ++ [sub] }

def abandonInflight : n Unit := do
  let subs := (← getThe Service).inflight
  modifyThe Service fun s => { s with inflight := [] }
  for sub in subs do notIncluded sub "context canceled"

end

section
variable {m : Type → Type} [Monad m]

def conclude (b : Backend m) (sub : Submission) : SvcM m Unit := do
  match ← (b.receipt sub.txHash : m _) with
  | .ok (some r) =>
    if r.status == 1 then
      settle sub
      log .info "🎉 bundle included" ["bundle", sub.bundleId, "tx", sub.txHash.hex, "block", toString r.blockNumber,
        "ops", toString sub.entries.length]
    else
      log .warn "bundle transaction reverted, releasing its userops"
        ["bundle", sub.bundleId, "tx", sub.txHash.hex, "block", toString r.blockNumber]
      metric (.bundleFailed "onchain_revert")
      releaseReverted sub
  | .ok none => notIncluded sub "context deadline exceeded"
  | .error e =>
    log .debug "receipt lookup failed" ["tx", sub.txHash.hex, "err", e.message]
    notIncluded sub "context deadline exceeded"

def concludeInflight (b : Backend m) : SvcM m Unit := do
  let subs := (← get).inflight
  modify fun s => { s with inflight := [] }
  for sub in subs do conclude b sub

end

end Erc4337.Service
