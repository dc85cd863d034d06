import Erc4337.Service.State
import Erc4337.Service.Backend
/-!
Admission of user operations. The operation is hashed for the entry point and the chain, the
validator is asked about it, and a result whose signature failed, that expires within 30
seconds of now or that is not valid yet is refused. Otherwise the pool accepts or refuses it
with the stakes validation reported, the sender's own address standing in when the validator
reported none. Every outcome is counted and logged.

Validity times are compared with the clock as instants: a reported second wraps past the
64-bit count from year 1, and the 30-second margin stops at the end of that count.
-/
namespace Erc4337.Service

def validUntilMargin : Int64 := 30

def timeWindowFault (now : Instant) (info : Validation.ReturnInfo) : Option Fault :=
  if info.sigFailed then
    some (.ofRpc ⟨RpcError.simulateValidation, "Invalid UserOp signature or paymaster signature", []⟩)
  else if info.validUntil ≠ 0 ∧ (Instant.ofUnix (.ofNat info.validUntil)).before (now.addSeconds validUntilMargin) then
    some (.ofRpc ⟨RpcError.simulateValidation, "expires too soon", [("validUntil", Json.nat info.validUntil)]⟩)
  else if info.validAfter ≠ 0 ∧ (Instant.ofUnix (.ofNat info.validAfter)).after now then
    some (.ofRpc ⟨RpcError.simulateValidation, "not yet valid", [("validAfter", Json.nat info.validAfter)]⟩)
  else none

section
variable {m : Type → Type} [Monad m]

def admitToPool (op : UserOperation) (hash : Hash) (prefund : Option Int)
    (referenced : Option Validation.Referenced) (stakes : Mempool.EntityStakes) : SvcE m Unit := do
  let s ← get
  match s.pool.accept s.rep op hash prefund referenced stakes with
  | .error e => throw e
  | .ok (pool, rep, admission) =>
    set { s with pool, rep }
    let nonce := toString (op.nonce.getD 0)
    match admission with
    | .inserted => log .debug "admitted userop" ["sender", op.sender.checksum, "nonce", nonce, "hash", hash.hex]
    | .replaced old =>
      log .debug "replaced userop" ["sender", op.sender.checksum, "nonce", nonce, "old", old.hash.hex, "new", hash.hex]

def stakesOf (op : UserOperation) (res : Validation.Result) : Mempool.EntityStakes :=
  let sender := if res.senderInfo.addr.isZero then { res.senderInfo with addr := op.sender } else res.senderInfo
  { sender, paymaster := res.paymasterInfo, factory := res.factoryInfo, aggregator := res.aggregatorInfo }

def chainIdOf (b : Backend m) : SvcM m (Except Fault Int) := do
  match (← get).chainId with
  | some id => return .ok id
  | none =>
    match ← (b.chainId : m _) with
    | .ok id =>
      modify fun s => { s with chainId := some id }
      return .ok id
    | .error e => return .error e

def admitChecked (b : Backend m) (op : UserOperation) : SvcE m Hash := do
  let known : Except Fault Int ← (chainIdOf b : SvcM m _)
  let chainId ← match known with
    | .ok id => pure id
    | .error e => throw (.ofRpc ⟨RpcError.internalError, "cannot read chain id: " ++ e.message, []⟩)
  let cfg ← config
  let hash := op.hash cfg.entryPoint (some chainId)
  let verdict : Except Fault Validation.Result ← (b.validate op false none : m _)
  let res ← match verdict with
    | .ok res => pure res
    | .error e =>
      match e.rpc with
      | some r => throw (.ofRpc r)
      | none => throw (.ofRpc ⟨RpcError.simulateValidation, "validation failed: " ++ e.message, []⟩)
  if let some f := timeWindowFault (← get).settings.now res.returnInfo then throw f
  admitToPool op hash (some res.returnInfo.prefund) (some res.referenced) (stakesOf op res)
  return hash

def admitOperation (b : Backend m) (op : UserOperation) : SvcM m (Except Fault Hash) := do
  match ← (admitChecked b op).run with
  | .error e =>
    metric (.rejected (RpcError.codeName e.rpcCode))
    log .info "rejected userop" ["sender", op.sender.checksum, "nonce", numText op.nonce, "err", e.message]
    return .error e
  | .ok hash =>
    metric .admitted
    log .info "admitted userop" ["hash", hash.hex, "sender", op.sender.checksum, "nonce", numText op.nonce]
    return .ok hash

end

end Erc4337.Service
