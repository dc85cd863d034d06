import Erc4337.Service.State
import Erc4337.Service.Backend
import Erc4337.Bundle.Config
/-!
Building a bundle from claimed entries. The entries are scanned in order; each is included,
deferred (back to pending, to be tried in a later bundle) or removed from the pool, and the scan
stops at the first entry that would push the bundle over its gas budget, deferring it and all
after it.

An entry is removed when its paymaster or factory is banned, or when it no longer validates.
It is deferred when a throttled paymaster or factory already has its share of the bundle, when
its sender already has an operation in the bundle, when its validation read the storage of
another sender in the pool, or when its paymaster's deposit, less what earlier operations of
the bundle use, does not cover its prefund. An included entry adds its storage to the bundle's
precondition: with conditional sending and no factory, the sender's storage root, otherwise
the storage its validation read.

A failure of the node, or a validation interrupted by cancellation, fails the whole build and
returns every claimed entry that is still in the pool to pending.
-/
namespace Erc4337.Bundle
open Service

structure Built where
  entries : List Mempool.Entry := []
  storageMap : StorageMap := .empty
  deferred : List Hash := []
  removed : List Hash := []
  deriving Inhabited

def Built.isEmpty (b : Built) : Bool := b.entries.isEmpty

inductive Decision where
  | include
  | defer
  | remove
  | stop
  deriving DecidableEq

structure Pass where
  built : Built := {}
  totalGas : Int := 0
  deposits : List (Address × Int) := []
  entityCount : List (Address × Nat) := []
  senders : List Address := []
  knownSenders : List Address
  deriving Inhabited

def Pass.count (p : Pass) (a : Address) : Nat := (p.entityCount.lookup a).getD 0

def Pass.bump (p : Pass) (a : Address) : Pass :=
  { p with entityCount := (a, p.count a + 1) :: p.entityCount.filter (·.1 != a) }

def Pass.setDeposit (p : Pass) (a : Address) (v : Int) : Pass :=
  { p with deposits := (a, v) :: p.deposits.filter (·.1 != a) }

def Pass.screen (p : Pass) (rep : Reputation.Tracker) (limit : Int) (op : UserOperation) : Option Decision :=
  let paymasterStatus := rep.status op.paymaster
  let factoryStatus := rep.status op.factory
  if paymasterStatus = .banned || factoryStatus = .banned then some .remove
  else if paymasterStatus = .throttled && decide ((p.count op.paymaster : Int) ≥ limit) then some .defer
  else if factoryStatus = .throttled && decide ((p.count op.factory : Int) ≥ limit) then some .defer
  else if p.senders.contains op.sender then some .defer
  else none

def Pass.foreignStorage (p : Pass) (op : UserOperation) (res : Validation.Result) : Option Address :=
  (res.storageMap.entries.find? fun (a, _) => a != op.sender && p.knownSenders.contains a).map (·.1)

def opGas (op : UserOperation) (res : Validation.Result) : Int := res.returnInfo.preOpGas + op.callGasLimit.getD 0

def Pass.add (p : Pass) (entry : Mempool.Entry) (storageMap : StorageMap) (gas : Int) : Pass :=
  { p with
    built := { p.built with entries := p.built.entries ++ [entry], storageMap }
    senders := p.senders ++ [entry.op.sender]
    totalGas := p.totalGas + gas }

section
variable {m : Type → Type} [Monad m]

def Pass.depositOf (p : Pass) (b : Backend m) (a : Address) : SvcE m Int :=
  match p.deposits.lookup a with
  | some d => pure d
  | none => call (b.deposit a)

def Pass.charge (p : Pass) (b : Backend m) (op : UserOperation) (prefund : Int) : SvcE m (Bool × Pass) := do
  if !op.hasPaymaster then return (true, p)
  let deposit ← p.depositOf b op.paymaster
  if deposit < prefund then return (false, p.setDeposit op.paymaster deposit)
  return (true, ((p.setDeposit op.paymaster deposit).setDeposit op.paymaster (deposit - prefund)).bump op.paymaster)

def consider (b : Backend m) (cfg : BuilderConfig) (p : Pass) (entry : Mempool.Entry) :
    SvcE m (Decision × Pass) := do
  let op := entry.op
  match p.screen (← get).rep cfg.throttledEntityBundleCount op with
  | some .remove =>
    log .info "dropping userop of banned entity"
      ["hash", entry.hash.hex, "paymaster", op.paymaster.checksum, "factory", op.factory.checksum]
    return (.remove, p)
  | some d => return (d, p)
  | none =>
    let res ← match ← (b.validate op true entry.referenced : m _) with
      | .ok res => pure res
      | .error e =>
        if ← (b.cancelled : m _) then
          throw (.plain "bundle build interrupted: context canceled")
        log .info "dropping userop that no longer validates" ["hash", entry.hash.hex, "err", e.message]
        return (.remove, p)
    if let some a := p.foreignStorage op res then
      log .debug "deferring userop touching another sender's storage" ["hash", entry.hash.hex, "address", a.checksum]
      return (.defer, p)
    let gas := opGas op res
    if p.totalGas + gas > (cfg.maxBundleGas.toNat : Int) then return (.stop, p)
    let (covered, p) ← p.charge b op res.returnInfo.prefund
    if !covered then return (.defer, p)
    let p := if op.hasFactory then p.bump op.factory else p
    let storageMap ← if cfg.conditionalRpc && !op.hasFactory then
        pure (p.built.storageMap.set op.sender (.root (← call (b.storageRoot op.sender))))
      else pure (p.built.storageMap.merge res.storageMap)
    return (.include, p.add entry storageMap gas)

def scan (b : Backend m) (cfg : BuilderConfig) : Pass → List Mempool.Entry → SvcM m (Except Fault Pass)
  | p, [] => return .ok p
  | p, entry :: rest => do
    match ← (consider b cfg p entry).run with
    | .error e =>
      for x in entry :: rest do revertToPending x.hash
      for h in p.built.deferred do revertToPending h
      for x in p.built.entries do revertToPending x.hash
      return .error e
    | .ok (.include, p) => scan b cfg p rest
    | .ok (.defer, p) => scan b cfg { p with built := { p.built with deferred := p.built.deferred ++ [entry.hash] } } rest
    | .ok (.remove, p) =>
      removeFromPool entry.hash
      scan b cfg { p with built := { p.built with removed := p.built.removed ++ [entry.hash] } } rest
    | .ok (.stop, p) =>
      return .ok { p with built := { p.built with deferred := p.built.deferred ++ (entry :: rest).map (·.hash) } }

def build (b : Backend m) (entries : List Mempool.Entry) : SvcM m (Except Fault Built) := do
  let cfg := (← config).builder.withDefaults
  let start : Pass := { knownSenders := (← get).pool.knownSenders }
  match ← scan b cfg start entries with
  | .error e => return .error e
  | .ok p =>
    for h in p.built.deferred do revertToPending h
    log .debug "built bundle" ["included", toString p.built.entries.length, "deferred",
      toString p.built.deferred.length, "removed", toString p.built.removed.length, "gas", toString p.totalGas]
    return .ok p.built

end

end Erc4337.Bundle
