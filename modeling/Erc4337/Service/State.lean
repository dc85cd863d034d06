import Erc4337.Config.Basic
import Erc4337.Mempool.Pool
import Erc4337.Chain.NonceTracker
import Erc4337.Log.Record
import Erc4337.Service.Metrics
import Erc4337.Text.Ulid
/-!
The state of a running bundler: its configuration, the operation pool, the reputation
tracker, the signer's nonce cache, the cached chain id, the life-cycle phase, which background
jobs and surfaces are up, the bundles waiting for a receipt, and the log journal and metric
events written so far.

Every part of the service runs in `StateT Service m` for the monad `m` of its collaborators,
so that logging and metrics are plain state updates.
-/
namespace Erc4337.Service

inductive Phase where
  | init
  | running
  | shutdown
  deriving DecidableEq, Inhabited

def Phase.name : Phase → String
  | .init => "init"
  | .running => "running"
  | .shutdown => "shutdown"

structure Submission where
  bundleId : String
  txHash : Hash
  opHashes : List Hash
  entries : List Mempool.Entry
  deriving Inhabited

def Submission.none : Submission := ⟨"", .zero, [], []⟩

def Submission.isEmpty (s : Submission) : Bool := s.txHash == .zero

def epochOffset : Int64 := 62135596800

structure Instant where
  sec : Int64
  nsec : Fin 1000000000 := 0
  deriving DecidableEq, Inhabited

namespace Instant

def ofUnix (unix : Int64) : Instant := { sec := unix + epochOffset }

def addSeconds (t : Instant) (d : Int64) : Instant :=
  let sum := t.sec + d
  { t with sec := if (t.sec < sum ↔ 0 < d) then sum else if 0 < d then Int64.maxValue else -Int64.maxValue }

def before (t u : Instant) : Bool := t.sec < u.sec || t.sec == u.sec && t.nsec < u.nsec

def after (t u : Instant) : Bool := u.before t

def unixMillis (t : Instant) : Nat :=
  ((t.sec.toInt - epochOffset.toInt) * 1000 + t.nsec.val / 1000000).toNat

end Instant

structure Settings where
  config : Config.Bundler
  now : Instant := .ofUnix 1700000000
  metricsOn : Bool := true
  registryOn : Bool := false
  recordLogs : Bool := false
  deriving Inhabited

end Erc4337.Service

namespace Erc4337

structure Service where
  settings : Service.Settings
  pool : Mempool.Pool
  rep : Reputation.Tracker
  nonces : NonceTracker := {}
  chainId : Option Int := none
  phase : Service.Phase := .init
  autoBundler : Bool := false
  replOpen : Bool := false
  httpOpen : Bool := false
  sentryOn : Bool := false
  inflight : List Service.Submission := []
  reverts : List (Hash × Nat) := []
  logger : Log.Logger
  journal : Array Log.Record := #[]
  events : Array Metrics.Metric := #[]
  registry : Metrics.Registry := {}
  bundlesMade : Nat := 0
  deriving Inhabited

end Erc4337

namespace Erc4337.Service

def create (s : Settings) : Service :=
  { settings := s
    pool := Mempool.Pool.create s.config.mempool
    rep := Reputation.Tracker.create s.config.reputation
    logger := if s.recordLogs then .recorder else .discard }

abbrev SvcM (m : Type → Type) := StateT Service m

abbrev SvcE (m : Type → Type) := ExceptT Fault (SvcM m)

def noteMetric (s : Service) (x : Metrics.Metric) : Service :=
  if s.settings.metricsOn then { s with events := s.events.push x, registry := s.registry.record x } else s

section
variable {n : Type → Type} [Monad n] [MonadStateOf Service n]

def config : n Config.Bundler := return (← getThe Service).settings.config

def log (level : Log.Level) (msg : String) (kv : List String) : n Unit :=
  modifyThe Service fun s => { s with journal := s.logger.write s.journal level msg kv }

def metric (x : Metrics.Metric) : n Unit := modifyThe Service (·.noteMetric x)

def modifyPool (f : Mempool.Pool → Mempool.Pool) : n Unit :=
  modifyThe Service fun s => { s with pool := f s.pool }

def modifyRep (f : Reputation.Tracker → Reputation.Tracker) : n Unit :=
  modifyThe Service fun s => { s with rep := f s.rep }

def revertToPending (h : Hash) : n Unit := modifyPool (·.revert h)

def removeFromPool (h : Hash) : n Unit := modifyPool fun p => (p.remove h).1

def freshBundleId : n String := do
  let s ← getThe Service
  set { s with bundlesMade := s.bundlesMade + 1 }
  return Ulid.encode (s.settings.now.unixMillis * 2 ^ 80 + s.bundlesMade + 1)

end

section
variable {m : Type → Type} [Monad m]

def call {α : Type} (x : m (Except Fault α)) : SvcE m α := do
  match ← (x : m _) with
  | .ok v => pure v
  | .error e => throw e

end

def numText : Option Int → String
  | some v => toString v
  | none => "<nil>"

def boolText (b : Bool) : String := if b then "true" else "false"

end Erc4337.Service
