import Erc4337.Service.State
import Erc4337.Json.Fields
import Erc4337.Reputation.Params
/-!
The configuration of a simulated bundler, read from a document: the entry point, the
reputation, pool, builder and submitter settings, the admission clock, the job intervals and
thresholds, the inclusion timeout, the console socket, error reporting, and which of metrics
and logs are kept.

An inclusion timeout of a few milliseconds makes the simulation settle every tracked bundle at
the end of the step that sent it; without one, bundles wait until the service stops.
-/
namespace Erc4337.Sim
open Service

structure Setup where
  settings : Settings
  settleEachStep : Bool
  deriving Inhabited

def uint64Member (j : Json) (name : String) : Except String UInt64 :=
  (·.toUInt64) <$> Json.member j name Json.uint64

def intMember (j : Json) (name : String) (default : Int) : Except String Int :=
  match j.get? name with
  | none => .ok default
  | some v => match Json.int? v with
    | some n => .ok n
    | none => .error ("field " ++ Quote.quote name ++ ": not an integer")

def reputationConfig (j : Json) : Except String Reputation.Config := do
  let params ← match j.get? "params", j.get? "role" with
    | some p, _ => pure { minInclusionDenominator := ← uint64Member p "minInclusionDenominator"
                          throttlingSlack := ← uint64Member p "throttlingSlack"
                          banSlack := ← uint64Member p "banSlack" }
    | none, some (.str role) => Reputation.Params.forRole role
    | none, _ => pure Reputation.bundlerParams
  pure { params
         minStake := (← Json.member j "minStake" Json.bigInt?).getD 0
         minUnstakeDelay := ← uint64Member j "minUnstakeDelay"
         whitelist := ← (Json.items j "whitelist").mapM Json.address
         blacklist := ← (Json.items j "blacklist").mapM Json.address }

def obj (j : Json) (name : String) : Json := (j.get? name).getD (.obj [])

def setupOf (j : Json) : Except String Setup := do
  let entryPoint ← match j.get? "entryPoint" with
    | some v => Json.address v
    | none => pure defaultEntryPoint
  let conditional := Json.flag j "conditionalRpc"
  let mp := obj j "mempool"
  let bd := obj j "builder"
  let sm := obj j "submitter"
  let timeoutMs ← match j.get? "inclusionTimeoutMs" with
    | none => pure none
    | some v => match Json.int? v with
      | some n => if 0 ≤ n ∧ n ≤ 1000 then pure (some n) else throw "inclusionTimeoutMs must be 0..1000"
      | none => throw "inclusionTimeoutMs must be 0..1000"
  let config : Config.Bundler := {
    environment := Json.text j "environment"
    ethRpcUrl := ""
    entryPoint
    opHashHelper := ← Json.member sm "opHashHelper" Json.address
    signerKey := 0
    signerAddress := .zero
    validationUrl := ""
    validationTimeout := 0
    autoBundleInterval := (← intMember j "autoBundleIntervalSec" 3600000) * Config.second
    autoBundleMempoolSize := ← intMember j "autoBundleMempoolSize" (2 ^ 30)
    inclusionTimeout := match timeoutMs with
      | some ms => ms * 1000000
      | none => 100000 * 3600 * Config.second
    httpBindAddress := ""
    socketPath := Json.text j "socketPath"
    sentryDsn := Json.text j "sentryDsn"
    reputation := ← reputationConfig (obj j "reputation")
    mempool := { maxOpsPerSender := ← uint64Member mp "maxOpsPerSender"
                 throttledEntityMempoolCount := ← uint64Member mp "throttledEntityMempoolCount"
                 batchLimit := ← intMember mp "batchLimit" 0 }
    builder := { maxBundleGas := ← uint64Member bd "maxBundleGas"
                 throttledEntityBundleCount := ← intMember bd "throttledEntityBundleCount" 0
                 conditionalRpc := conditional }
    submitter := { entryPoint
                   opHashHelper := ← Json.member sm "opHashHelper" Json.address
                   beneficiary := ← Json.member sm "beneficiary" Json.address
                   minSignerBalance := (← Json.member sm "minSignerBalance" Json.bigInt?).getD 0
                   gasLimit := ← uint64Member sm "gasLimit"
                   conditionalRpc := conditional } }
  pure { settings := { config
                       now := .ofUnix (Int64.ofInt (← intMember j "now" 1700000000))
                       metricsOn := !Json.flag j "noMetrics"
                       registryOn := Json.flag j "prometheus"
                       recordLogs := Json.flag j "recordLogs" }
         settleEachStep := timeoutMs.any (· > 0) }

end Erc4337.Sim
