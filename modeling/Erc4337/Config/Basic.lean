import Erc4337.Config.Schema
import Erc4337.Config.Rules
import Erc4337.Text.FieldError
import Erc4337.Text.Duration
import Erc4337.Rpc.Fault
import Erc4337.Chain.Signer
import Erc4337.Reputation.Tracker
import Erc4337.Mempool.Config
import Erc4337.Bundle.Config
import Erc4337.UserOp.Basic
/-!
The bundler's configuration, read from a YAML file. Reading is strict: unknown keys and values
of the wrong kind are refused. The values are then checked against their rules, all broken
rules reported together; then the key, the ether amounts and the durations are converted, and
absent settings take their defaults. Each refusal names the file.
-/
namespace Erc4337.Config

def rawKind : Yaml.Kind :=
  .record "config.ConfigRaw"
    [("environment", .text "logging.LogLevel"), ("eth_rpc_url", .text "string"),
     ("entrypoint_address", .text "string"), ("op_hash_helper_address", .text "string"),
     ("ecdsa_private_key", .text "string"), ("beneficiary", .text "string"),
     ("min_signer_balance", .text "string"), ("max_bundle_gas", .u64), ("bundle_gas_limit", .u64),
     ("auto_bundle_interval", .text "string"), ("auto_bundle_mempool_size", .int),
     ("conditional_rpc", .flag), ("validation_url", .text "string"),
     ("validation_timeout", .text "string"), ("http_bind_address", .text "string"),
     ("socket_path", .text "string"), ("sentry_dsn", .text "string"),
     ("inclusion_timeout", .text "string"),
     ("reputation", .record "config.ReputationRaw"
       [("role", .text "string"), ("min_stake", .text "string"), ("min_unstake_delay", .u64),
        ("whitelist", .texts), ("blacklist", .texts)]),
     ("mempool", .record "config.MempoolRaw"
       [("max_ops_per_sender", .u64), ("throttled_entity_mempool_count", .u64), ("batch_limit", .int)]),
     ("bundle", .record "config.BundleRaw" [("throttled_entity_bundle_count", .int)])]

structure Bundler where
  environment : String
  ethRpcUrl : String
  entryPoint : Address
  opHashHelper : Address
  signerKey : Nat
  signerAddress : Address
  validationUrl : String
  validationTimeout : Int
  autoBundleInterval : Int
  autoBundleMempoolSize : Int
  inclusionTimeout : Int
  httpBindAddress : String
  socketPath : String
  sentryDsn : String
  reputation : Reputation.Config
  mempool : Mempool.Config
  builder : Bundle.BuilderConfig
  submitter : Bundle.SubmitterConfig
  deriving Inhabited

def second : Int := 1000000000

def violations (raw : Yaml.Val) : List FieldError :=
  let text := fun (k : String) => (raw.field k).str
  let rep := raw.field "reputation"
  let check := fun (path field rule : String) (ok : Bool) => if ok then [] else [FieldError.mk path field rule]
  let optional := fun (v : String) (ok : String → Bool) => v.isEmpty || ok v
  let requiredUrl := fun (path field v : String) =>
    if v.isEmpty then [FieldError.mk path field "required"] else check path field "url" (Rules.isUrl v)
  check "ConfigRaw.Environment" "Environment" "oneof"
      (optional (text "environment") fun v => v = "development" ∨ v = "production") ++
  requiredUrl "ConfigRaw.EthRpcUrl" "EthRpcUrl" (text "eth_rpc_url") ++
  check "ConfigRaw.EntryPointAddress" "EntryPointAddress" "eth_addr" (optional (text "entrypoint_address") Rules.isEthAddr) ++
  check "ConfigRaw.OpHashHelperAddress" "OpHashHelperAddress" "eth_addr"
      (optional (text "op_hash_helper_address") Rules.isEthAddr) ++
  check "ConfigRaw.EcdsaPrivateKey" "EcdsaPrivateKey" "required" (!(text "ecdsa_private_key").isEmpty) ++
  check "ConfigRaw.Beneficiary" "Beneficiary" "eth_addr" (optional (text "beneficiary") Rules.isEthAddr) ++
  check "ConfigRaw.MinSignerBalance" "MinSignerBalance" "numeric" (optional (text "min_signer_balance") Rules.isNumeric) ++
  check "ConfigRaw.AutoBundleMempoolSize" "AutoBundleMempoolSize" "gte" ((raw.field "auto_bundle_mempool_size").intVal ≥ 0) ++
  requiredUrl "ConfigRaw.ValidationUrl" "ValidationUrl" (text "validation_url") ++
  check "ConfigRaw.SentryDsn" "SentryDsn" "url" (optional (text "sentry_dsn") Rules.isUrl) ++
  check "ConfigRaw.Reputation.Role" "Role" "oneof"
      (optional (rep.field "role").str fun v => v = "bundler" ∨ v = "non-bundler") ++
  check "ConfigRaw.Reputation.MinStake" "MinStake" "numeric" (optional (rep.field "min_stake").str Rules.isNumeric) ++
  ((rep.field "whitelist").list.zipIdx.flatMap fun (a, i) =>
    check ("ConfigRaw.Reputation.Whitelist[" ++ toString i ++ "]") ("Whitelist[" ++ toString i ++ "]") "eth_addr" (Rules.isEthAddr a)) ++
  ((rep.field "blacklist").list.zipIdx.flatMap fun (a, i) =>
    check ("ConfigRaw.Reputation.Blacklist[" ++ toString i ++ "]") ("Blacklist[" ++ toString i ++ "]") "eth_addr" (Rules.isEthAddr a)) ++
  check "ConfigRaw.Mempool.BatchLimit" "BatchLimit" "gte" (((raw.field "mempool").field "batch_limit").intVal ≥ 0) ++
  check "ConfigRaw.Bundle.ThrottledEntityBundleCount" "ThrottledEntityBundleCount" "gte"
      (((raw.field "bundle").field "throttled_entity_bundle_count").intVal ≥ 0)

def parseEther (v : String) : Except String Int :=
  if v.isEmpty then .ok 0
  else
    let (neg, body) := match v.toList with
      | '-' :: r => (true, r)
      | '+' :: r => (false, r)
      | r => (false, r)
    let ip := body.takeWhile Rules.isDigit
    let fp := (body.drop (ip.length + 1)).take 18
    let fp := fp ++ List.replicate (18 - fp.length) '0'
    let num := fun (ds : List Char) => (ds.foldl (fun a c => a * 10 + (c.toNat - 48)) 0 : Nat)
    let wei : Int := (num ip * 10 ^ 18 + num fp : Nat)
    let whole := (body.filter Rules.isDigit).any (· != '0')
    if neg ∧ whole then .error ("negative amount " ++ v)
    else .ok wei

def parseDuration (v : String) (default : Int) : Except String Int := do
  if v.isEmpty then return default
  let d ← Duration.parse v
  if d ≤ 0 then throw ("duration must be positive, got " ++ v)
  pure d

def trimKey (s : String) : String :=
  let t := s.trimAscii.toString
  let t := if t.startsWith "0x" then String.ofList (t.toList.drop 2) else t
  if t.startsWith "0X" then String.ofList (t.toList.drop 2) else t

def build (raw : Yaml.Val) : Except Fault Bundler := do
  let vs := violations raw
  if !vs.isEmpty then throw { message := FieldError.listMessage vs, kind := .rules }
  let text := fun (k : String) => (raw.field k).str
  let rep := raw.field "reputation"
  let mp := raw.field "mempool"
  let key ← (Signer.parseKeyDigits (trimKey (text "ecdsa_private_key"))).mapError
    fun e => Fault.plain ("cannot parse ecdsa private key: " ++ e)
  let entryPoint := if (text "entrypoint_address").isEmpty then defaultEntryPoint
    else Address.ofTextLoose (text "entrypoint_address")
  let opHashHelper := if (text "op_hash_helper_address").isEmpty then entryPoint
    else Address.ofTextLoose (text "op_hash_helper_address")
  let minSignerBalance ← (parseEther (text "min_signer_balance")).mapError (Fault.plain ∘ ("min_signer_balance: " ++ ·))
  let minStake ← (parseEther (rep.field "min_stake").str).mapError (Fault.plain ∘ ("reputation.min_stake: " ++ ·))
  let params ← (Reputation.Params.forRole (rep.field "role").str).mapError Fault.plain
  let autoBundle ← (parseDuration (text "auto_bundle_interval") (10 * second)).mapError
    (Fault.plain ∘ ("auto_bundle_interval: " ++ ·))
  let inclusion ← (parseDuration (text "inclusion_timeout") (120 * second)).mapError
    (Fault.plain ∘ ("inclusion_timeout: " ++ ·))
  let validation ← (parseDuration (text "validation_timeout") (10 * second)).mapError
    (Fault.plain ∘ ("validation_timeout: " ++ ·))
  let conditional := (raw.field "conditional_rpc").flagVal
  let env := if (text "environment").isEmpty then "development" else text "environment"
  let mempoolSize := (raw.field "auto_bundle_mempool_size").intVal
  pure {
    environment := env
    ethRpcUrl := text "eth_rpc_url"
    entryPoint, opHashHelper
    signerKey := key
    signerAddress := Signer.addressOf key
    validationUrl := text "validation_url"
    validationTimeout := validation
    autoBundleInterval := autoBundle
    autoBundleMempoolSize := if mempoolSize = 0 then 10 else mempoolSize
    inclusionTimeout := inclusion
    httpBindAddress := if (text "http_bind_address").isEmpty then "localhost:4338" else text "http_bind_address"
    socketPath := if (text "socket_path").isEmpty then "/tmp/ap-bundler.sock" else text "socket_path"
    sentryDsn := text "sentry_dsn"
    reputation := { params, minStake, minUnstakeDelay := (rep.field "min_unstake_delay").natVal.toUInt64
                    whitelist := (rep.field "whitelist").list.map Address.ofTextLoose
                    blacklist := (rep.field "blacklist").list.map Address.ofTextLoose }
    mempool := Mempool.Config.withDefaults
      { maxOpsPerSender := (mp.field "max_ops_per_sender").natVal.toUInt64
        throttledEntityMempoolCount := (mp.field "throttled_entity_mempool_count").natVal.toUInt64
        batchLimit := (mp.field "batch_limit").intVal }
    builder := Bundle.BuilderConfig.withDefaults
      { maxBundleGas := (raw.field "max_bundle_gas").natVal.toUInt64
        throttledEntityBundleCount := ((raw.field "bundle").field "throttled_entity_bundle_count").intVal
        conditionalRpc := conditional }
    submitter := Bundle.SubmitterConfig.withDefaults
      { entryPoint, opHashHelper
        beneficiary := Address.ofTextLoose (text "beneficiary")
        minSignerBalance
        gasLimit := (raw.field "bundle_gas_limit").natVal.toUInt64
        conditionalRpc := conditional } }

def load (path : String) (contents : Option String) : Except Fault Bundler := do
  let src ← match contents with
    | some s => pure s
    | none => throw (Fault.plain ("read config " ++ path ++ ": open " ++ path ++ ": no such file or directory"))
  let node ← (Yaml.parse src).mapError fun e => Fault.plain ("parse config " ++ path ++ ": " ++ e.message)
  let raw ← (Yaml.decodeDoc rawKind node).mapError fun e => Fault.plain ("parse config " ++ path ++ ": " ++ e)
  (build raw).mapError (Fault.wrap ("invalid config " ++ path))

end Erc4337.Config
