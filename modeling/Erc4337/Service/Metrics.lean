import Erc4337.Eth.Address
/-!
The bundler's metrics. Every event the service reports is one `Metric`; a registry adds them
up into Prometheus counters and a histogram of bundle sizes, and reads them out in the text
exposition format, families by name and series by label, next to two gauges taken when read:
the pool size of the entry point and the number of tracked entities by reputation status.

Values are whole numbers here; they are printed the way Prometheus prints floats, plainly
below a million and in exponent form from there on.
-/
namespace Erc4337.Metrics

inductive Metric where
  | uptime (ms : Nat)
  | admitted
  | rejected (reason : String)
  | included (n : Nat)
  | bundleSent
  | bundleFailed (reason : String)
  | bundleSize (n : Nat)
  | entityCrashed (role : String)
  deriving Inhabited

def floatText (n : Nat) : String :=
  let ds := Nat.toDigits 10 n
  let exp := ds.length - 1
  if exp < 6 then String.ofList ds
  else
    let sig := (ds.reverse.dropWhile (· = '0')).reverse
    let mant := match sig with
      | [d] => [d]
      | d :: rest => d :: '.' :: rest
      | [] => ['0']
    String.ofList mant ++ "e+" ++ (if exp < 10 then "0" else "") ++ toString exp

def Metric.label : Metric → String
  | .uptime ms => "uptime:" ++ floatText ms
  | .admitted => "admitted"
  | .rejected r => "rejected:" ++ r
  | .included n => "included:" ++ toString n
  | .bundleSent => "bundle_sent"
  | .bundleFailed r => "bundle_failed:" ++ r
  | .bundleSize n => "bundle_size:" ++ toString n
  | .entityCrashed r => "entity_crashed:" ++ r

def bump (label : String) (by_ : Nat) : List (String × Nat) → List (String × Nat)
  | [] => [(label, by_)]
  | (l, v) :: rest =>
    if label < l then (label, by_) :: (l, v) :: rest
    else if label == l then (l, v + by_) :: rest
    else (l, v) :: bump label by_ rest

def buckets : List Nat := (List.range 10).map fun i => 1 + 2 * i

structure Registry where
  uptime : Nat := 0
  admitted : Nat := 0
  rejected : List (String × Nat) := []
  included : Nat := 0
  sent : Nat := 0
  failed : List (String × Nat) := []
  sizes : List Nat := []
  crashed : List (String × Nat) := []
  deriving Inhabited

def Registry.record (r : Registry) : Metric → Registry
  | .uptime ms => { r with uptime := r.uptime + ms }
  | .admitted => { r with admitted := r.admitted + 1 }
  | .rejected reason => { r with rejected := bump reason 1 r.rejected }
  | .included n => { r with included := r.included + n }
  | .bundleSent => { r with sent := r.sent + 1 }
  | .bundleFailed reason => { r with failed := bump reason 1 r.failed }
  | .bundleSize n => { r with sizes := r.sizes ++ [n] }
  | .entityCrashed role => { r with crashed := bump role 1 r.crashed }

structure Family where
  name : String
  help : String
  kind : String
  samples : List (String × Nat)

def labelled (key : String) (series : List (String × Nat)) : List (String × Nat) :=
  series.map fun (v, n) => ("\x7b" ++ key ++ "=\"" ++ v ++ "\"\x7d", n)

def Registry.families (r : Registry) (entryPoint : Address) (poolSize : Nat)
    (statusCounts : List (String × Nat)) : List Family :=
  let histogram : List (String × Nat) :=
    buckets.map (fun b => ("_bucket\x7ble=\"" ++ toString b ++ "\"\x7d", (r.sizes.filter (· ≤ b)).length)) ++
    [("_bucket\x7ble=\"+Inf\"\x7d", r.sizes.length), ("_sum", r.sizes.sum), ("_count", r.sizes.length)]
  let all : List Family := [
    ⟨"ap_bundle_size", "The number of UserOperations per submitted bundle", "histogram", histogram⟩,
    ⟨"ap_bundles_failed_total", "The number of bundle attempts that failed, by cause", "counter", labelled "reason" r.failed⟩,
    ⟨"ap_bundles_sent_total", "The number of handleOps transactions accepted by the node", "counter", [("", r.sent)]⟩,
    ⟨"ap_entity_crashed_total", "The number of handleOps reverts blamed on an entity, by role", "counter", labelled "role" r.crashed⟩,
    ⟨"ap_mempool_size", "UserOperations currently held in the mempool", "gauge",
      [("\x7bentrypoint=\"" ++ entryPoint.checksum ++ "\"\x7d", poolSize)]⟩,
    ⟨"ap_reputation_entities", "Tracked addresses by reputation status", "gauge", labelled "status" statusCounts⟩,
    ⟨"ap_uptime_milliseconds_total", "The elapse time in milliseconds since the bundler is booted", "counter", [("", r.uptime)]⟩,
    ⟨"ap_userops_admitted_total", "The number of UserOperations accepted into the mempool", "counter", [("", r.admitted)]⟩,
    ⟨"ap_userops_included_total", "The number of UserOperations seen in a mined bundle", "counter", [("", r.included)]⟩,
    ⟨"ap_userops_rejected_total", "The number of UserOperations rejected on admission, by error kind", "counter",
      labelled "reason" r.rejected⟩]
  all.filter fun f => !f.samples.isEmpty

def exposition (fs : List Family) : String :=
  String.join (fs.map fun f =>
    "# HELP " ++ f.name ++ " " ++ f.help ++ "\n# TYPE " ++ f.name ++ " " ++ f.kind ++ "\n" ++
    String.join (f.samples.map fun (s, v) => f.name ++ s ++ " " ++ floatText v ++ "\n"))

def samples (fs : List Family) : List String :=
  fs.flatMap fun f =>
    (f.samples.filter fun (s, _) => s != "_bucket\x7ble=\"+Inf\"\x7d").map fun (s, v) => f.name ++ s ++ " " ++ floatText v

end Erc4337.Metrics
