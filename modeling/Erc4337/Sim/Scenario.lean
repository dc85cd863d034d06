import Erc4337.Service.Lifecycle
import Erc4337.Service.Debug
import Erc4337.Service.Api
import Erc4337.Service.Console
import Erc4337.Sim.Status
import Erc4337.Sim.Logging
import Erc4337.Sim.Setup
import Erc4337.Sim.Scripted
import Erc4337.UserOp.Wire
import Erc4337.Text.Ulid
/-!
Scenarios: a bundler driven through a list of steps, each reported with its result and the
state it left. A step either acts on one part of the service directly (the pool, the
reputation tracker, the builder, the submitter, the inclusion tracker) or goes through the
service as a whole (admission, the jobs, start and stop). After each step the report shows the
pool, the reputation entries, the metric events of the step and whatever the collaborators
recorded during it.

A malformed step refuses the whole scenario with a message.
-/
namespace Erc4337.Sim
open Service

structure Host (m : Type → Type) where
  backend : Backend m
  chainId : m Int
  patch : Json → m (Except String Unit)
  drain : m (List (String × Json))
  refuses : Json → Option String := fun _ => none

structure Session where
  svc : Service
  settleEachStep : Bool := false
  lastSend : Option Submission := none
  logCursor : Nat := 0
  deriving Inhabited

abbrev SimM (m : Type → Type) := StateT Session m

def okJson : Json := .obj [("ok", .bool true)]

def hashesJson (hs : List Hash) : Json := .arr (hs.map (.str ·.hex))

def referencedJson (r : Validation.Referenced) : Json :=
  .obj [("addresses", .arr (r.addresses.map (.str ·.checksum))), ("hash", .str r.hash.hex)]

def entryJson (e : Mempool.Entry) : Json :=
  .obj [("hash", .str e.hash.hex), ("status", .str e.status.name), ("prefund", .str (toString e.prefund)),
    ("aggregator", .str e.aggregator.checksum), ("op", e.op.toWireJson),
    ("referenced", (e.referenced.map referencedJson).getD .null)]

def poolLines (p : Mempool.Pool) : Json :=
  .arr (p.entries.map fun e => .str (e.hash.hex ++ " " ++ e.status.name))

def repLines (r : Reputation.Tracker) : Json :=
  .arr (r.dump.map fun (a, c, s) =>
    .str (a.checksum ++ " " ++ toString c.opsSeen ++ " " ++ toString c.opsIncluded ++ " " ++ s.name))

def repEntryJson (a : Address) (c : Reputation.Counters) (s : Reputation.Status) : Json :=
  .obj [("address", .str a.checksum), ("opsSeen", .str (toString c.opsSeen)),
    ("opsIncluded", .str (toString c.opsIncluded)), ("status", .str s.name)]

def faultJson (f : Fault) : Json := f.report

def sortedAddresses (as : List Address) : Json :=
  .arr ((as.eraseDups.map (·.checksum)).mergeSort (fun a c => decide (a ≤ c)) |>.map .str)

def submissionJson (s : Submission) : Json :=
  if s.isEmpty then .obj [("empty", .bool true)]
  else .obj [("empty", .bool false), ("bundleId", .bool (!s.bundleId.isEmpty)), ("txHash", .str s.txHash.hex),
    ("opHashes", hashesJson s.opHashes), ("entries", hashesJson (s.entries.map (·.hash)))]

def requestOf (step : Json) : Http.Request :=
  let body := Json.text step "body"
  { method := Json.text step "method", target := Json.text step "path", body
    contentType := match step.get? "contentType" with
      | some (.str t) => t
      | _ => if step.has "body" then "application/json" else "" }

def responseJson (r : Http.Response) : Json :=
  let mask : Json → Json := fun j => match j with
    | .obj ms => .obj (ms.map fun (k, v) => if k == "bundleId" then (k, .str "<ulid>") else (k, v))
    | other => other
  match r.body with
  | .json (.obj ms) =>
    .obj [("status", Json.nat r.status),
      ("json", .obj (ms.map fun (k, v) => if k == "data" then (k, mask v) else (k, v)))]
  | .json j => .obj [("status", Json.nat r.status), ("json", j)]
  | .text t => .obj [("status", Json.nat r.status), ("text", .str t)]

def commandAfterBundle (input : String) : Bool :=
  let commands := ((input.splitOn "\n").dropLast.filterMap Command.ofLine).takeWhile fun c =>
    match c with
    | .exit => false
    | _ => true
  match commands.dropWhile (fun c => match c with | .bundle _ => false | _ => true) with
  | _ :: _ :: _ => true
  | _ => false

def hasExitLine (input : String) : Bool :=
  (input.splitOn "\n").dropLast.any fun l => match Command.ofLine l with
    | some .exit => true
    | _ => false

def dialError (path : String) : String :=
  "cannot connect to " ++ path ++ ": " ++
    (if path.isEmpty then "dial unix: missing address"
     else "dial unix " ++ path ++ ": connect: no such file or directory")

def stakesOf (op : UserOperation) (j : Option Json) : Except String Mempool.EntityStakes := do
  match j with
  | none =>
    pure { sender := stakeFromOp op.sender
           paymaster := if op.hasPaymaster then some (stakeFromOp op.paymaster) else none
           factory := if op.hasFactory then some (stakeFromOp op.factory) else none }
  | some s =>
    let one := fun (name : String) => Json.member? s name stakeInfo
    pure { sender := (← one "sender").getD { addr := op.sender }
           paymaster := ← one "paymaster"
           factory := ← one "factory"
           aggregator := ← one "aggregator" }

def addrOf (step : Json) : Except String Address := Json.member step "addr" Json.address

def hashOf (step : Json) : Except String Hash := Json.member step "hash" Json.hash

def opOf (step : Json) : Except String UserOperation := Json.member step "userOp" Json.userOperation

def counterEntry (j : Json) : Except String (Address × Reputation.Counters) := do
  pure (← Json.member j "address" Json.address,
    { opsSeen := (← Json.member j "opsSeen" Json.uint64).toUInt64
      opsIncluded := (← Json.member j "opsIncluded" Json.uint64).toUInt64 })

section
variable {m : Type → Type} [Monad m]

def onService {α : Type} (act : SvcM m α) : SimM m α := do
  let s ← get
  let (a, svc) ← (act.run s.svc : m _)
  set { s with svc }
  return a

def service : SimM m Service := return (← get).svc

def faultOr {α : Type} (r : Except Fault α) (f : α → Json) : Json :=
  match r with
  | .ok v => f v
  | .error e => faultJson e

def runStep (h : Host m) (step : Json) : SimM m (Except String Json) := do
  let b := h.backend
  let svc ← service
  if let some why := h.refuses step then return .error why
  match Json.text step "do" with
  | "pool_admit" =>
    let parsed : Except String _ := do
      let op ← opOf step
      pure (op, ← Json.member? step "hash" Json.hash, ← Json.member step "prefund" Json.bigInt?,
        ← Json.member? step "referencedContracts" referencedOf, ← stakesOf op (step.get? "stakes"))
    match parsed with
    | .error e => return .error e
    | .ok (op, hash?, prefund, referenced, stakes) =>
      let hash ← match hash? with
        | some h => pure h
        | none => do pure (op.hash svc.settings.config.entryPoint (some (← (h.chainId : m _))))
      let r ← onService (admitToPool op hash prefund referenced stakes).run
      return .ok (faultOr r fun _ => .obj [("hash", .str hash.hex)])
  | "admit" =>
    match opOf step with
    | .error e => return .error e
    | .ok op =>
      let r ← onService (admitOperation b op)
      return .ok (faultOr r fun h => .obj [("hash", .str h.hex)])
  | "remove" =>
    match hashOf step with
    | .error e => return .error e
    | .ok h =>
      let (pool, found) := svc.pool.remove h
      modify fun s => { s with svc := { s.svc with pool } }
      return .ok (.bool found)
  | "remove_op" =>
    match opOf step with
    | .error e => return .error e
    | .ok op =>
      let (pool, found) := svc.pool.removeOp op
      modify fun s => { s with svc := { s.svc with pool } }
      return .ok (.bool found)
  | "find" =>
    match hashOf step with
    | .error e => return .error e
    | .ok h => return .ok (match svc.pool.find? h with
      | some e => .obj [("found", .bool true), ("entry", entryJson e)]
      | none => .obj [("found", .bool false)])
  | "take_batch" =>
    let limit := (Json.int? ((step.get? "limit").getD .null)).getD svc.pool.batchLimit
    match svc.pool.takeBatch limit with
    | .ok (pool, taken) =>
      modify fun s => { s with svc := { s.svc with pool } }
      return .ok (hashesJson (taken.map (·.hash)))
    | .error f => return .ok (faultJson f)
  | "take_all" =>
    let (pool, taken) := svc.pool.takeAll
    modify fun s => { s with svc := { s.svc with pool } }
    return .ok (hashesJson (taken.map (·.hash)))
  | "revert" =>
    match hashOf step with
    | .error e => return .error e
    | .ok h =>
      modify fun s => { s with svc := { s.svc with pool := s.svc.pool.revert h } }
      return .ok okJson
  | "known_senders" => return .ok (sortedAddresses svc.pool.knownSenders)
  | "known_entities" => return .ok (sortedAddresses svc.pool.knownEntities)
  | "entry_count" =>
    match addrOf step with
    | .error e => return .error e
    | .ok a => return .ok (.str (toString (svc.pool.entryCount a)))
  | "size" => return .ok (Json.nat svc.pool.size)
  | "overloaded" => return .ok (.bool svc.pool.isOverloaded)
  | "clear_pool" =>
    modify fun s => { s with svc := { s.svc with pool := s.svc.pool.clear } }
    return .ok okJson
  | "dump_pool" => return .ok (.arr (svc.pool.entries.map entryJson))
  | "rep_seen" | "rep_included" | "rep_crashed" =>
    match addrOf step with
    | .error e => return .error e
    | .ok a =>
      match Json.text step "do" with
      | "rep_seen" => onService (modifyRep (·.recordSeen a) : SvcM m Unit)
      | "rep_included" => onService (modifyRep (·.recordIncluded a) : SvcM m Unit)
      | _ => onService (Bundle.recordCrashed a)
      return .ok okJson
  | "rep_status" =>
    match addrOf step with
    | .error e => return .error e
    | .ok a => return .ok (.str (svc.rep.status a).name)
  | "rep_max_unstaked" =>
    match addrOf step with
    | .error e => return .error e
    | .ok a => return .ok (.str (toString (svc.rep.maxUnstakedMempoolCount a)))
  | "rep_require_not_banned" | "rep_require_not_throttled" =>
    match addrOf step with
    | .error e => return .error e
    | .ok a =>
      let role := Json.text step "role"
      let r := if Json.text step "do" == "rep_require_not_banned" then svc.rep.requireNotBanned role a
        else svc.rep.requireNotThrottled role a
      return .ok (faultOr r fun _ => okJson)
  | "rep_require_staked" =>
    match Json.member step "info" stakeInfo with
    | .error e => return .error e
    | .ok info => return .ok (faultOr (svc.rep.requireStaked (Json.text step "role") info) fun _ => okJson)
  | "rep_decay" =>
    modify fun s => { s with svc := { s.svc with rep := s.svc.rep.decay } }
    return .ok okJson
  | "rep_clear" =>
    modify fun s => { s with svc := { s.svc with rep := s.svc.rep.clear } }
    return .ok okJson
  | "rep_dump" => return .ok (.arr (svc.rep.dump.map fun (a, c, s) => repEntryJson a c s))
  | "rep_set" =>
    match (Json.items step "entries").mapM counterEntry with
    | .error e => return .error e
    | .ok es =>
      modify fun s => { s with svc := { s.svc with rep := s.svc.rep.setReputation es } }
      return .ok okJson
  | "set_reputation" =>
    let raw := (Json.items step "raw").map fun j => match j with
      | .obj ms => ms
      | _ => []
    let r ← onService (setReputation raw : SvcM m _)
    return .ok (faultOr r fun _ => okJson)
  | "rep_start" =>
    onService (startDecay : SvcM m Unit)
    return .ok okJson
  | "rep_stop" =>
    onService (stopDecay : SvcM m Unit)
    return .ok okJson
  | "build" =>
    let limit := (Json.int? ((step.get? "limit").getD .null)).getD svc.pool.batchLimit
    let claim := if Json.text step "take" == "all" then .ok svc.pool.takeAll else svc.pool.takeBatch limit
    match claim with
    | .error f => return .ok (faultJson f)
    | .ok (pool, taken) =>
      modify fun s => { s with svc := { s.svc with pool } }
      let taken := ("taken", hashesJson (taken.map (·.hash)))
      match ← onService (Bundle.build b (match claim with | .ok (_, t) => t | .error _ => [])) with
      | .ok built =>
        return .ok (.obj [taken, ("entries", hashesJson (built.entries.map (·.hash))),
          ("deferred", hashesJson built.deferred), ("removed", hashesJson built.removed),
          ("storageMap", built.storageMap.toJson), ("empty", .bool built.isEmpty)])
      | .error f => return .ok (match faultJson f with
        | .obj ms => .obj (ms ++ [taken])
        | j => j)
  | "send" =>
    let r ← onService (Bundle.sendNext b (Json.flag step "drainAll")).run
    if let .ok sub := r then
      if !sub.isEmpty then modify fun s => { s with lastSend := some sub }
    return .ok (faultOr r submissionJson)
  | "receipt" =>
    match (← get).lastSend with
    | none => return .ok (.obj [("applied", .bool false)])
    | some sub =>
      match Json.text step "status" with
      | "success" => onService (settle sub : SvcM m Unit)
      | "reverted" => onService (releaseReverted sub : SvcM m Unit)
      | _ => onService (release sub : SvcM m Unit)
      return .ok (.obj [("applied", .bool true)])
  | "track" =>
    if !(← get).settleEachStep then return .error "track needs config.inclusionTimeoutMs > 0"
    match (← get).lastSend with
    | none => return .ok (.obj [("tracked", .bool false)])
    | some sub =>
      onService (track sub : SvcM m Unit)
      return .ok (.obj [("tracked", .bool true)])
  | "auto_bundle" =>
    if !(← get).settleEachStep then return .error "auto_bundle needs config.inclusionTimeoutMs > 0"
    onService (autoBundle b)
    return .ok okJson
  | "record_uptime" =>
    onService (recordUptime : SvcM m Unit)
    return .ok okJson
  | "logs" =>
    if !svc.settings.recordLogs then return .error "logs needs config.recordLogs"
    let cursor := (← get).logCursor
    modify fun s => { s with logCursor := svc.journal.size }
    return .ok (.arr ((svc.journal.toList.drop cursor).map recordJson))
  | "log_has" =>
    if !svc.settings.recordLogs then return .error "log_has needs config.recordLogs"
    match Log.Level.ofName? (Json.text step "level") with
    | some level => return .ok (.bool (Log.has svc.journal level (Json.text step "msg")))
    | none => return .ok (.bool false)
  | "start" =>
    let r ← onService (start : SvcM m _)
    return .ok (.obj [("result", faultOr r fun _ => okJson), ("status", .str (← service).phase.name)])
  | "stop" =>
    onService (stop : SvcM m Unit)
    return .ok (.obj [("status", .str (← service).phase.name), ("shutdown", .bool true)])
  | "set_running" =>
    let phase : Phase := if Json.flag step "running" then .running else .init
    modify fun s => { s with svc := { s.svc with phase } }
    return .ok okJson
  | "repl" =>
    let input := Json.text step "input"
    if (← get).settleEachStep && commandAfterBundle input then
      return .error "console input must not run another command after bundle"
    return .ok (.str (Ulid.mask (← onService (session b input))))
  | "attach_repl" =>
    let input := Json.text step "input"
    if !hasExitLine input then return .error "attach_repl input must contain an exit line"
    if (← get).settleEachStep && commandAfterBundle input then
      return .error "console input must not run another command after bundle"
    let path := match step.get? "socket" with
      | some (.str p) => p
      | _ => svc.settings.config.socketPath
    if svc.replOpen && !path.isEmpty && path == svc.settings.config.socketPath then
      return .ok (.obj [("output", .str (Ulid.mask (← onService (session b input))))])
    return .ok (.obj [("output", .str ""), ("error", faultJson (.plain (dialError path)))])
  | "status_cmd" =>
    let fetch := fun (path : String) => do
      let r ← onService (serve b { method := "GET", target := path })
      return (.ok { status := r.status, body := r.body.render
                    contentType := match r.body with
                      | .json _ => "application/json"
                      | .text _ => "text/plain; charset=UTF-8" } : Except String Client.Reply)
    return .ok (reportJson (← Client.report fetch))
  | "gather" => return .ok (.arr ((Metrics.samples (metricFamilies svc)).map .str))
  | "http" => return .ok (responseJson (← onService (serve b (requestOf step))))
  | "set_env" | "set_node" =>
    let patch := (step.get? (if Json.text step "do" == "set_env" then "env" else "node")).getD (.obj [])
    match ← (h.patch patch : m _) with
    | .ok () => return .ok okJson
    | .error e => return .error e
  | other => return .error ("unknown scenario step " ++ Quote.quote other)

def runSteps (h : Host m) : List Json → SimM m (Except String (List Json))
  | [] => return .ok []
  | step :: rest => do
    let events := (← service).events.size
    match ← runStep h step with
    | .error e => return .error e
    | .ok result =>
      if (← get).settleEachStep then onService (concludeInflight h.backend)
      let svc ← service
      let metrics := (svc.events.toList.drop events).map fun x => Json.str x.label
      let extra ← (h.drain : m _)
      let record := Json.obj ([("result", result), ("pool", poolLines svc.pool), ("rep", repLines svc.rep)] ++
        (if metrics.isEmpty then [] else [("metrics", .arr metrics)]) ++ extra)
      match ← runSteps h rest with
      | .ok more => return .ok (record :: more)
      | .error e => return .error e

end

end Erc4337.Sim
