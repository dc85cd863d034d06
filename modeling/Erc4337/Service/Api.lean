import Erc4337.Service.Lifecycle
import Erc4337.Service.Debug
import Erc4337.Http.Bind
/-!
The service's HTTP surface.

`GET /up` answers `up` while the service runs and `pending...` otherwise; `GET /version` gives
the version and commit; `GET /metrics` (only when a registry is kept) gives the text
exposition. `POST /userop` admits an operation in wire form and answers its hash; `POST
/bundle` sends a bundle, every pending entry when `drain` is true, and tracks it. Under
`/debug` the pool and the reputation can be read and cleared, and reputation counters can be
overwritten. Successful answers are a document with one member, `data`.

A failure answers the ERC-4337 error it carries, or an internal error with its text: status
500 for an internal error and 400 otherwise. An unknown path is not found; a known path asked
with another method is not allowed, except that `OPTIONS` is answered with no content; a `HEAD`
request gets no body.
-/
namespace Erc4337.Service
open Http

inductive Route where
  | up
  | version
  | metrics
  | userop
  | bundle
  | mempool
  | overloaded
  | reputation
  deriving DecidableEq

namespace Route

def ofPath (path : String) (registry : Bool) : Option Route :=
  match path with
  | "/up" => some .up
  | "/version" => some .version
  | "/metrics" => if registry then some .metrics else none
  | "/userop" => some .userop
  | "/bundle" => some .bundle
  | "/debug/mempool" => some .mempool
  | "/debug/mempool/overloaded" => some .overloaded
  | "/debug/reputation" => some .reputation
  | _ => none

def methods : Route → List String
  | .up | .version | .metrics | .overloaded => ["GET"]
  | .userop | .bundle => ["POST"]
  | .mempool => ["GET", "DELETE"]
  | .reputation => ["GET", "POST", "DELETE"]

end Route

def dataResponse (j : Json) : Response := { status := 200, body := .json (.obj [("data", j)]) }

def faultResponse (f : Fault) : Response :=
  let e := f.rpc.getD ⟨RpcError.internalError, f.message, []⟩
  { status := if e.code == RpcError.internalError then 500 else 400
    body := .json (.obj [("error", e.toJson)]) }

def invalidFields (message : String) : Fault := .ofRpc ⟨RpcError.invalidFields, message, []⟩

def statusResponse (method : String) (status : Nat) (message : String) : Response :=
  if method == "HEAD" then { status, body := .text "" }
  else { status, body := .json (.obj [("message", .str message)]) }

def referencedDoc (r : Validation.Referenced) : Json :=
  .obj [("addresses", if r.addresses.isEmpty then .null else .arr (r.addresses.map (.str ·.lower))),
    ("hash", .str r.hash.hex)]

def entryDoc (e : Mempool.Entry) : Json :=
  .obj ([("userOp", e.op.toWireJson), ("userOpHash", .str e.hash.hex), ("prefund", Json.int e.prefund)] ++
    (match e.referenced with
     | some r => [("referencedContracts", referencedDoc r)]
     | none => []) ++
    [("status", .str e.status.name), ("aggregator", .str e.aggregator.lower)])

def reputationDoc (a : Address) (c : Reputation.Counters) (s : Reputation.Status) : Json :=
  .obj [("address", .str a.lower), ("opsSeen", Json.nat c.opsSeen.toNat),
    ("opsIncluded", Json.nat c.opsIncluded.toNat), ("status", .str s.name)]

def submissionDoc (s : Submission) : Json :=
  .obj ((if s.bundleId.isEmpty then [] else [("bundleId", .str s.bundleId)]) ++
    [("transactionHash", .str s.txHash.hex),
     ("userOpHashes", if s.opHashes.isEmpty then .null else .arr (s.opHashes.map (.str ·.hex)))])

def statusCounts (r : Reputation.Tracker) : List (String × Nat) :=
  let statuses := r.dump.map fun (_, _, s) => s
  [("banned", (statuses.filter (· = .banned)).length), ("ok", (statuses.filter (· = .ok)).length),
   ("throttled", (statuses.filter (· = .throttled)).length)]

def metricFamilies (s : Service) : List Metrics.Family :=
  s.registry.families s.settings.config.entryPoint s.pool.size (statusCounts s.rep)

section
variable {m : Type → Type} [Monad m]

def sendUserOp (b : Backend m) (r : Request) : SvcM m Response := do
  match bindWire r with
  | .error e => return faultResponse (invalidFields ("cannot decode userop: " ++ e.message))
  | .ok w =>
    match w.toUserOperation with
    | .error e => return faultResponse (invalidFields e.message)
    | .ok op =>
      match ← admitOperation b op with
      | .error f => return faultResponse f
      | .ok h => return dataResponse (.str h.hex)

def sendBundle (b : Backend m) (r : Request) : SvcM m Response := do
  let flag := r.queryParam "drain"
  match (if flag.isEmpty then some false else parseBool? flag) with
  | none => return faultResponse (invalidFields ("invalid drain flag " ++ Quote.quote flag))
  | some drain =>
    match ← (sendNextBundle b drain).run with
    | .error f => return faultResponse (.ofRpc ⟨RpcError.internalError, f.message, []⟩)
    | .ok sub => return dataResponse (submissionDoc sub)

def overwriteReputation (r : Request) : SvcM m Response := do
  match bindObjects r with
  | .error e => return faultResponse (invalidFields ("cannot decode reputation entries: " ++ e.message))
  | .ok raw =>
    match ← (setReputation raw : SvcM m _) with
    | .error f => return faultResponse f
    | .ok () => return dataResponse (.str "ok")

def handle (b : Backend m) (r : Request) : Route → SvcM m Response
  | .up => do
    if (← get).phase == .running then return { status := 200, body := .text "up" }
    return { status := 503, body := .text "pending..." }
  | .version => return dataResponse (.obj [("commit", .str commit), ("version", .str version)])
  | .metrics => return { status := 200, body := .text (Metrics.exposition (metricFamilies (← get))) }
  | .userop => sendUserOp b r
  | .bundle => sendBundle b r
  | .mempool => do
    if r.method == "DELETE" then
      clearMempool
      return dataResponse (.str "ok")
    return dataResponse (.arr ((← get).pool.entries.map entryDoc))
  | .overloaded => return dataResponse (.bool (← get).pool.isOverloaded)
  | .reputation => do
    if r.method == "DELETE" then
      clearReputation
      return dataResponse (.str "ok")
    if r.method == "POST" then overwriteReputation r
    else return dataResponse (.arr ((← get).rep.dump.map fun (a, c, s) => reputationDoc a c s))

def serve (b : Backend m) (r : Request) : SvcM m Response := do
  match Route.ofPath r.path (← get).settings.registryOn with
  | none => return statusResponse r.method 404 "Not Found"
  | some route =>
    if route.methods.contains r.method then handle b r route
    else if r.method == "OPTIONS" then return { status := 204, body := .text "" }
    else return statusResponse r.method 405 "Method Not Allowed"

end

end Erc4337.Service
