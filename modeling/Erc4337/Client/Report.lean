import Erc4337.Json.Typed
import Erc4337.Eth.Address
import Erc4337.Eth.Hash
import Erc4337.Text.Blank
/-!
The status report of a running bundler, built from four queries of its HTTP surface: `/up`,
`/version`, `/debug/mempool` and `/debug/reputation`.

The report has a title, then the service line with the text `/up` answered, whatever its
status. A version line follows when `/version` answered at all; its fields are empty unless the
answer was a success with a JSON body, and a body that does not read leaves the line out. Then
the pool: its size, how many entries are pending and how many are not, and the first ten
entries; then the reputation: its size and every entity whose status is not `ok`. A pool or
reputation query that gets no answer, a failure status or a body that does not read ends the
report with an error, after what was written so far.

A body is read only for a success status and a JSON (or XML) media type; otherwise the reader
keeps its empty value.
-/
namespace Erc4337.Client

structure Reply where
  status : Nat
  contentType : String
  body : String
  deriving Inhabited

def reasonPhrase (code : Nat) : String :=
  match code with
  | 100 => "Continue" | 101 => "Switching Protocols" | 102 => "Processing" | 103 => "Early Hints"
  | 200 => "OK" | 201 => "Created" | 202 => "Accepted" | 203 => "Non-Authoritative Information"
  | 204 => "No Content" | 205 => "Reset Content" | 206 => "Partial Content" | 207 => "Multi-Status"
  | 208 => "Already Reported" | 226 => "IM Used"
  | 300 => "Multiple Choices" | 301 => "Moved Permanently" | 302 => "Found" | 303 => "See Other"
  | 304 => "Not Modified" | 305 => "Use Proxy" | 307 => "Temporary Redirect"
  | 308 => "Permanent Redirect"
  | 400 => "Bad Request" | 401 => "Unauthorized" | 402 => "Payment Required" | 403 => "Forbidden"
  | 404 => "Not Found" | 405 => "Method Not Allowed" | 406 => "Not Acceptable"
  | 407 => "Proxy Authentication Required" | 408 => "Request Timeout" | 409 => "Conflict"
  | 410 => "Gone" | 411 => "Length Required" | 412 => "Precondition Failed"
  | 413 => "Request Entity Too Large" | 414 => "Request URI Too Long"
  | 415 => "Unsupported Media Type" | 416 => "Requested Range Not Satisfiable"
  | 417 => "Expectation Failed" | 418 => "I\x27m a teapot" | 421 => "Misdirected Request"
  | 422 => "Unprocessable Entity" | 423 => "Locked" | 424 => "Failed Dependency"
  | 425 => "Too Early" | 426 => "Upgrade Required" | 428 => "Precondition Required"
  | 429 => "Too Many Requests" | 431 => "Request Header Fields Too Large"
  | 451 => "Unavailable For Legal Reasons"
  | 500 => "Internal Server Error" | 501 => "Not Implemented" | 502 => "Bad Gateway"
  | 503 => "Service Unavailable" | 504 => "Gateway Timeout" | 505 => "HTTP Version Not Supported"
  | 506 => "Variant Also Negotiates" | 507 => "Insufficient Storage" | 508 => "Loop Detected"
  | 510 => "Not Extended" | 511 => "Network Authentication Required"
  | _ => ""

def Reply.statusLine (r : Reply) : String :=
  let digits := toString r.status
  String.ofList (List.replicate (3 - digits.length) '0') ++ digits ++ " " ++ reasonPhrase r.status

def mediaMentions (kind contentType : String) : Bool :=
  let ct := contentType.toLower
  let after (pfx : String) := (ct.splitOn pfx).drop 1
  (after "application/" ++ after "text/").any fun rest => (rest.splitOn kind).length > 1

def Reply.read {α : Type} (r : Reply) (decode : String → Except String α) : Except String (Option α) :=
  let success := 200 ≤ r.status && r.status < 300
  if r.status == 204 || !success then .ok none
  else if mediaMentions "json" r.contentType then some <$> decode r.body
  else if mediaMentions "xml" r.contentType then
    if r.body.contains '<' then .ok none else .error "EOF"
  else .ok none

structure PoolLine where
  hash : Hash := .zero
  status : String := ""
  sender : Address := .zero

structure EntityLine where
  address : Address := .zero
  opsSeen : Nat := 0
  opsIncluded : Nat := 0
  status : String := ""

open Json

def versionType : String := "cmd.dataResp[map[string]string]"

def poolType : String := "cmd.dataResp[[]github.com/AvaProtocol/ap-bundler/cmd.mempoolItem]"

def entityType : String := "cmd.dataResp[[]github.com/AvaProtocol/ap-bundler/cmd.reputationItem]"

def recordName (type : String) : String := String.ofList (type.toList.drop 4)

def versionMap (cur : List (String × String)) : Json → Typed (List (String × String))
  | .obj ms => ms.foldlM (fun acc (k, v) => do
      let s ← textAt ⟨recordName versionType, ["data"]⟩ "" v
      pure ((acc.filter (·.1 != k)) ++ [(k, s)])) cur
  | .null => pure []
  | v => do
    remember (Place.typeError ⟨recordName versionType, ["data"]⟩ v.kind "map[string]string")
    pure cur

def readVersion : String → Except String (List (String × String)) :=
  recordDoc versionType ["data"] [] fun cur (_, v) => versionMap cur v

def senderType : String := "struct \x7b Sender common.Address \"json:\\\"sender\\\"\" \x7d"

def poolLine (v : Json) : Typed PoolLine :=
  let place := fun (m : String) => (⟨"mempoolItem", ["data", m]⟩ : Place)
  match v with
  | .obj ms =>
    (fieldsOf ["userOpHash", "status", "userOp"] ms).foldlM (fun (l : PoolLine) (f, x) =>
      match f with
      | "userOpHash" => do pure { l with hash := Hash.ofBytes (← fixedAt "common.Hash" 32 x) }
      | "status" => do pure { l with status := ← textAt (place "status") l.status x }
      | _ =>
        match x with
        | .obj inner =>
          (fieldsOf ["sender"] inner).foldlM (fun (l : PoolLine) (_, s) => do
            pure { l with sender := Address.ofBytes (← fixedAt "common.Address" 20 s) }) l
        | .null => pure l
        | other => do
          remember ((place "userOp").typeError other.kind senderType)
          pure l) {}
  | .null => pure {}
  | other => do
    remember (Place.typeError ⟨recordName poolType, ["data"]⟩ other.kind "cmd.mempoolItem")
    pure {}

def entityLine (v : Json) : Typed EntityLine :=
  let place := fun (m : String) => (⟨"reputationItem", ["data", m]⟩ : Place)
  match v with
  | .obj ms =>
    (fieldsOf ["address", "opsSeen", "opsIncluded", "status"] ms).foldlM (fun (l : EntityLine) (f, x) =>
      match f with
      | "address" => do pure { l with address := Address.ofBytes (← fixedAt "common.Address" 20 x) }
      | "opsSeen" => do pure { l with opsSeen := ← counterAt (place "opsSeen") l.opsSeen x }
      | "opsIncluded" => do pure { l with opsIncluded := ← counterAt (place "opsIncluded") l.opsIncluded x }
      | _ => do pure { l with status := ← textAt (place "status") l.status x }) {}
  | .null => pure {}
  | other => do
    remember (Place.typeError ⟨recordName entityType, ["data"]⟩ other.kind "cmd.reputationItem")
    pure {}

def readPool : String → Except String (List PoolLine) :=
  recordDoc poolType ["data"] [] fun cur (_, v) =>
    listAt ⟨recordName poolType, ["data"]⟩ "[]cmd.mempoolItem" poolLine cur v

def readEntities : String → Except String (List EntityLine) :=
  recordDoc entityType ["data"] [] fun cur (_, v) =>
    listAt ⟨recordName entityType, ["data"]⟩ "[]cmd.reputationItem" entityLine cur v

def title : String := "📊 Bundler Status Report\n========================\n\n"

def poolSection (items : List PoolLine) : String :=
  let pending := (items.filter (·.status == "pending")).length
  let shown := (items.take 10).zipIdx.map fun (item, i) =>
    "   " ++ toString (i + 1) ++ ". " ++ item.hash.hex ++ " sender=" ++ item.sender.checksum ++ " " ++
      item.status ++ "\n"
  "\n💾 Mempool: " ++ toString items.length ++ " operations (" ++ toString pending ++ " pending, " ++
    toString (items.length - pending) ++ " bundling)\n" ++ String.join shown ++
    (if items.length > 10 then "   ... and " ++ toString (items.length - 10) ++ " more\n" else "")

def entitySection (items : List EntityLine) : String :=
  "\n📋 Reputation: " ++ toString items.length ++ " entities\n" ++
    String.join ((items.filter (·.status != "ok")).map fun e =>
      "   " ++ e.address.checksum ++ " " ++ e.status ++ " seen=" ++ toString e.opsSeen ++
        " included=" ++ toString e.opsIncluded ++ "\n")

def sectionData {α : Type} (what : String) (reply : Except String Reply)
    (decode : String → Except String (List α)) : Except String (List α) :=
  match reply with
  | .error e => .error ("failed to query " ++ what ++ ": " ++ e)
  | .ok r =>
    if r.status > 399 then .error ("failed to query " ++ what ++ ": " ++ r.statusLine)
    else
      match r.read decode with
      | .error e => .error ("failed to query " ++ what ++ ": " ++ e)
      | .ok v => .ok (v.getD [])

def report {m : Type → Type} [Monad m] (fetch : String → m (Except String Reply)) :
    m (String × Option String) := do
  match ← fetch "/up" with
  | .error e => return (title, some ("cannot reach bundler: " ++ e))
  | .ok up =>
    let out := title ++ "Service: " ++ Blank.trim up.body ++ "\n"
    let out := match ← fetch "/version" with
      | .ok r =>
        match r.read readVersion with
        | .ok v =>
          let v := v.getD []
          out ++ "Version: " ++ (v.lookup "version").getD "" ++ " (" ++ (v.lookup "commit").getD "" ++ ")\n"
        | .error _ => out
      | .error _ => out
    match sectionData "mempool" (← fetch "/debug/mempool") readPool with
    | .error e => return (out, some e)
    | .ok items =>
      let out := out ++ poolSection items
      match sectionData "reputation" (← fetch "/debug/reputation") readEntities with
      | .error e => return (out, some e)
      | .ok items => return (out ++ entitySection items, none)

end Erc4337.Client
