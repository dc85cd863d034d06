import Erc4337.Rpc.Error
/-!
Faults: what an operation of the bundler reports when it fails. A fault has its full text,
wrapping prefixes included, and keeps what the callers may look for behind the text: the
ERC-4337 error it carries, the JSON-RPC code and data a node attached, and its kind: a plain
error, a field rule violation, or a failed run-time check. Wrapping a fault puts a prefix on the text and keeps the rest.
-/
namespace Erc4337

inductive FaultData where
  | json (v : Json)
  | raw (b : List UInt8)
  deriving Inhabited

inductive FaultKind where
  | error
  | rules
  | panic
  deriving DecidableEq, Inhabited

def FaultKind.name : FaultKind → String
  | .error => "Error"
  | .rules => "ValidationError"
  | .panic => "Panic"

structure Fault where
  message : String
  rpc : Option RpcError := none
  code : Option Int := none
  data : Option FaultData := none
  kind : FaultKind := .error
  deriving Inhabited

namespace Fault

def plain (message : String) : Fault := { message }

def ofRpc (e : RpcError) : Fault :=
  { message := e.message, rpc := some e, code := some e.code, data := some (.json (.obj e.data)) }

def wrap (pfx : String) (f : Fault) : Fault := { f with message := pfx ++ ": " ++ f.message }

def rpcCode (f : Fault) : Int := (f.rpc.map (·.code)).getD RpcError.internalError

def hasCode (f : Fault) (c : Int) : Bool := f.rpc.any (·.code == c)

def dataText : Json → String
  | .str s => s
  | .num l => l
  | .null => "<nil>"
  | .bool b => if b then "true" else "false"
  | j => j.plain

def report (f : Fault) : Json :=
  match f.rpc with
  | some e =>
    .obj ([("error", .str "RpcError"), ("message", .str f.message), ("code", Json.int e.code),
      ("codeName", .str (RpcError.codeName e.code))] ++
      if e.data.isEmpty then []
      else [("data", .obj (e.sortedData.map fun (k, v) => (k, .str (dataText v))))])
  | none =>
    .obj [("error", .str f.kind.name), ("message", .str f.message)]

end Fault

end Erc4337
