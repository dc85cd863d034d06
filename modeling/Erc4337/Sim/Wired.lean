import Erc4337.Sim.Run
import Erc4337.Chain.Reader
import Erc4337.Chain.OpHasher
import Erc4337.Validation.Remote
import Erc4337.Service.Launch
/-!
Scenarios against a bundler built from its configuration file, as the service is built for
production: the node is asked for its chain id once, the signer holds the configured key, the
transport and the operation hashes go to the node, and validation goes to a remote service.
Both stand-ins live in memory: the node answers from its configuration and logs every method
called, and the validation service answers each sender with a JSON-RPC response document.

A configuration that does not load, or a node that cannot say its chain id, refuses the
scenario with that error. Metric events are not reported, and the steps that need a running
service, a scripted environment or a settled inclusion are refused.
-/
namespace Erc4337.Sim
open Service

structure Wiring where
  reader : Reader.Session
  hasher : OpHasher := {}
  key : Nat
  defaultAnswer : Json
  answers : List (Address × Json) := []
  deriving Inhabited

abbrev WiredM := StateT Wiring Node.NodeM

def acceptAnswer : Json :=
  .obj [("result", .obj [("returnInfo", .obj [("preOpGas", .str "0xc350"), ("prefund", .str "0x3e8")])])]

def onReader {α : Type} (act : Reader.ReaderM α) : WiredM α := do
  let w ← get
  let (a, reader) ← (act.run w.reader : Node.NodeM _)
  set { w with reader }
  return a

def remoteValidate (op : UserOperation) (_skip : Bool) (_seen : Option Validation.Referenced) :
    WiredM (Except Fault Validation.Result) := do
  let w ← get
  let answer := (w.answers.lookup op.sender).getD w.defaultAnswer
  return Validation.outcome { body := answer.plain }

def hashOps (helper : Address) (ops : List UserOperation) : WiredM (Except Fault (List Hash)) := do
  let w ← get
  let (hasher, r) ← (OpHasher.compute Reader.caller helper w.hasher 0 ops : Node.NodeM _)
  set { w with hasher }
  return r

def wiredBackend (key : Nat) : Backend WiredM where
  validate := remoteValidate
  cancelled := return false
  chainId := onReader Reader.chainId
  deposit a := onReader (Reader.deposit a)
  storageRoot a := onReader (Reader.storageRoot a)
  fee := onReader Reader.fee
  pendingNonce a := do return (← onReader (Reader.nonce a)).map Nat.toUInt64
  receipt h := Node.receipt h
  signerAddress := Signer.addressOf key
  signerBalance := onReader (Reader.balanceOf (Signer.addressOf key))
  sign tx := do
    let id := ((← get).reader.chainId).getD 0
    return (Signer.sign { key, chainId := id } tx).mapError Fault.plain
  send raw known := Node.sendRaw raw known
  opHashes := some hashOps

def wiredRefusal (step : Json) : Option String :=
  let what := Json.text step "do"
  let refused := ["start", "set_env", "attach_repl", "track", "auto_bundle"].contains what ||
    (what == "http" && ["/bundle", "/metrics"].contains (requestOf step).path)
  if refused then some ("step " ++ Quote.quote what ++ " is not available in wired scenarios") else none

def patchAnswers (w : Wiring) (j : Json) : Except String Wiring := do
  let w := match j.get? "default" with
    | some d => { w with defaultAnswer := d }
    | none => w
  let more ← addressMap ((j.get? "bySender").getD (.obj [])) pure
  pure { w with answers := more ++ w.answers.filter fun (a, _) => !(more.any (·.1 == a)) }

def patchNode (j : Json) : Node.NodeM (Except String Unit) := do
  let n ← get
  match n.config.patch j, Node.sendResponses (Json.items j "sendResponses") with
  | .ok config, .ok queued =>
    set { n with config, sendQueue := n.sendQueue ++ queued }
    return .ok ()
  | .error e, _ | _, .error e => return .error e

def wiredHost (key : Nat) : Host WiredM where
  backend := wiredBackend key
  chainId := return ((← get).reader.chainId).getD 0
  patch j := (patchNode j : Node.NodeM _)
  drain := do return [("node", .arr ((← (Node.takeCalls : Node.NodeM _)).map .str))]
  refuses := wiredRefusal

def runWired (req : Json) (wired : Json) : Except String Json := do
  let (patched, node) := (patchNode ((wired.get? "node").getD (.obj []))).run {}
  patched
  match Config.load "bundler.yaml" (some (Json.text wired "yaml")) with
  | .error f => return f.report
  | .ok config =>
    let ((r, reader), n) := (Reader.chainId.run { entryPoint := config.entryPoint }).run node
    match r with
    | .error e => return (e.wrap "cannot get chain id").report
    | .ok id =>
      let w ← patchAnswers { reader, key := config.signerKey, defaultAnswer := acceptAnswer }
        ((wired.get? "validator").getD (.obj []))
      let svc := Service.create { config, metricsOn := false, registryOn := true }
      let session : Session := { svc := { svc with chainId := some id } }
      let (((r, _), _), _) := ((runSteps (wiredHost config.signerKey) (Json.items req "steps")).run session).run w
        |>.run { n with calls := #[] }
      pure (.obj [("steps", .arr (← r))])

def nodeHost : String := "node.oracle"

def runLaunch (req : Json) : Except String Json := do
  let (patched, node) := (patchNode ((req.get? "node").getD (.obj []))).run {}
  patched
  let contents := match req.get? "yaml" with
    | some (.str y) => some y
    | _ => none
  let (r, n) := (launch (· == nodeHost) "bundler.yaml" contents).run node
  pure (.obj ([("calls", .arr (n.calls.toList.map .str))] ++ match r with
    | .ok () => [("ok", .bool true)]
    | .error f => [("error", f.report)]))

def runScenario (req : Json) : Except String Json :=
  match req.get? "wired" with
  | some w => runWired req w
  | none => runScripted req

end Erc4337.Sim
