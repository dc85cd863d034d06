import Erc4337.Sim.Scenario
/-!
Running a scenario against scripted collaborators: the service is built from the scenario's
settings, the script from its environment document, and every step's report also lists the
transactions the transport was given during the step.
-/
namespace Erc4337.Sim
open Service

def sentJson (s : Sent) : Json :=
  .obj ([("raw", .str (HexCodec.ofBytes s.raw)), ("conditional", .bool s.known.isSome)] ++
    match s.known with
    | some m => [("knownAccounts", m.toJson)]
    | none => [])

def scriptedHost (signer : Address) (hasher : HasherMode) : Host ScriptM where
  backend := backend signer hasher
  chainId := return (← get).chain.chainId
  patch j := do
    match (← get).patch j with
    | .ok s =>
      set s
      return .ok ()
    | .error e => return .error e
  drain := do
    let s ← get
    set { s with sent := #[], cancelled := false }
    return if s.sent.isEmpty then [] else [("sent", .arr (s.sent.toList.map sentJson))]

def runScripted (req : Json) : Except String Json := do
  let setup ← setupOf ((req.get? "config").getD (.obj []))
  let script ← ({} : Script).patch ((req.get? "env").getD (.obj []))
  if !setup.settleEachStep && !script.chain.receipts.isEmpty then
    throw "receipts need config.inclusionTimeoutMs > 0"
  let running := match req.get? "config" with
    | some c => Json.flag c "running"
    | none => false
  let svc := Service.create setup.settings
  let svc := if running then { svc with phase := .running } else svc
  let host := scriptedHost (signerAddress script.signer) script.hasher
  let ((r, _), _) := ((runSteps host (Json.items req "steps")).run { svc, settleEachStep := setup.settleEachStep }).run script
  pure (.obj [("steps", .arr (← r))])

end Erc4337.Sim
