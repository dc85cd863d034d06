import Erc4337.Json.Fields
import Erc4337.Rpc.Fault
/-!
Errors written as JSON objects, the way a node's JSON-RPC error arrives: a `message`, an
optional numeric `code`, and `data` as a JSON value or, under `dataBytes`, as hex bytes. A
`wrap` member puts a prefix in front of the message, as an error wrapped on its way up.
-/
namespace Erc4337.Fault

def ofSpec (spec : Json) : Except String Fault := do
  let base : Fault := { message := Json.text spec "message", code := Json.int? ((spec.get? "code").getD .null) }
  let base ← match spec.get? "dataBytes", spec.get? "data" with
    | some b, _ => pure { base with data := some (.raw ((← Json.bytes? b).getD [])) }
    | none, some d => pure { base with data := some (.json d) }
    | none, none => pure base
  pure (match spec.get? "wrap" with
    | some (.str w) => base.wrap w
    | _ => base)

end Erc4337.Fault
