import Erc4337.Validation.Result
import Erc4337.UserOp.Wire
import Erc4337.Rpc.Fault
import Erc4337.Json.Fields
/-!
Validation by a remote simulation service over JSON-RPC: the operation goes out in its wire
form with the entry point, whether stake checks are skipped, and the contracts its first
validation touched. The answer is read as the service's JSON-RPC response: an error it reports
keeps its code; an HTTP failure status, an unreadable body or an unreachable service is a
simulation failure; a response with neither result nor error is an error of its own.

Reading the response follows the rules of typed JSON decoding: members match fields without
regard to case, a value of the wrong kind for a plain field is remembered (with the path of
the field) while decoding goes on, and a hex value that does not read stops decoding at once.
-/
namespace Erc4337.Validation
open Reputation

def validateMethod : String := "debug_bundler_validateUserOperation"

def request (op : UserOperation) (entryPoint : Address) (skipStakeChecks : Bool)
    (referenced : Option Referenced) : Json :=
  .obj [("jsonrpc", .str "2.0"), ("id", .num "1"), ("method", .str validateMethod),
    ("params", .arr [op.toWireJson, .str entryPoint.checksum, .bool skipStakeChecks,
      (referenced.map (·.toJson)).getD .null])]

abbrev Dec := StateT (Option String) (Except String)

def eachMember {α : Type} (init : α) (ms : List (String × Json)) (f : α → String × Json → Dec α) : Dec α :=
  ms.foldlM f init

def keep (e : String) : Dec Unit := modify fun s => if s.isSome then s else some e

def fieldMismatch (found structName : String) (path : List String) (typeName : String) : String :=
  "json: cannot unmarshal " ++ found ++ " into Go struct field " ++ structName ++ "." ++
    ".".intercalate path ++ " of type " ++ typeName

def stopWith {α : Type} (e : Json.DecodeError) : Dec α := throw e.message

def bigField (v : Json) : Dec Int :=
  match v with
  | .null => pure 0
  | .str s => match HexCodec.quantity s with
    | .ok n => pure n
    | .error e => stopWith (.hex e "*hexutil.Big")
  | _ => stopWith (.mismatch "non-string" "*hexutil.Big")

def u64Field (v : Json) : Dec Nat :=
  match v with
  | .str s => match HexCodec.quantity64 s with
    | .ok n => pure n
    | .error e => stopWith (.hex e "hexutil.Uint64")
  | _ => stopWith (.mismatch "non-string" "hexutil.Uint64")

def fixedField (typeName : String) (width : Nat) (v : Json) : Dec (List UInt8) :=
  match Json.hexString typeName (HexCodec.fixed typeName width) v with
  | .ok b => pure b
  | .error e => stopWith e

def returnInfoType : String :=
  "struct \x7b PreOpGas *hexutil.Big \"json:\\\"preOpGas\\\"\"; Prefund *hexutil.Big \"json:\\\"prefund\\\"\"; " ++
  "SigFailed bool \"json:\\\"sigFailed\\\"\"; ValidAfter hexutil.Uint64 \"json:\\\"validAfter\\\"\"; " ++
  "ValidUntil hexutil.Uint64 \"json:\\\"validUntil\\\"\" \x7d"

def decodeReturnInfo (r : ReturnInfo) : Json → Dec ReturnInfo
  | .null => pure r
  | .obj ms => eachMember r ms fun r (k, x) =>
    match Json.matchField ["preOpGas", "prefund", "sigFailed", "validAfter", "validUntil"] k with
    | some "preOpGas" => return { r with preOpGas := ← bigField x }
    | some "prefund" => return { r with prefund := ← bigField x }
    | some "sigFailed" => match x with
      | .bool b => pure { r with sigFailed := b }
      | .null => pure r
      | other => do
        keep (fieldMismatch other.kind "" ["result", "returnInfo", "sigFailed"] "bool")
        pure r
    | some "validAfter" => return { r with validAfter := ← u64Field x }
    | some "validUntil" => return { r with validUntil := ← u64Field x }
    | _ => pure r
  | other => do
    keep (fieldMismatch other.kind "resultWire" ["result", "returnInfo"] returnInfoType)
    pure r

def decodeStake (s : StakeInfo) : List (String × Json) → Dec StakeInfo
  | ms => eachMember s ms fun s (k, x) =>
    match Json.matchField ["addr", "stake", "unstakeDelaySec"] k with
    | some "addr" => return { s with addr := Address.ofBytes (← fixedField "common.Address" 20 x) }
    | some "stake" => return { s with stake := some (← bigField x) }
    | some "unstakeDelaySec" => return { s with unstakeDelaySec := (← u64Field x).toUInt64 }
    | _ => pure s

def zeroStake : StakeInfo := { stake := some 0 }

def decodeStakeOption (field : String) (cur : Option StakeInfo) : Json → Dec (Option StakeInfo)
  | .null => pure none
  | .obj ms => some <$> decodeStake (cur.getD zeroStake) ms
  | other => do
    keep (fieldMismatch other.kind "resultWire" ["result", field] "validation.stakeInfoWire")
    pure (some (cur.getD zeroStake))

def decodeReferenced (r : Referenced) : Json → Dec Referenced
  | .null => pure r
  | .obj ms => eachMember r ms fun r (k, x) =>
    match Json.matchField ["addresses", "hash"] k with
    | some "addresses" => match x with
      | .null => pure { r with addresses := [] }
      | .arr xs => return { r with addresses := ← xs.mapM fun a => Address.ofBytes <$> fixedField "common.Address" 20 a }
      | other => do
        keep (fieldMismatch other.kind "ReferencedCodeHashes" ["result", "referencedContracts", "addresses"] "[]common.Address")
        pure r
    | some "hash" => return { r with hash := Hash.ofBytes (← fixedField "common.Hash" 32 x) }
    | _ => pure r
  | other => do
    keep (fieldMismatch other.kind "resultWire" ["result", "referencedContracts"] "validation.ReferencedCodeHashes")
    pure r

def decodeResult (res : Result) : List (String × Json) → Dec Result
  | ms => eachMember res ms fun res (k, x) =>
    match Json.matchField ["returnInfo", "senderInfo", "factoryInfo", "paymasterInfo", "aggregatorInfo",
        "referencedContracts", "storageMap"] k with
    | some "returnInfo" => return { res with returnInfo := ← decodeReturnInfo res.returnInfo x }
    | some "senderInfo" => match x with
      | .null => pure res
      | .obj ms => return { res with senderInfo := ← decodeStake res.senderInfo ms }
      | other => do
        keep (fieldMismatch other.kind "resultWire" ["result", "senderInfo"] "validation.stakeInfoWire")
        pure res
    | some "factoryInfo" => return { res with factoryInfo := ← decodeStakeOption "factoryInfo" res.factoryInfo x }
    | some "paymasterInfo" => return { res with paymasterInfo := ← decodeStakeOption "paymasterInfo" res.paymasterInfo x }
    | some "aggregatorInfo" => return { res with aggregatorInfo := ← decodeStakeOption "aggregatorInfo" res.aggregatorInfo x }
    | some "referencedContracts" => return { res with referenced := ← decodeReferenced res.referenced x }
    | some "storageMap" => match x with
      | .null => pure { res with storageMap := .empty }
      | .obj _ => match StorageMap.ofJson x with
        | .ok m => pure { res with storageMap := m.getD .empty }
        | .error e => throw e
      | other => do
        keep (fieldMismatch other.kind "resultWire" ["result", "storageMap"] "validation.StorageMap")
        pure res
    | _ => pure res

def codeOf (lit : String) : Option Int :=
  match Json.intOfText? lit with
  | some n => if (lit.toList.all fun c => c.isDigit || c == '-') && -(2 ^ 63) ≤ n && n < 2 ^ 63 then some n else none
  | none => none

def decodeError (e : RpcError) : List (String × Json) → Dec RpcError
  | ms => eachMember e ms fun e (k, x) =>
    match Json.matchField ["code", "message", "data"] k with
    | some "code" => match x with
      | .num lit => match codeOf lit with
        | some c => pure { e with code := c }
        | none => do
          keep (fieldMismatch ("number " ++ lit) "Error" ["error", "code"] "rpcerr.Code")
          pure e
      | .null => pure e
      | other => do
        keep (fieldMismatch other.kind "Error" ["error", "code"] "rpcerr.Code")
        pure e
    | some "message" => match x with
      | .str s => pure { e with message := s }
      | .null => pure e
      | other => do
        keep (fieldMismatch other.kind "Error" ["error", "message"] "string")
        pure e
    | some "data" => match x with
      | .obj ds => pure { e with data := ds.foldl (fun acc (dk, dv) => (dk, dv) :: acc.filter (·.1 != dk)) [] |>.reverse }
      | .null => pure { e with data := [] }
      | other => do
        keep (fieldMismatch other.kind "Error" ["error", "data"] "map[string]interface \x7b\x7d")
        pure e
    | _ => pure e

def decodeResponse (j : Json) : Dec (Option Result × Option RpcError) :=
  match j with
  | .null => pure (none, none)
  | .obj ms => eachMember (none, none) ms fun (res, err) (k, x) =>
    match Json.matchField ["result", "error"] k with
    | some "result" => match x with
      | .null => pure (none, err)
      | .obj rs => return (some (← decodeResult (res.getD {}) rs), err)
      | other => do
        keep (fieldMismatch other.kind "rpcResponse" ["result"] "validation.resultWire")
        pure (some (res.getD {}), err)
    | some "error" => match x with
      | .null => pure (res, none)
      | .obj es => return (res, some (← decodeError (err.getD ⟨0, "", []⟩) es))
      | other => do
        keep (fieldMismatch other.kind "rpcResponse" ["error"] "rpcerr.Error")
        pure (res, some (err.getD ⟨0, "", []⟩))
    | _ => pure (res, err)
  | other => do
    keep ("json: cannot unmarshal " ++ other.kind ++ " into Go value of type validation.rpcResponse")
    pure (none, none)

def parseResponse (body : String) : Except String (Option Result × Option RpcError) := do
  let j ← (Json.parseDoc body).mapError (·.message)
  match (decodeResponse j).run none with
  | .ok (_, some e) => throw e
  | .ok (r, none) => pure r
  | .error e => throw e

structure Reply where
  status : Nat := 200
  body : String := ""
  contentType : String := "application/json"
  deriving Inhabited

def isJsonType (ct : String) : Bool :=
  let cs := ct.toList.map Char.toLower
  let ends := fun (r : List Char) => r.isEmpty || "; ".toList.isPrefixOf r
  let subtype := fun (r : List Char) =>
    ("json".toList.isPrefixOf r && ends (r.drop 4)) || "json-".toList.isPrefixOf r ||
    (List.range r.length).any fun i => "+json".toList.isPrefixOf (r.drop i) && ends (r.drop (i + 5))
  (List.range cs.length).any fun i =>
    let r := cs.drop i
    ("application/".toList.isPrefixOf r && subtype (r.drop 12)) || ("text/".toList.isPrefixOf r && subtype (r.drop 5))

def simulationFault (msg : String) : Fault := .ofRpc ⟨RpcError.simulateValidation, msg, []⟩

def outcome (reply : Reply) : Except Fault Result := do
  if reply.status > 399 then
    throw (simulationFault ("validation service returned " ++ toString reply.status ++ ": " ++ reply.body))
  let (res, err) ←
    if reply.status ≠ 204 && 199 < reply.status && reply.status < 300 && isJsonType reply.contentType then
      (parseResponse reply.body).mapError fun e => simulationFault ("validation service unreachable: " ++ e)
    else pure (none, none)
  match err, res with
  | some e, _ => throw (.ofRpc e)
  | none, none => throw (.plain "validation service returned neither result nor error")
  | none, some r => pure r

end Erc4337.Validation
