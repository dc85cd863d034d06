import Erc4337.UserOp.Basic
import Erc4337.Json.Decode
import Erc4337.Text.FieldError
/-!
The JSON-RPC form of a user operation: numbers as hex quantities, byte strings as hex data,
factory and paymaster folded into `initCode` and `paymasterAndData`. Writing prints absent
numbers as `0x0` and the sender in lowercase. Reading takes the members in document order, the
last of a repeated field winning; it then requires the sender, the nonce and the five gas
fields, and refuses an `initCode` or `paymasterAndData` that is not empty but shorter than an
address.
-/
namespace Erc4337

structure Wire where
  sender : Option Address := none
  nonce : Option Nat := none
  initCode : Option (List UInt8) := none
  callData : Option (List UInt8) := none
  callGasLimit : Option Nat := none
  verificationGasLimit : Option Nat := none
  preVerificationGas : Option Nat := none
  maxFeePerGas : Option Nat := none
  maxPriorityFeePerGas : Option Nat := none
  paymasterAndData : Option (List UInt8) := none
  signature : Option (List UInt8) := none

inductive WireError where
  | json (e : Json.DecodeError)
  | missing (fields : List String)
  | shortInitCode
  | shortPaymasterAndData
  deriving Inhabited

namespace WireError

def message : WireError → String
  | .json e => e.message
  | .missing fs =>
    "invalid user operation: " ++
      FieldError.listMessage (fs.map fun f => ⟨"Wire." ++ f, f, "required"⟩)
  | .shortInitCode => "invalid user operation: initCode shorter than an address"
  | .shortPaymasterAndData => "invalid user operation: paymasterAndData shorter than an address"

def isInvalidOperation : WireError → Bool
  | .json _ => false
  | _ => true

end WireError

namespace Wire

def fieldNames : List String :=
  ["sender", "nonce", "initCode", "callData", "callGasLimit", "verificationGasLimit",
   "preVerificationGas", "maxFeePerGas", "maxPriorityFeePerGas", "paymasterAndData", "signature"]

def quantityField (v : Json) : Except Json.DecodeError (Option Nat) :=
  match v with
  | .null => .ok none
  | _ => some <$> Json.hexString "*hexutil.Big" HexCodec.quantity v

def dataField (v : Json) : Except Json.DecodeError (Option (List UInt8)) :=
  some <$> Json.hexString "hexutil.Bytes" HexCodec.data v

def addressField (v : Json) : Except Json.DecodeError (Option Address) :=
  match v with
  | .null => .ok none
  | _ => (some ∘ Address.ofBytes) <$> Json.hexString "common.Address" (HexCodec.fixed "common.Address" 20) v

def set (w : Wire) (field : String) (v : Json) : Except Json.DecodeError Wire :=
  match field with
  | "sender" => (fun x => { w with sender := x }) <$> addressField v
  | "nonce" => (fun x => { w with nonce := x }) <$> quantityField v
  | "initCode" => (fun x => { w with initCode := x }) <$> dataField v
  | "callData" => (fun x => { w with callData := x }) <$> dataField v
  | "callGasLimit" => (fun x => { w with callGasLimit := x }) <$> quantityField v
  | "verificationGasLimit" => (fun x => { w with verificationGasLimit := x }) <$> quantityField v
  | "preVerificationGas" => (fun x => { w with preVerificationGas := x }) <$> quantityField v
  | "maxFeePerGas" => (fun x => { w with maxFeePerGas := x }) <$> quantityField v
  | "maxPriorityFeePerGas" => (fun x => { w with maxPriorityFeePerGas := x }) <$> quantityField v
  | "paymasterAndData" => (fun x => { w with paymasterAndData := x }) <$> dataField v
  | "signature" => (fun x => { w with signature := x }) <$> dataField v
  | _ => .ok w

def ofJson (j : Json) : Except Json.DecodeError Wire :=
  match j with
  | .null => .ok {}
  | .obj members =>
    members.foldlM (fun w (k, v) =>
      match Json.matchField fieldNames k with
      | some f => set w f v
      | none => .ok w) {}
  | other => .error (.mismatch other.kind "userop.Wire")

def missing (w : Wire) : List String :=
  [("Sender", w.sender.isNone), ("Nonce", w.nonce.isNone), ("CallGasLimit", w.callGasLimit.isNone),
   ("VerificationGasLimit", w.verificationGasLimit.isNone),
   ("PreVerificationGas", w.preVerificationGas.isNone), ("MaxFeePerGas", w.maxFeePerGas.isNone),
   ("MaxPriorityFeePerGas", w.maxPriorityFeePerGas.isNone)].filterMap
    fun (n, absent) => if absent then some n else none

def toUserOperation (w : Wire) : Except WireError UserOperation := do
  let ms := w.missing
  if !ms.isEmpty then throw (.missing ms)
  let initCode := w.initCode.getD []
  let paymasterAndData := w.paymasterAndData.getD []
  if initCode.length > 0 ∧ initCode.length < 20 then throw .shortInitCode
  if paymasterAndData.length > 0 ∧ paymasterAndData.length < 20 then
    throw .shortPaymasterAndData
  let op : UserOperation :=
    { sender := w.sender.getD .zero, nonce := w.nonce.map Int.ofNat, callData := w.callData,
      callGasLimit := w.callGasLimit.map Int.ofNat,
      verificationGasLimit := w.verificationGasLimit.map Int.ofNat,
      preVerificationGas := w.preVerificationGas.map Int.ofNat,
      maxFeePerGas := w.maxFeePerGas.map Int.ofNat,
      maxPriorityFeePerGas := w.maxPriorityFeePerGas.map Int.ofNat, signature := w.signature }
  pure ((op.withInitCode initCode).withPaymasterAndData paymasterAndData)

end Wire

namespace UserOperation

def toWireJson (op : UserOperation) : Json :=
  let q := fun (v : Option Int) => Json.str (HexCodec.ofInt (v.getD 0))
  .obj [("sender", .str op.sender.lower), ("nonce", q op.nonce),
    ("initCode", .str (HexCodec.ofBytes op.initCode)), ("callData", .str (HexCodec.ofBytes (op.callData.getD []))),
    ("callGasLimit", q op.callGasLimit), ("verificationGasLimit", q op.verificationGasLimit),
    ("preVerificationGas", q op.preVerificationGas), ("maxFeePerGas", q op.maxFeePerGas),
    ("maxPriorityFeePerGas", q op.maxPriorityFeePerGas),
    ("paymasterAndData", .str (HexCodec.ofBytes op.paymasterAndData)),
    ("signature", .str (HexCodec.ofBytes (op.signature.getD [])))]

def ofWireJson (j : Json) : Except WireError UserOperation := do
  let w ← (Wire.ofJson j).mapError .json
  w.toUserOperation

def ofWireText (s : String) : Except WireError UserOperation := do
  let j ← (Json.parseDoc s).mapError .json
  ofWireJson j

end UserOperation

end Erc4337
