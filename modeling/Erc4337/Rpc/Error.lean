import Erc4337.Json.Value
/-!
Errors reported to submitters of user operations: a JSON-RPC code from the ERC-4337 table, a
message, and structured data such as `{"paymaster": "0x..."}`. Codes outside the table are
named `Code(n)`. Two errors are the same kind exactly when their codes agree.
-/
namespace Erc4337

structure RpcError where
  code : Int
  message : String
  data : List (String × Json) := []
  deriving Inhabited

namespace RpcError

def invalidFields : Int := -32602
def simulateValidation : Int := -32500
def opcodeValidation : Int := -32502
def notInTimeRange : Int := -32503
def reputation : Int := -32504
def insufficientStake : Int := -32505
def invalidSignature : Int := -32507
def internalError : Int := -32603
def methodNotFound : Int := -32601
def userOperationReverted : Int := -32521

def codeNames : List (Int × String) :=
  [(invalidFields, "InvalidFields"), (simulateValidation, "SimulateValidation"),
   (opcodeValidation, "OpcodeValidation"), (notInTimeRange, "NotInTimeRange"),
   (reputation, "Reputation"), (insufficientStake, "InsufficientStake"),
   (invalidSignature, "InvalidSignature"), (internalError, "InternalError"),
   (methodNotFound, "MethodNotFound"), (userOperationReverted, "UserOperationReverted")]

def codeName (c : Int) : String :=
  match codeNames.lookup c with
  | some n => n
  | none => "Code(" ++ toString c ++ ")"

def withData (e : RpcError) (key : String) (v : Json) : RpcError :=
  { e with data := (e.data.filter (·.1 != key)) ++ [(key, v)] }

def sortedData (e : RpcError) : List (String × Json) :=
  e.data.mergeSort fun a b => a.1 ≤ b.1

def toJson (e : RpcError) : Json :=
  .obj ([("code", Json.int e.code), ("message", .str e.message)] ++
    if e.data.isEmpty then [] else [("data", .obj e.sortedData)])

end RpcError

end Erc4337
