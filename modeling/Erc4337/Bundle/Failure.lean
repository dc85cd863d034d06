import Erc4337.Rpc.Fault
import Erc4337.Eth.Abi
import Erc4337.Eth.HexCodec
/-!
Blaming an operation for a failed `handleOps`. The EntryPoint reverts with
`FailedOp(uint256 opIndex, string reason)` or `FailedOpWithRevert(uint256, string, bytes)`;
nodes pass the revert data as the error's data (hex text, an object with a `data` member, or
raw bytes), or wrap it in `Error(string)`, or only echo the decoded revert in the error text.
The index must fit in 31 bits when read from data; read from text, `FailedOp(<digits>, "<reason>")`
with any blanks after the comma, it must fit in 63 bits. Reasons are kept as the bytes they are.
The reason's `AA1`, `AA2` or `AA3` prefix names the entity at fault: factory, sender or paymaster.
-/
namespace Erc4337

structure AttributedFailure where
  opIndex : Nat
  reason : List UInt8
  inner : List UInt8 := []
  deriving Inhabited

namespace AttributedFailure

def codeIs (f : AttributedFailure) (code : String) : Bool := code.toUTF8.toList.isPrefixOf f.reason

def role (f : AttributedFailure) : String :=
  if f.codeIs "AA1" then "factory"
  else if f.codeIs "AA2" then "sender"
  else if f.codeIs "AA3" then "paymaster"
  else ""

def failedOpSelector : List UInt8 := Abi.selector "FailedOp(uint256,string)"

def failedOpWithRevertSelector : List UInt8 := Abi.selector "FailedOpWithRevert(uint256,string,bytes)"

def errorStringSelector : List UInt8 := Abi.selector "Error(string)"

def isDigitByte (b : UInt8) : Bool := 48 ≤ b && b ≤ 57

def isPatternBlank (b : UInt8) : Bool :=
  b = 32 || b = 9 || b = 10 || b = 12 || b = 13

def argsAt (cs : List UInt8) : Option (List UInt8 × List UInt8) :=
  match cs with
  | 40 :: rest =>
    let ds := rest.takeWhile isDigitByte
    let r := rest.dropWhile isDigitByte
    if ds.isEmpty then none
    else match r with
      | 44 :: r' =>
        match r'.dropWhile isPatternBlank with
        | 34 :: body =>
          let reason := body.takeWhile (· != 34)
          if reason.length < body.length then some (ds, reason) else none
        | _ => none
      | _ => none
  | _ => none

def failedOpName : List UInt8 := "FailedOp".toUTF8.toList

def withRevertName : List UInt8 := "WithRevert".toUTF8.toList

def matchAt (cs : List UInt8) : Option (List UInt8 × List UInt8) :=
  if failedOpName.isPrefixOf cs then
    let r := cs.drop failedOpName.length
    if withRevertName.isPrefixOf r then
      match argsAt (r.drop withRevertName.length) with
      | some m => some m
      | none => argsAt r
    else argsAt r
  else none

def firstMatch : List UInt8 → Option (List UInt8 × List UInt8)
  | [] => none
  | c :: rest =>
    match matchAt (c :: rest) with
    | some m => some m
    | none => firstMatch rest

def ofBytes (bs : List UInt8) : Option AttributedFailure := do
  let (ds, reason) ← firstMatch bs
  let idx := ds.foldl (fun a c => a * 10 + (c.toNat - 48)) 0
  if idx < 2 ^ 63 then some { opIndex := idx, reason } else none

def ofText (s : String) : Option AttributedFailure := ofBytes s.toUTF8.toList

def ofRevert (data : List UInt8) : Option AttributedFailure :=
  if data.length < 4 then none
  else
    let sel := data.take 4
    let args := data.drop 4
    let decodeFailed := fun (withInner : Bool) => do
      if args.isEmpty then none
      let idx ← Abi.wordAt? args 0
      let reason ← Abi.dynamicAt? args 32
      let inner ← if withInner then Abi.dynamicAt? args 64 else some []
      if idx < 2 ^ 31 then
        some { opIndex := idx, reason, inner }
      else none
    if sel = failedOpSelector then decodeFailed false
    else if sel = failedOpWithRevertSelector then decodeFailed true
    else if sel = errorStringSelector then do
      if args.isEmpty then none
      let reason ← Abi.dynamicAt? args 0
      ofBytes reason
    else none

def revertData (f : Fault) : Option (List UInt8) :=
  match f.data with
  | some (.raw b) => some b
  | some (.json v) =>
    let text := match v with
      | .str s => s
      | .obj _ => match v.get? "data" with
        | some (.str s) => s
        | _ => ""
      | _ => ""
    if text.isEmpty then none
    else match HexCodec.decode text with
      | .ok b => some b
      | .error _ => none
  | none => none

def ofFault (f : Fault) : Option AttributedFailure :=
  match (revertData f).bind ofRevert with
  | some a => some a
  | none => ofText f.message

end AttributedFailure

end Erc4337
