import Erc4337.Json.Decode
import Erc4337.UserOp.Basic
/-!
Reading the library's values from the members of a request document. Numbers may be decimal
text with an optional minus, `0x` hex text or JSON integers; an absent member or `null` is
"no value". Addresses are `0x` and 40 digits of either case, and the empty text is the zero
address. Hashes are `0x` and one to 64 digits, left-padded. Byte strings are `0x` hex.
A refusal names the member it came from.
-/
namespace Erc4337.Json

def intOfText? (s : String) : Option Int :=
  let (neg, body) := match s.toList with
    | '-' :: r => (true, r)
    | r => (false, r)
  let mag : Option Nat := match body with
    | '0' :: 'x' :: ds => if ds.isEmpty then none else Hex.natOf? ds
    | '0' :: 'X' :: ds => if ds.isEmpty then none else Hex.natOf? ds
    | ds => if !ds.isEmpty ∧ ds.all Char.isDigit then some (ds.foldl (fun a c => a * 10 + (c.toNat - 48)) 0) else none
  mag.map fun m => if neg then -(m : Int) else m

def bigInt? (j : Json) : Except String (Option Int) :=
  match j with
  | .null => .ok none
  | .str s => match intOfText? s with
    | some n => .ok (some n)
    | none => .error ("invalid big integer " ++ Quote.quote s)
  | .num l => match intOfText? l with
    | some n => .ok (some n)
    | none => .error ("invalid big integer " ++ l)
  | _ => .error "big integers must be strings or numbers"

def uint64 (j : Json) : Except String Nat := do
  match ← bigInt? j with
  | some n => if 0 ≤ n ∧ n < 2 ^ 64 then pure n.toNat else throw ("value out of range " ++ toString n)
  | none => pure 0

def int? (j : Json) : Option Int :=
  match j with
  | .num l => intOfText? l
  | .str s => intOfText? s
  | _ => none

def address (j : Json) : Except String Address :=
  match j with
  | .null => .ok .zero
  | .str "" => .ok .zero
  | .str s =>
    if Address.isStrictText s ∨ (s.toList.take 2 = ['0', 'X'] ∧ Address.isStrictText ("0x" ++ String.ofList (s.toList.drop 2)))
    then .ok (Address.ofTextLoose s)
    else .error ("invalid address " ++ Quote.quote s)
  | _ => .error "addresses must be strings"

def hash (j : Json) : Except String Hash :=
  match j with
  | .str s => match s.toList with
    | '0' :: 'x' :: ds =>
      if 0 < ds.length ∧ ds.length ≤ 64 then
        match Hex.natOf? ds with
        | some n => .ok (.ofNat n)
        | none => .error ("invalid hash " ++ Quote.quote s)
      else .error ("invalid hash " ++ Quote.quote s)
    | _ => .error ("invalid hash " ++ Quote.quote s)
  | _ => .error "hashes must be strings"

def bytes? (j : Json) : Except String (Option (List UInt8)) :=
  match j with
  | .null => .ok none
  | .str s => (some <$> HexCodec.decode s).mapError HexError.message
  | _ => .error "bytes must be strings"

def member {α : Type} (j : Json) (name : String) (read : Json → Except String α) : Except String α :=
  (read ((j.get? name).getD .null)).mapError fun e => "field " ++ Quote.quote name ++ ": " ++ e

def member? {α : Type} (j : Json) (name : String) (read : Json → Except String α) :
    Except String (Option α) :=
  match j.get? name with
  | none => .ok none
  | some v => (some <$> read v).mapError fun e => "field " ++ Quote.quote name ++ ": " ++ e

def text (j : Json) (name : String) : String :=
  match j.get? name with
  | some (.str s) => s
  | _ => ""

def flag (j : Json) (name : String) : Bool :=
  match j.get? name with
  | some (.bool b) => b
  | _ => false

def items (j : Json) (name : String) : List Json :=
  match j.get? name with
  | some (.arr xs) => xs
  | _ => []

def userOperation (j : Json) : Except String UserOperation := do
  let op : UserOperation :=
    { sender := ← member j "sender" address
      nonce := ← member j "nonce" bigInt?
      factory := ← member j "factory" address
      factoryData := ← member j "factoryData" bytes?
      callData := ← member j "callData" bytes?
      callGasLimit := ← member j "callGasLimit" bigInt?
      verificationGasLimit := ← member j "verificationGasLimit" bigInt?
      preVerificationGas := ← member j "preVerificationGas" bigInt?
      maxFeePerGas := ← member j "maxFeePerGas" bigInt?
      maxPriorityFeePerGas := ← member j "maxPriorityFeePerGas" bigInt?
      paymaster := ← member j "paymaster" address
      paymasterData := ← member j "paymasterData" bytes?
      signature := ← member j "signature" bytes? }
  let op := match ← member? j "initCode" bytes? with
    | some b => op.withInitCode (b.getD [])
    | none => op
  let op := match ← member? j "paymasterAndData" bytes? with
    | some b => op.withPaymasterAndData (b.getD [])
    | none => op
  pure op

end Erc4337.Json
