import Erc4337.Rpc.Spec
import Erc4337.Validation.StorageMap
import Erc4337.Eth.Abi
/-!
An Ethereum node held in memory, answering the JSON-RPC methods a bundler uses. Its answers
come from a configuration: chain id, the deposit `balanceOf` reports, the code at every
address, the storage root of every account, the tip, the latest base fee, the pending nonce and
balance of every account, and the status of every receipt. A method can be made to fail with a
message. `eth_call` answers `balanceOf` with the deposit and `getUserOpHash` with the Keccak
hash of the calldata, unless a fixed answer is set; an address without code answers nothing.
Sent transactions are answered from a queue, then by their Keccak hash.

Every method called is written to the call log, with its arguments.
-/
namespace Erc4337.Node

inductive SendResponse where
  | accepted (h : Hash)
  | refused (f : Fault)
  deriving Inhabited

structure Config where
  chainId : Int := 31337
  deposit : Int := 0
  callResult : Option (List UInt8) := none
  code : List UInt8 := [0x60]
  storageRoot : Hash := .zero
  tipCap : Int := 0
  baseFee : Option Int := none
  nonce : Nat := 0
  balance : Int := 0
  receiptStatus : Option Nat := none
  failures : List (String × String) := []
  deriving Inhabited

structure Receipt where
  status : Nat
  txHash : Hash
  blockNumber : Nat := 42
  deriving Inhabited

structure State where
  config : Config := {}
  sendQueue : List SendResponse := []
  calls : Array String := #[]
  deriving Inhabited

abbrev NodeM := StateM State

def balanceOfSelector : List UInt8 := Abi.selector "balanceOf(address)"

def getUserOpHashSelector : List UInt8 := [0xa6, 0x19, 0x35, 0x31]

def record (s : String) : NodeM Unit := modify fun n => { n with calls := n.calls.push s }

def failure? (name : String) : NodeM (Option Fault) := do
  pure (((← get).config.failures.lookup name).map Fault.plain)

def serve {α : Type} (line failName : String) (answer : Config → Except Fault α) : NodeM (Except Fault α) := do
  record line
  match ← failure? failName with
  | some f => pure (.error f)
  | none => pure (answer (← get).config)

def answerCall (c : Config) (data : List UInt8) : List UInt8 :=
  match c.callResult with
  | some r => r
  | none =>
    if c.code.isEmpty then []
    else if data.take 4 = balanceOfSelector then Abi.word c.deposit
    else if data.take 4 = getUserOpHashSelector then (Hash.keccak data).toBytes
    else []

def ethCall (target : Address) (data : List UInt8) : NodeM (Except Fault (List UInt8)) :=
  serve ("eth_call to=" ++ target.lower ++ " data=" ++ HexCodec.ofBytes data) "call" fun c => .ok (answerCall c data)

def getCode (a : Address) : NodeM (Except Fault (List UInt8)) :=
  serve ("eth_getCode " ++ a.lower ++ " latest") "code" fun c => .ok c.code

def getProof (a : Address) : NodeM (Except Fault Hash) :=
  serve ("eth_getProof " ++ a.checksum ++ " latest") "proof" fun c => .ok c.storageRoot

def chainId : NodeM (Except Fault Int) := serve "eth_chainId" "chainId" fun c => .ok c.chainId

def maxPriorityFee : NodeM (Except Fault Int) := serve "eth_maxPriorityFeePerGas" "tip" fun c => .ok c.tipCap

def latestBaseFee : NodeM (Except Fault (Option Int)) :=
  serve "eth_getBlockByNumber latest" "header" fun c => .ok c.baseFee

def pendingNonce (a : Address) : NodeM (Except Fault Nat) :=
  serve ("eth_getTransactionCount " ++ a.checksum ++ " pending") "nonce" fun c => .ok c.nonce

def balance (a : Address) : NodeM (Except Fault Int) :=
  serve ("eth_getBalance " ++ a.checksum ++ " latest") "balance" fun c => .ok c.balance

def receipt (h : Hash) : NodeM (Except Fault (Option Receipt)) :=
  serve ("eth_getTransactionReceipt " ++ h.hex) "receipt" fun c =>
    .ok (c.receiptStatus.map fun s => { status := s, txHash := h })

def sendRaw (raw : List UInt8) (known : Option StorageMap) : NodeM (Except Fault Hash) := do
  record (match known with
    | none => "eth_sendRawTransaction " ++ HexCodec.ofBytes raw
    | some m => "eth_sendRawTransactionConditional " ++ HexCodec.ofBytes raw ++ " " ++
        (Json.obj [("knownAccounts", m.toJson)]).plain)
  match (← get).sendQueue with
  | r :: rest =>
    modify fun n => { n with sendQueue := rest }
    pure (match r with
      | .accepted h => .ok h
      | .refused f => .error f)
  | [] => pure (.ok (Hash.keccak raw))

def takeCalls : NodeM (List String) := do
  let cs := (← get).calls
  modify fun n => { n with calls := #[] }
  pure cs.toList

def Config.patch (c : Config) (j : Json) : Except String Config := do
  let num := fun (name : String) => Json.member? j name Json.bigInt?
  let c := match ← num "chainId" with
    | some v => { c with chainId := v.getD 31337 }
    | none => c
  let c := match ← num "deposit" with
    | some v => { c with deposit := v.getD 0 }
    | none => c
  let c := match ← Json.member? j "callResult" Json.bytes? with
    | some v => { c with callResult := v }
    | none => c
  let c := match ← Json.member? j "code" Json.bytes? with
    | some v => { c with code := v.getD [0x60] }
    | none => c
  let c := match ← Json.member? j "storageRoot" fun v => match v with
      | .null => pure Hash.zero
      | v => Json.hash v with
    | some v => { c with storageRoot := v }
    | none => c
  let c := match ← num "tipCap" with
    | some v => { c with tipCap := v.getD 0 }
    | none => c
  let c := match ← num "baseFee" with
    | some v => { c with baseFee := v }
    | none => c
  let c := match ← num "nonce" with
    | some v => { c with nonce := (v.getD 0).toNat }
    | none => c
  let c := match ← num "balance" with
    | some v => { c with balance := v.getD 0 }
    | none => c
  let c := match ← num "receiptStatus" with
    | some v => { c with receiptStatus := v.map Int.toNat }
    | none => c
  let names := ["chainId", "call", "proof", "tip", "header", "nonce", "balance", "receipt"]
  let failures := names.foldl (fun acc name =>
    match j.get? (name ++ "Err") with
    | some (.str m) => (name, m) :: acc.filter (·.1 != name)
    | some _ => acc.filter (·.1 != name)
    | none => acc) c.failures
  pure { c with failures }

def sendResponses (xs : List Json) : Except String (List SendResponse) :=
  xs.mapM fun x => match x.get? "error" with
    | some e => SendResponse.refused <$> Fault.ofSpec e
    | none => SendResponse.accepted <$> Json.member x "hash" Json.hash

end Erc4337.Node
