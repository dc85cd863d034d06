import Erc4337.Service.Backend
import Erc4337.Json.Fields
import Erc4337.Rpc.Spec
import Erc4337.Chain.Fee
import Erc4337.Chain.Signer
/-!
Scripted collaborators for a bundler: a validator that answers from a table of verdicts by
sender, a chain with fixed answers (or failures) for each question and a queue of receipts, a
signer with a fixed address and balance that signs for real only when given a key, a transport
that answers sends from a queue and records every transaction it is given, and an op-hash
contract that hashes locally, fails, or is absent.

A script is read from a document, and later documents patch it member by member; receipts and
send answers are appended to their queues.
-/
namespace Erc4337.Sim
open Service

structure Report where
  preOpGas : Int := 50000
  prefund : Int := 1000
  sigFailed : Bool := false
  validAfter : Nat := 0
  validUntil : Nat := 0
  senderInfo : Reputation.StakeInfo := {}
  factoryInfo : Option Reputation.StakeInfo := none
  paymasterInfo : Option Reputation.StakeInfo := none
  aggregatorInfo : Option Reputation.StakeInfo := none
  referenced : Validation.Referenced := {}
  storageMap : StorageMap := .empty
  autoStakes : Bool := true
  deriving Inhabited

inductive Verdict where
  | refuse (f : Fault) (cancel : Bool)
  | accept (r : Report)
  deriving Inhabited

inductive ReceiptAnswer where
  | found (status : Nat) (block : Nat)
  | fails (message : String)
  | missing
  deriving Inhabited

structure ChainScript where
  chainId : Int := 31337
  chainIdErr : Option String := none
  deposits : List (Address × Int) := []
  depositErr : Option String := none
  roots : List (Address × Hash) := []
  rootErr : Option String := none
  maxFee : Int := 30000000000
  tip : Int := 2000000000
  feeErr : Option String := none
  fee1559 : Option (Except Fault (Int × Int)) := none
  nonce : Nat := 0
  nonceErr : Option String := none
  receipts : List ReceiptAnswer := []
  deriving Inhabited

structure SignerScript where
  address : Address := .ofNat 0xee
  balance : Option Int := some 1000000000000000000
  signErr : Option String := none
  key : Option Nat := none
  deriving Inhabited

inductive HasherMode where
  | local
  | failing
  | absent
  deriving DecidableEq, Inhabited

structure Sent where
  raw : List UInt8
  known : Option StorageMap
  deriving Inhabited

structure Script where
  defaultVerdict : Verdict := .accept {}
  bySender : List (Address × Verdict) := []
  chain : ChainScript := {}
  signer : SignerScript := {}
  sendAnswers : List (Except Fault Hash) := []
  hasher : HasherMode := .local
  sent : Array Sent := #[]
  cancelled : Bool := false
  deriving Inhabited

abbrev ScriptM := StateM Script

def stakeFromOp (a : Address) : Reputation.StakeInfo := { addr := a, stake := some 0 }

def Report.result (r : Report) (op : UserOperation) : Validation.Result :=
  let sender := if r.autoStakes && r.senderInfo.addr.isZero then stakeFromOp op.sender else r.senderInfo
  let fill := fun (has : Bool) (a : Address) (info : Option Reputation.StakeInfo) =>
    match info with
    | some i => some i
    | none => if r.autoStakes && has then some (stakeFromOp a) else none
  { returnInfo := { preOpGas := r.preOpGas, prefund := r.prefund, sigFailed := r.sigFailed,
                    validAfter := r.validAfter, validUntil := r.validUntil }
    senderInfo := sender
    factoryInfo := fill op.hasFactory op.factory r.factoryInfo
    paymasterInfo := fill op.hasPaymaster op.paymaster r.paymasterInfo
    aggregatorInfo := r.aggregatorInfo
    referenced := r.referenced
    storageMap := r.storageMap }

def validate (op : UserOperation) (_skip : Bool) (_seen : Option Validation.Referenced) :
    ScriptM (Except Fault Validation.Result) := do
  let s ← get
  match (s.bySender.lookup op.sender).getD s.defaultVerdict with
  | .accept r => return .ok (r.result op)
  | .refuse f cancel =>
    if cancel then set { s with cancelled := true }
    return .error f

def failOr {α : Type} (err : Option String) (v : α) : Except Fault α :=
  match err with
  | some e => .error (.plain e)
  | none => .ok v

def chainId : ScriptM (Except Fault Int) := do
  let c := (← get).chain
  return failOr c.chainIdErr c.chainId

def deposit (a : Address) : ScriptM (Except Fault Int) := do
  let c := (← get).chain
  return failOr c.depositErr ((c.deposits.lookup a).getD 0)

def storageRoot (a : Address) : ScriptM (Except Fault Hash) := do
  let c := (← get).chain
  return failOr c.rootErr ((c.roots.lookup a).getD .zero)

def fee : ScriptM (Except Fault (Int × Int)) := do
  let c := (← get).chain
  match c.fee1559 with
  | some r => return r
  | none => return failOr c.feeErr (c.maxFee, c.tip)

def pendingNonce (_a : Address) : ScriptM (Except Fault UInt64) := do
  let c := (← get).chain
  return failOr c.nonceErr c.nonce.toUInt64

def receipt (h : Hash) : ScriptM (Except Fault (Option Node.Receipt)) := do
  let s ← get
  match s.chain.receipts with
  | [] => return .ok none
  | r :: rest =>
    set { s with chain := { s.chain with receipts := rest } }
    match r with
    | .found status block => return .ok (some { status, txHash := h, blockNumber := block })
    | .fails m => return .error (.plain m)
    | .missing => return .ok none

def signerAddress (s : SignerScript) : Address :=
  match s.key with
  | some k => Signer.addressOf k
  | none => s.address

def balance : ScriptM (Except Fault Int) := do
  match (← get).signer.balance with
  | some b => return .ok b
  | none => return .error (.plain "balance unavailable")

def sign (tx : Transaction) : ScriptM (Except Fault Transaction) := do
  let s ← get
  if let some e := s.signer.signErr then return .error (.plain e)
  match s.signer.key with
  | none => return .ok tx
  | some key => return (Signer.sign { key, chainId := s.chain.chainId } tx).mapError Fault.plain

def send (raw : List UInt8) (known : Option StorageMap) : ScriptM (Except Fault Hash) := do
  let s ← get
  let s := { s with sent := s.sent.push { raw, known } }
  match s.sendAnswers with
  | [] =>
    set s
    return .ok (.ofNat 0x7777)
  | a :: rest =>
    set { s with sendAnswers := rest }
    return a

def opHashes (helper : Address) (ops : List UserOperation) : ScriptM (Except Fault (List Hash)) := do
  let s ← get
  if s.hasher == .failing then return .error (.plain "getUserOpHash unavailable")
  return .ok (ops.map fun op => op.hash helper (some s.chain.chainId))

def backend (signer : Address) (hasher : HasherMode) : Backend ScriptM where
  validate := validate
  cancelled := return (← get).cancelled
  chainId := chainId
  deposit := deposit
  storageRoot := storageRoot
  fee := fee
  pendingNonce := pendingNonce
  receipt := receipt
  signerAddress := signer
  signerBalance := balance
  sign := sign
  send := send
  opHashes := if hasher == .absent then none else some opHashes

def stakeInfo (j : Json) : Except String Reputation.StakeInfo := do
  pure { addr := ← Json.member j "addr" Json.address, stake := ← Json.member j "stake" Json.bigInt?,
         unstakeDelaySec := (← Json.member j "unstakeDelaySec" Json.uint64).toUInt64 }

def stakeInfo? (j : Json) : Except String (Option Reputation.StakeInfo) :=
  match j with
  | .null => pure none
  | _ => some <$> stakeInfo j

def referencedOf (j : Json) : Except String Validation.Referenced := do
  pure { addresses := ← (Json.items j "addresses").mapM Json.address, hash := ← Json.member j "hash" Json.hash }

def numberOr (j : Json) (name : String) (default : Int) : Except String Int := do
  match j.get? name with
  | none => pure default
  | some v => pure ((← (Json.bigInt? v).mapError fun e => "field " ++ Quote.quote name ++ ": " ++ e).getD 0)

def report (j : Json) : Except String Report := do
  pure { preOpGas := ← numberOr j "preOpGas" 50000
         prefund := ← numberOr j "prefund" 1000
         sigFailed := Json.flag j "sigFailed"
         validAfter := ← Json.member j "validAfter" Json.uint64
         validUntil := ← Json.member j "validUntil" Json.uint64
         senderInfo := (← Json.member j "senderInfo" stakeInfo?).getD {}
         factoryInfo := ← Json.member j "factoryInfo" stakeInfo?
         paymasterInfo := ← Json.member j "paymasterInfo" stakeInfo?
         aggregatorInfo := ← Json.member j "aggregatorInfo" stakeInfo?
         referenced := ← match j.get? "referencedContracts" with
           | some (.obj ms) => referencedOf (.obj ms)
           | _ => pure {}
         storageMap := ← match j.get? "storageMap" with
           | some m => ((StorageMap.ofJson m).map (·.getD .empty))
           | none => pure .empty
         autoStakes := match j.get? "autoStakes" with
           | some (.bool b) => b
           | _ => true }

def verdict (j : Json) : Except String Verdict := do
  match j.get? "error" with
  | some e =>
    let cancel := Json.flag j "cancel"
    match e.get? "rpcCode" with
    | some c =>
      let code := (Json.int? c).getD 0
      let data := match e.get? "data" with
        | some (.obj ms) => ms
        | _ => []
      pure (.refuse (.ofRpc ⟨code, Json.text e "message", data⟩) cancel)
    | none => pure (.refuse (← Fault.ofSpec e) cancel)
  | none => .accept <$> report j

def errText (j : Json) (name : String) (old : Option String) : Option String :=
  match j.get? name with
  | some (.str e) => some e
  | some _ => none
  | none => old

def receiptAnswer (j : Json) : ReceiptAnswer :=
  match j.get? "status", j.get? "error" with
  | some s, _ => .found ((Json.int? s).getD 0).toNat ((Json.int? ((j.get? "block").getD .null)).getD 42).toNat
  | none, some (.str e) => .fails e
  | _, _ => .missing

def addressMap {α : Type} (j : Json) (read : Json → Except String α) : Except String (List (Address × α)) :=
  match j with
  | .obj ms => ms.mapM fun (k, v) => do pure (← Json.address (.str k), ← read v)
  | _ => pure []

def patchChain (c : ChainScript) (j : Json) : Except String ChainScript := do
  let num := fun (name : String) (old : Int) => do
    match ← Json.member? j name Json.bigInt? with
    | some v => pure (v.getD 0)
    | none => pure old
  pure { c with
    chainId := ← num "chainId" c.chainId
    chainIdErr := errText j "chainIdErr" c.chainIdErr
    deposits := ← match j.get? "deposits" with
      | some m => addressMap m fun v => do pure ((← Json.bigInt? v).getD 0)
      | none => pure c.deposits
    depositErr := errText j "depositErr" c.depositErr
    roots := ← match j.get? "roots" with
      | some m => addressMap m Json.hash
      | none => pure c.roots
    rootErr := errText j "rootErr" c.rootErr
    maxFee := ← num "maxFee" c.maxFee
    tip := ← num "tip" c.tip
    feeErr := errText j "feeErr" c.feeErr
    fee1559 := ← match j.get? "fee1559" with
      | some f => do
        let tip : Except Fault Int ← match f.get? "tipErr" with
          | some (.str e) => pure (.error (.plain e))
          | _ => pure (.ok ((← Json.member f "tipCap" Json.bigInt?).getD 0))
        let base : Except Fault (Option Int) ← match f.get? "headerErr" with
          | some (.str e) => pure (.error (.plain e))
          | _ => pure (.ok (← Json.member f "baseFee" Json.bigInt?))
        pure (some (Fee.suggestFrom tip base))
      | none => pure c.fee1559
    nonce := ← match j.get? "nonce" with
      | some v => Json.uint64 v
      | none => pure c.nonce
    nonceErr := errText j "nonceErr" c.nonceErr
    receipts := c.receipts ++ (Json.items j "receipts").map receiptAnswer }

def patchSigner (s : SignerScript) (j : Json) : Except String SignerScript := do
  pure { s with
    address := ← match j.get? "address" with
      | some a => Json.address a
      | none => pure s.address
    balance := ← match j.get? "balance" with
      | some .null => pure none
      | some b => Json.bigInt? b
      | none => pure s.balance
    signErr := errText j "signErr" s.signErr
    key := ← match j.get? "privateKey" with
      | some (.str k) => some <$> Signer.parseKey k
      | _ => pure s.key }

def sendAnswer (j : Json) : Except String (Except Fault Hash) := do
  match j.get? "error" with
  | some e => pure (.error (← Fault.ofSpec e))
  | none => pure (.ok (← Json.member j "hash" Json.hash))

def Script.patch (s : Script) (j : Json) : Except String Script := do
  let s ← match j.get? "validator" with
    | some v => do
      let dflt ← match v.get? "default" with
        | some d => verdict d
        | none => pure s.defaultVerdict
      let more ← match v.get? "bySender" with
        | some m => addressMap m verdict
        | none => pure []
      pure { s with defaultVerdict := dflt,
                    bySender := more ++ s.bySender.filter fun (a, _) => !(more.any (·.1 == a)) }
    | none => pure s
  let s ← match j.get? "chain" with
    | some c => do pure { s with chain := ← patchChain s.chain c }
    | none => pure s
  let s ← match j.get? "signer" with
    | some g => do pure { s with signer := ← patchSigner s.signer g }
    | none => pure s
  let s ← match j.get? "transport" with
    | some t => do pure { s with sendAnswers := s.sendAnswers ++ (← (Json.items t "responses").mapM sendAnswer) }
    | none => pure s
  match j.get? "hasher" with
  | some (.str "error") => pure { s with hasher := .failing }
  | some (.str "none") => pure { s with hasher := .absent }
  | some (.str "local") => pure { s with hasher := .local }
  | some (.str other) => throw ("unknown hasher " ++ Quote.quote other)
  | _ => pure s

end Erc4337.Sim
