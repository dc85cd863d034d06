import Erc4337.Decimal
import Erc4337.Mempool.Config
import Erc4337.Reputation.Tracker
import Erc4337.UserOp.Basic
import Erc4337.Validation.Result
/-!
The operation pool of one entry point. Entries keep their admission order; each has a serial
number that tells apart entries sharing a hash. A sender and nonce select at most one entry,
which a later operation may replace in place when both of its fee caps are at least 10% higher.
Beside the entries the pool keeps three indexes, updated with every change: the hash index maps
a hash to the entry last stored under it and forgets a hash when any entry carrying it leaves;
the key index maps a sender and nonce to its entry; and the entry counter holds, per address,
how many entries name it as sender, paymaster or factory, deleting an address whose count would
fall to zero.

Admission checks the reputation of every entity the operation names, counts how many entries
each address appears in (as sender, paymaster or factory) and refuses an address that is a
sender in one entry and a paymaster or factory in another. Claiming flips pending entries to
bundling in pool order.
-/
namespace Erc4337.Mempool
open Reputation

inductive Status where
  | pending
  | bundling
  deriving DecidableEq, Inhabited

def Status.name : Status → String
  | .pending => "pending"
  | .bundling => "bundling"

structure Entry where
  serial : Nat
  op : UserOperation
  hash : Hash
  prefund : Int := 0
  referenced : Option Validation.Referenced := none
  status : Status := .pending
  aggregator : Address := .zero
  deriving Inhabited

structure EntityStakes where
  sender : StakeInfo
  paymaster : Option StakeInfo := none
  factory : Option StakeInfo := none
  aggregator : Option StakeInfo := none
  deriving Inhabited

structure Pool where
  config : Config
  entries : List Entry := []
  index : List (Hash × Nat) := []
  keyIndex : List ((Address × Int) × Nat) := []
  counts : List (Address × Nat) := []
  nextSerial : Nat := 0
  deriving Inhabited

inductive Admission where
  | inserted
  | replaced (old : Entry)

def nonceKey (op : UserOperation) : Address × Int := (op.sender, op.nonce.getD 0)

def entities (op : UserOperation) : List Address :=
  op.sender :: ((if op.hasPaymaster then [op.paymaster] else []) ++ (if op.hasFactory then [op.factory] else []))

def countUp (counts : List (Address × Nat)) (a : Address) : List (Address × Nat) :=
  (a, (counts.lookup a).getD 0 + 1) :: counts.filter (·.1 != a)

def countDown (counts : List (Address × Nat)) (a : Address) : List (Address × Nat) :=
  let c := (counts.lookup a).getD 0
  if c ≤ 1 then counts.filter (·.1 != a) else (a, c - 1) :: counts.filter (·.1 != a)

def countIn (counts : List (Address × Nat)) (op : UserOperation) : List (Address × Nat) :=
  (entities op).foldl countUp counts

def countOut (counts : List (Address × Nat)) (op : UserOperation) : List (Address × Nat) :=
  (entities op).foldl countDown counts

def minFeeBump : Decimal := ⟨11, -1⟩

def bumped : Option Int → Option Int → Bool
  | none, _ => true
  | some _, none => false
  | some old, some new =>
    (Decimal.ofInt new).gte
      ((Decimal.ofInt old).mul minFeeBump (Decimal.ofIntMulLo old minFeeBump) (Decimal.ofIntMulHi old minFeeBump))

def feeText : Option Int → String
  | some v => toString v
  | none => "<nil>"

def checkReplacement (old new : UserOperation) : Except Fault Unit :=
  if bumped old.maxPriorityFeePerGas new.maxPriorityFeePerGas && bumped old.maxFeePerGas new.maxFeePerGas then
    .ok ()
  else
    .error (.ofRpc ⟨RpcError.invalidFields,
      "replacement UserOperation must have higher gas: maxPriorityFeePerGas and maxFeePerGas must both " ++
      "increase by at least 10% (old=" ++ feeText old.maxPriorityFeePerGas ++ "/" ++ feeText old.maxFeePerGas ++
      " new=" ++ feeText new.maxPriorityFeePerGas ++ "/" ++ feeText new.maxFeePerGas ++ ")", []⟩)

namespace Pool

def create (c : Config) : Pool := { config := c.withDefaults }

def size (p : Pool) : Nat := p.entries.length

def batchLimit (p : Pool) : Int := p.config.batchLimit

def isOverloaded (p : Pool) : Bool := decide ((p.size : Int) ≥ p.config.batchLimit)

def entryCount (p : Pool) (a : Address) : Nat := (p.counts.lookup a).getD 0

def knownSenders (p : Pool) : List Address := p.entries.map (·.op.sender)

def knownEntities (p : Pool) : List Address :=
  p.entries.flatMap fun e =>
    (if e.op.hasPaymaster then [e.op.paymaster] else []) ++ (if e.op.hasFactory then [e.op.factory] else [])

def withKey? (p : Pool) (op : UserOperation) : Option Entry := do
  let s ← p.keyIndex.lookup (nonceKey op)
  p.entries.find? (·.serial == s)

def find? (p : Pool) (h : Hash) : Option Entry := do
  let s ← p.index.lookup h
  p.entries.find? (·.serial == s)

def unindex (h : Hash) (idx : List (Hash × Nat)) : List (Hash × Nat) := idx.filter (·.1 != h)

def unkey (k : Address × Int) (idx : List ((Address × Int) × Nat)) : List ((Address × Int) × Nat) :=
  idx.filter (·.1 != k)

def insert (p : Pool) (e : Entry) : Pool :=
  { p with
    entries := p.entries ++ [e]
    index := (e.hash, e.serial) :: unindex e.hash p.index
    keyIndex := (nonceKey e.op, e.serial) :: unkey (nonceKey e.op) p.keyIndex
    counts := countIn p.counts e.op }

def replace (p : Pool) (old e : Entry) : Pool :=
  { p with
    entries := p.entries.map fun x => if x.serial == old.serial then e else x
    index := (e.hash, e.serial) :: unindex e.hash (unindex old.hash p.index)
    keyIndex := (nonceKey e.op, e.serial) :: unkey (nonceKey e.op) p.keyIndex
    counts := countIn (countOut p.counts old.op) e.op }

def drop (p : Pool) (e : Entry) : Pool :=
  { p with
    entries := p.entries.filter (·.serial != e.serial)
    index := unindex e.hash p.index
    keyIndex := unkey (nonceKey e.op) p.keyIndex
    counts := countOut p.counts e.op }

def checkEntity (p : Pool) (rep : Tracker) (role : String) (info : StakeInfo) (maxAllowed : Nat) :
    Except Fault Unit := do
  rep.requireNotBanned role info.addr
  let count := p.entryCount info.addr
  if count > p.config.throttledEntityMempoolCount.toNat then rep.requireNotThrottled role info.addr
  if count > maxAllowed then rep.requireStaked role info

def checkReputation (p : Pool) (rep : Tracker) (stakes : EntityStakes) : Except Fault Unit := do
  p.checkEntity rep "account" stakes.sender p.config.maxOpsPerSender.toNat
  [("paymaster", stakes.paymaster), ("factory", stakes.factory), ("aggregator", stakes.aggregator)].forM
    fun (role, info?) => match info? with
      | some info => p.checkEntity rep role info (rep.maxUnstakedMempoolCount info.addr).toNat
      | none => pure ()

def checkMultipleRoles (p : Pool) (op : UserOperation) : Except Fault Unit := do
  let fail := fun (msg : String) => Except.error (Fault.ofRpc ⟨RpcError.opcodeValidation, msg, []⟩)
  if p.knownEntities.contains op.sender then
    fail ("the sender address " ++ op.sender.checksum ++
      " is used as a different entity in another UserOperation currently in mempool")
  else if op.hasPaymaster && p.knownSenders.contains op.paymaster then
    fail ("paymaster " ++ op.paymaster.checksum ++ " is used as a sender entity in another UserOperation currently in mempool")
  else if op.hasFactory && p.knownSenders.contains op.factory then
    fail ("factory " ++ op.factory.checksum ++ " is used as a sender entity in another UserOperation currently in mempool")
  else pure ()

def admitted (p : Pool) (op : UserOperation) (hash : Hash) (prefund : Option Int)
    (referenced : Option Validation.Referenced) (stakes : EntityStakes) : Entry :=
  { serial := p.nextSerial, op, hash, prefund := prefund.getD 0, referenced,
    aggregator := (stakes.aggregator.map (·.addr)).getD .zero }

def recordAdmitted (rep : Tracker) (op : UserOperation) (stakes : EntityStakes) : Tracker :=
  let rep := rep.recordSeen op.sender
  let rep := match stakes.aggregator with
    | some a => rep.recordSeen a.addr
    | none => rep
  (rep.recordSeen op.paymaster).recordSeen op.factory

def accept (p : Pool) (rep : Tracker) (op : UserOperation) (hash : Hash) (prefund : Option Int)
    (referenced : Option Validation.Referenced) (stakes : EntityStakes) : Except Fault (Pool × Tracker × Admission) := do
  let entry := p.admitted op hash prefund referenced stakes
  let (p', admission) ← match p.withKey? op with
    | some old => do
      checkReplacement old.op op
      pure (p.replace old entry, Admission.replaced old)
    | none => do
      p.checkReputation rep stakes
      p.checkMultipleRoles op
      pure (p.insert entry, Admission.inserted)
  pure ({ p' with nextSerial := p.nextSerial + 1 }, recordAdmitted rep op stakes, admission)

def remove (p : Pool) (h : Hash) : Pool × Bool :=
  match p.find? h with
  | some e => (p.drop e, true)
  | none => (p, false)

def removeOp (p : Pool) (op : UserOperation) : Pool × Bool :=
  match p.withKey? op with
  | some e => (p.drop e, true)
  | none => (p, false)

def claim (limit : Nat) : List Entry → List Entry × List Entry
  | [] => ([], [])
  | e :: rest =>
    if limit = 0 then (e :: rest, [])
    else if e.status = .pending then
      let e' := { e with status := .bundling }
      let (rest', taken) := claim (limit - 1) rest
      (e' :: rest', e' :: taken)
    else
      let (rest', taken) := claim limit rest
      (e :: rest', taken)

def takeBatch (p : Pool) (limit : Int) : Except Fault (Pool × List Entry) :=
  if limit < 0 then .error { message := "runtime error: makeslice: cap out of range", kind := .panic }
  else
    let (entries, taken) := claim limit.toNat p.entries
    .ok ({ p with entries }, taken)

def takeAll (p : Pool) : Pool × List Entry :=
  let (entries, taken) := claim p.entries.length p.entries
  ({ p with entries }, taken)

def revert (p : Pool) (h : Hash) : Pool :=
  match p.find? h with
  | some e => { p with entries := p.entries.map fun x => if x.serial == e.serial then { x with status := .pending } else x }
  | none => p

def clear (p : Pool) : Pool := { p with entries := [], index := [], keyIndex := [], counts := [] }

theorem claimLength (limit : Nat) (es : List Entry) : (claim limit es).1.length = es.length := by
  induction es generalizing limit with
  | nil => rfl
  | cons e rest ih =>
    unfold claim
    split
    · rfl
    · split <;> simp [ih]

end Pool

end Erc4337.Mempool
