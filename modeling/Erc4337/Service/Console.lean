import Erc4337.Service.Lifecycle
import Erc4337.Service.Debug
import Erc4337.Text.Pretty
import Erc4337.Text.Blank
/-!
The operator console: a banner, then a `> ` prompt before every line read. Each complete line
is split into words at Unicode white space; a blank line is skipped, and the first word, in
any case, names the command:

* `mempool` and `reputation` print the pool and the reputation entries as literals;
* `bundle` sends a bundle (every pending entry with `bundle all`) and prints it, or
  `nothing sent`, or why it failed;
* `clear` clears the pool, the reputation or, by default, both;
* `exit` ends the session.

Input that ends without a complete line ends the session as well, on a line of its own.
-/
namespace Erc4337.Service
open Pretty

def addressLiteral (a : Address) : Doc := .numbers "common.Address" (a.toBytes.map (·.toNat))

def hashLiteral (h : Hash) : Doc := .numbers "common.Hash" (h.toBytes.map (·.toNat))

def amountLiteral (v : Option Int) : Doc := pointer "*big.Int" (v.map toString)

def bytesLiteral : Option (List UInt8) → Doc
  | none => .atom "[]uint8(nil)"
  | some bs => .numbers "[]uint8" (bs.map (·.toNat))

def operationLiteral (op : UserOperation) : Doc :=
  .record "&userop.UserOperation" [("Sender", addressLiteral op.sender), ("Nonce", amountLiteral op.nonce),
    ("Factory", addressLiteral op.factory), ("FactoryData", bytesLiteral op.factoryData),
    ("CallData", bytesLiteral op.callData), ("CallGasLimit", amountLiteral op.callGasLimit),
    ("VerificationGasLimit", amountLiteral op.verificationGasLimit),
    ("PreVerificationGas", amountLiteral op.preVerificationGas),
    ("MaxFeePerGas", amountLiteral op.maxFeePerGas),
    ("MaxPriorityFeePerGas", amountLiteral op.maxPriorityFeePerGas),
    ("Paymaster", addressLiteral op.paymaster), ("PaymasterData", bytesLiteral op.paymasterData),
    ("Signature", bytesLiteral op.signature)]

def referencedLiteral : Option Validation.Referenced → Doc
  | none => .atom "(*validation.ReferencedCodeHashes)(nil)"
  | some r =>
    .record "&validation.ReferencedCodeHashes"
      [("Addresses", if r.addresses.isEmpty then .atom "[]common.Address(nil)"
          else .items "[]common.Address" (r.addresses.map addressLiteral)),
       ("Hash", hashLiteral r.hash)]

def statusOrdinal : Mempool.Status → Nat
  | .pending => 0
  | .bundling => 1

def entryLiteral (type : String) (e : Mempool.Entry) : Doc :=
  .record type [("Op", operationLiteral e.op), ("Hash", hashLiteral e.hash),
    ("Prefund", amountLiteral (some e.prefund)), ("ReferencedContracts", referencedLiteral e.referenced),
    ("Status", .atom (toString (statusOrdinal e.status))), ("Aggregator", addressLiteral e.aggregator)]

def reputationLiteral (a : Address) (c : Reputation.Counters) (s : Reputation.Status) : Doc :=
  .record "reputation.Entry" [("Address", addressLiteral a), ("OpsSeen", .atom (toString c.opsSeen)),
    ("OpsIncluded", .atom (toString c.opsIncluded)), ("Status", quoted s.name)]

def submissionLiteral (s : Submission) : Doc :=
  .record "&bundle.SubmissionResult" [("BundleID", quoted s.bundleId), ("TxHash", hashLiteral s.txHash),
    ("OpHashes", if s.opHashes.isEmpty then .atom "[]common.Hash(nil)"
      else .items "[]common.Hash" (s.opHashes.map hashLiteral)),
    ("Entries", if s.entries.isEmpty then .atom "[]*mempool.Entry(nil)"
      else .items "[]*mempool.Entry" (s.entries.map (entryLiteral "&mempool.Entry")))]

def poolLiteral (p : Mempool.Pool) : Doc := .items "[]mempool.Entry" (p.entries.map (entryLiteral "mempool.Entry"))

def reputationListLiteral (r : Reputation.Tracker) : Doc :=
  .items "[]reputation.Entry" (r.dump.map fun (a, c, s) => reputationLiteral a c s)

inductive Command where
  | mempool
  | reputation
  | bundle (drainAll : Bool)
  | clear (target : String)
  | exit
  | unknown (word : String)
  deriving Inhabited

def Command.ofLine (line : String) : Option Command :=
  match Blank.words line with
  | [] => none
  | w :: rest =>
    some (match w.toLower with
      | "mempool" => .mempool
      | "reputation" => .reputation
      | "bundle" => .bundle (rest.head? == some "all")
      | "clear" => .clear (rest.headD "all")
      | "exit" => .exit
      | _ => .unknown w)

def banner : String := "AP Bundler REPL\n-------------------------\n"

section
variable {m : Type → Type} [Monad m]

def runCommand (b : Backend m) : Command → SvcM m (String × Bool)
  | .mempool => return (render (poolLiteral (← get).pool) ++ "\n", false)
  | .reputation => return (render (reputationListLiteral (← get).rep) ++ "\n", false)
  | .bundle drainAll => do
    match ← (sendNextBundle b drainAll).run with
    | .error e => return ("bundle failed: " ++ e.message ++ "\n", false)
    | .ok sub =>
      if sub.isEmpty then return ("nothing sent\n", false)
      return (render (submissionLiteral sub) ++ "\n", false)
  | .clear target => do
    match target with
    | "mempool" => clearMempool
    | "reputation" => clearReputation
    | "all" =>
      clearMempool
      clearReputation
    | _ => return ("Usage: clear [mempool|reputation|all]\n", false)
    return ("cleared " ++ target ++ "\n", false)
  | .exit => return ("Exiting...\n", true)
  | .unknown w => return ("Unknown command: " ++ w ++ "\n", false)

def converse (b : Backend m) : List String → String → SvcM m String
  | [], out => return out ++ "> \nExiting...\n"
  | line :: more, out => do
    let out := out ++ "> "
    match Command.ofLine line with
    | none => converse b more out
    | some c =>
      let (text, done) ← runCommand b c
      if done then return out ++ text
      converse b more (out ++ text)

def session (b : Backend m) (input : String) : SvcM m String :=
  converse b (input.splitOn "\n").dropLast banner

end

end Erc4337.Service
