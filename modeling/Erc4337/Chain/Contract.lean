import Erc4337.Rpc.Fault
import Erc4337.Text.Quote
import Erc4337.Eth.Address
/-!
Calling a contract the way a bound contract does: the call goes out, an empty answer is an
error (which one depends on whether the contract has code), an answer that is not whole 32-byte
words is improperly formatted, and otherwise the words are the answer. The caller is any monad
with a call and a code lookup, so the same check serves a node and a stand-in.
-/
namespace Erc4337.Contract

structure Caller (m : Type → Type) where
  call : Address → List UInt8 → m (Except Fault (List UInt8))
  code : Address → m (Except Fault (List UInt8))

def improperlyFormatted (out : List UInt8) : Fault :=
  .plain ("abi: improperly formatted output: " ++ Quote.quoteBytes out ++ " - Bytes: [" ++
    " ".intercalate (out.map fun b => toString b.toNat) ++ "]")

def boundCall {m : Type → Type} [Monad m] (c : Caller m) (target : Address) (data : List UInt8) :
    m (Except Fault (List UInt8)) := do
  match ← c.call target data with
  | .error e => pure (.error e)
  | .ok out =>
    if out.isEmpty then
      match ← c.code target with
      | .error e => pure (.error e)
      | .ok code =>
        if code.isEmpty then pure (.error (.plain "no contract code at given address"))
        else pure (.error (.plain "abi: attempting to unmarshal an empty string while arguments are expected"))
    else if out.length % 32 != 0 then pure (.error (improperlyFormatted out))
    else pure (.ok out)

end Erc4337.Contract
