import Erc4337.Chain.Contract
import Erc4337.UserOp.Basic
/-!
Operation hashes as the entry point computes them, asked of a contract with `getUserOpHash`
and remembered. The cache key is the Keccak hash of the contract address and the packed
operation, so two operations differing only in their signatures share an answer. Only answers
are remembered; a failed call fails the whole request, after the answers before it were kept.
-/
namespace Erc4337

structure OpHasher where
  cache : List (Hash × Hash) := []
  deriving Inhabited

namespace OpHasher

def cacheKey (contract : Address) (op : UserOperation) : Hash := Hash.keccak (contract.toBytes ++ op.pack)

def callData (op : UserOperation) : List UInt8 :=
  Abi.call ("getUserOpHash(" ++ UserOperation.abiType ++ ")") [op.toAbi]

def compute {m : Type → Type} [Monad m] (c : Contract.Caller m) (contract : Address) :
    OpHasher → Nat → List UserOperation → m (OpHasher × Except Fault (List Hash))
  | h, _, [] => pure (h, .ok [])
  | h, i, op :: rest => do
    let key := cacheKey contract op
    match h.cache.lookup key with
    | some v =>
      let (h, more) ← compute c contract h (i + 1) rest
      pure (h, more.map (v :: ·))
    | none =>
      match ← Contract.boundCall c contract (callData op) with
      | .error e => pure (h, .error (e.wrap ("getUserOpHash for op " ++ toString i)))
      | .ok out =>
        let v := Hash.ofBytes (out.take 32)
        let (h, more) ← compute c contract { h with cache := (key, v) :: h.cache } (i + 1) rest
        pure (h, more.map (v :: ·))

end OpHasher

end Erc4337
