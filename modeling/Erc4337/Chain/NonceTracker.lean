import Erc4337.Eth.Address
/-!
Signer nonces. The tracker remembers, per signer, the nonce after the last one it used; the next
nonce is the larger of the node's pending nonce and that remembered one. Nonces are 64-bit and the
one after the largest wraps to zero.
-/
namespace Erc4337

structure NonceTracker where
  pending : List (Address × UInt64) := []
  deriving Inhabited

namespace NonceTracker

def cached? (t : NonceTracker) (a : Address) : Option UInt64 := (t.pending.find? (·.1 == a)).map (·.2)

def next (t : NonceTracker) (a : Address) (onChain : UInt64) : UInt64 × Bool :=
  match t.cached? a with
  | some c => if onChain > c then (onChain, false) else (c, true)
  | none => (onChain, false)

def commit (t : NonceTracker) (a : Address) (nonce : UInt64) : NonceTracker :=
  match t.cached? a with
  | some c => if nonce + 1 > c then { pending := (a, nonce + 1) :: t.pending.filter (·.1 != a) } else t
  | none => { pending := (a, nonce + 1) :: t.pending }

def reset (t : NonceTracker) (a : Address) : NonceTracker := { pending := t.pending.filter (·.1 != a) }

end NonceTracker

end Erc4337
