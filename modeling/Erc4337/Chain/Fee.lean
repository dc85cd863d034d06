import Erc4337.Rpc.Fault
/-!
Fee suggestion for the bundle transaction. The priority fee is the node's tip plus 13% of it
(the 13% taken on whole hundredths), at least 2 gwei. On a chain with a base fee, the fee cap
is twice the base fee plus the priority fee, at least 20 gwei; without one, the cap equals the
priority fee.
-/
namespace Erc4337.Fee

def minTip : Int := 2000000000

def minMaxFee : Int := 20000000000

def priorityFee (tip : Int) : Int := max (tip + tip / 100 * 13) minTip

def suggest (tip : Int) (baseFee : Option Int) : Int × Int :=
  let p := priorityFee tip
  match baseFee with
  | none => (p, p)
  | some b => (max (2 * b + p) minMaxFee, p)

def suggestFrom (tip : Except Fault Int) (baseFee : Except Fault (Option Int)) : Except Fault (Int × Int) := do
  let t ← tip
  let b ← baseFee
  pure (suggest t b)

theorem minTipLePriorityFee (tip : Int) : minTip ≤ priorityFee tip := Int.le_max_right _ _

end Erc4337.Fee
