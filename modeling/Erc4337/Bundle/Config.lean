import Erc4337.Eth.Address
/-!
Settings of bundle building and submission: the gas budget of a bundle, how many operations of
a throttled entity one bundle may carry, the gas limit of the bundle transaction, the entry
point and op-hash helper, who receives the fees, the least balance the signer must keep, and
whether bundles go out with their storage preconditions. Zero limits stand for the defaults.
-/
namespace Erc4337.Bundle

def defaultMaxBundleGas : UInt64 := 5000000

def defaultThrottledEntityBundleCount : Int := 4

def defaultBundleGasLimit : UInt64 := 10000000

structure BuilderConfig where
  maxBundleGas : UInt64 := 0
  throttledEntityBundleCount : Int := 0
  conditionalRpc : Bool := false
  deriving Inhabited

structure SubmitterConfig where
  entryPoint : Address := .zero
  opHashHelper : Address := .zero
  beneficiary : Address := .zero
  minSignerBalance : Int := 0
  gasLimit : UInt64 := 0
  conditionalRpc : Bool := false
  deriving Inhabited

def BuilderConfig.withDefaults (c : BuilderConfig) : BuilderConfig :=
  { c with
    maxBundleGas := if c.maxBundleGas = 0 then defaultMaxBundleGas else c.maxBundleGas
    throttledEntityBundleCount :=
      if c.throttledEntityBundleCount ≤ 0 then defaultThrottledEntityBundleCount else c.throttledEntityBundleCount }

def SubmitterConfig.withDefaults (c : SubmitterConfig) : SubmitterConfig :=
  { c with gasLimit := if c.gasLimit = 0 then defaultBundleGasLimit else c.gasLimit }

end Erc4337.Bundle
