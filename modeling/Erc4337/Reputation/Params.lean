import Erc4337.Text.Quote
/-!
Reputation parameters. An entity that has been seen in `opsSeen` operations is expected to
have had `opsSeen / minInclusionDenominator` of them included; it is throttled once that
expectation passes its inclusions plus `throttlingSlack`, and banned once it passes them plus
`banSlack`. Bundlers and other nodes use different presets, chosen by a role name.
-/
namespace Erc4337.Reputation

structure Params where
  minInclusionDenominator : UInt64
  throttlingSlack : UInt64
  banSlack : UInt64
  deriving DecidableEq, Inhabited

def bundlerParams : Params := ⟨10, 10, 50⟩

def nonBundlerParams : Params := ⟨100, 10, 10⟩

def Params.forRole (role : String) : Except String Params :=
  if role = "" ∨ role = "bundler" then .ok bundlerParams
  else if role = "non-bundler" then .ok nonBundlerParams
  else .error ("unknown reputation role " ++ Quote.quote role)

end Erc4337.Reputation
