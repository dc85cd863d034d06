import Erc4337.Validation.StorageMap
import Erc4337.Reputation.Tracker
/-!
What validating a user operation reports: the entry point's return info (gas before
execution, the prefund, whether a signature failed, the validity window), the stakes of the
entities the operation uses, the contracts it touched with the hash of their code, and the
storage it read.
-/
namespace Erc4337.Validation
open Reputation

structure ReturnInfo where
  preOpGas : Int := 0
  prefund : Int := 0
  sigFailed : Bool := false
  validAfter : Nat := 0
  validUntil : Nat := 0
  deriving Inhabited

structure Referenced where
  addresses : List Address := []
  hash : Hash := .zero
  deriving Inhabited

structure Result where
  returnInfo : ReturnInfo := {}
  senderInfo : StakeInfo := {}
  factoryInfo : Option StakeInfo := none
  paymasterInfo : Option StakeInfo := none
  aggregatorInfo : Option StakeInfo := none
  referenced : Referenced := {}
  storageMap : StorageMap := .empty
  deriving Inhabited

def Referenced.toJson (r : Referenced) : Json :=
  .obj [("addresses", .arr (r.addresses.map (.str ·.lower))), ("hash", .str r.hash.hex)]

end Erc4337.Validation
