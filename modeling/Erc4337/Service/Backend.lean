import Erc4337.Validation.Result
import Erc4337.Eth.Transaction
import Erc4337.Node.Memory
import Erc4337.UserOp.Basic
/-!
The collaborators of a bundler, as operations in a monad `m`: the validator, the node it reads
from, the signer of bundle transactions, the transport that sends them and the contract that
computes operation hashes. A service is written once against this interface; a node in
memory, a scripted stand-in or anything else can serve it.
-/
namespace Erc4337.Service

structure Backend (m : Type → Type) where
  validate : UserOperation → Bool → Option Validation.Referenced → m (Except Fault Validation.Result)
  cancelled : m Bool
  chainId : m (Except Fault Int)
  deposit : Address → m (Except Fault Int)
  storageRoot : Address → m (Except Fault Hash)
  fee : m (Except Fault (Int × Int))
  pendingNonce : Address → m (Except Fault UInt64)
  receipt : Hash → m (Except Fault (Option Node.Receipt))
  signerAddress : Address
  signerBalance : m (Except Fault Int)
  sign : Transaction → m (Except Fault Transaction)
  send : List UInt8 → Option StorageMap → m (Except Fault Hash)
  opHashes : Option (Address → List UserOperation → m (Except Fault (List Hash)))

end Erc4337.Service
