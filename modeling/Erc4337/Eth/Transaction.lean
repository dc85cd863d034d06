import Erc4337.Eth.Rlp
import Erc4337.Eth.Address
import Erc4337.Eth.Hash
import Erc4337.Crypto.Secp256k1
/-!
Dynamic-fee (type 2, EIP-1559) transactions: chain id, nonce, priority fee, fee cap, gas,
recipient (none for a creation), value, data and an empty access list. The signing hash is the
Keccak of the type byte and the RLP of those fields; the signed form appends the recovery id and
the two signature numbers. A transaction's hash is the Keccak of its signed form.
-/
namespace Erc4337

structure Transaction where
  chainId : Int := 0
  nonce : UInt64 := 0
  tip : Int := 0
  feeCap : Int := 0
  gas : UInt64 := 21000
  recipient : Option Address := none
  value : Int := 0
  data : List UInt8 := []
  v : Nat := 0
  r : Nat := 0
  s : Nat := 0
  deriving Inhabited

namespace Transaction

def fields (tx : Transaction) (chainId : Int) : List Rlp :=
  [Rlp.nat chainId.toNat, Rlp.nat tx.nonce.toNat, Rlp.nat tx.tip.toNat, Rlp.nat tx.feeCap.toNat,
   Rlp.nat tx.gas.toNat, .bytes ((tx.recipient.map Address.toBytes).getD []), Rlp.nat tx.value.toNat,
   .bytes tx.data, .list []]

def signingHash (tx : Transaction) (chainId : Int) : List UInt8 :=
  (Hash.keccak (0x02 :: (Rlp.list (tx.fields chainId)).encode)).toBytes

def encode (tx : Transaction) : List UInt8 :=
  0x02 :: (Rlp.list (tx.fields tx.chainId ++ [Rlp.nat tx.v, Rlp.nat tx.r, Rlp.nat tx.s])).encode

def hash (tx : Transaction) : Hash := Hash.keccak tx.encode

end Transaction

end Erc4337
