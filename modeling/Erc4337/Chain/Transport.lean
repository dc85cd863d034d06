import Erc4337.Validation.StorageMap
import Erc4337.Json.Decode
import Erc4337.Rpc.Fault
/-!
Submitting a signed bundle transaction: `eth_sendRawTransaction` with the raw transaction as
hex, or `eth_sendRawTransactionConditional` with the accounts whose storage the bundle relies
on. The node answers with the transaction hash, a JSON string of 64 hex digits.
-/
namespace Erc4337.Transport

def request (raw : List UInt8) (known : Option StorageMap) : String × List Json :=
  match known with
  | none => ("eth_sendRawTransaction", [.str (HexCodec.ofBytes raw)])
  | some m => ("eth_sendRawTransactionConditional", [.str (HexCodec.ofBytes raw), .obj [("knownAccounts", m.toJson)]])

def hashOfResult (j : Json) : Except Fault Hash :=
  ((Json.hexString "common.Hash" (HexCodec.fixed "common.Hash" 32) j).map Hash.ofBytes).mapError
    (Fault.plain ∘ Json.DecodeError.message)

end Erc4337.Transport
