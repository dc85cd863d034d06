import Erc4337.Eth.Transaction
import Erc4337.Text.Quote
import Erc4337.Text.Utf8
/-!
The bundle signer: one secp256k1 key for one chain. A key is given as 64 hex digits, with or
without `0x`; it must lie in [1, n). The signer's address is the last 20 bytes of the Keccak
of its public key. A transaction for another chain than the signer's is refused; one without a
chain id takes the signer's.
-/
namespace Erc4337

structure Signer where
  key : Nat
  chainId : Int
  deriving Inhabited

namespace Signer

def parseKeyDigits (s : String) : Except String Nat := do
  let cs := s.toList
  match cs.find? (fun c => !Hex.isDigit c) with
  | some c =>
    throw ("invalid hex character " ++ Quote.quoteChar (Char.ofNat (Utf8.firstByte c)) ++ " in private key")
  | none => pure ()
  if cs.length % 2 = 1 then throw "invalid hex data for private key"
  if cs.length ≠ 64 then throw "invalid length, need 256 bits"
  let d := (Hex.natOf? cs).getD 0
  if d ≥ Secp256k1.n then throw "invalid private key, >=N"
  if d = 0 then throw "invalid private key, zero or negative"
  pure d

def parseKey (s : String) : Except String Nat :=
  (parseKeyDigits (if s.startsWith "0x" then String.ofList (s.toList.drop 2) else s)).mapError
    ("invalid ecdsa private key: " ++ ·)

def addressOf (key : Nat) : Address :=
  Address.ofBytes (Hash.keccak (Secp256k1.publicKeyBytes key)).toBytes

def address (s : Signer) : Address := addressOf s.key

def sign (s : Signer) (tx : Transaction) : Except String Transaction := do
  let sig := Secp256k1.sign s.key (tx.signingHash s.chainId)
  if tx.chainId ≠ 0 ∧ tx.chainId ≠ s.chainId then
    throw ("invalid chain id for signer: have " ++ toString tx.chainId ++ " want " ++ toString s.chainId)
  pure { tx with chainId := s.chainId, v := sig.v, r := sig.r, s := sig.s }

end Signer

end Erc4337
