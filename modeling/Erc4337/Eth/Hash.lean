import Erc4337.Text.Hex
import Erc4337.Crypto.Keccak
/-!
Thirty-two-byte hashes: a number below 2^256 with big-endian bytes, written as `0x` and 64
lowercase digits. `Hash.keccak` is the Keccak-256 of a byte string as a hash.
-/
namespace Erc4337

structure Hash where
  toNat : Nat
  isLt : toNat < 2 ^ 256
  deriving DecidableEq

namespace Hash

def ofNat (n : Nat) : Hash := ⟨n % 2 ^ 256, Nat.mod_lt _ (Nat.two_pow_pos 256)⟩

def zero : Hash := ofNat 0

instance : Inhabited Hash := ⟨zero⟩

instance : Ord Hash := ⟨fun a b => compare a.toNat b.toNat⟩

theorem toNatInj {a b : Hash} (same : a.toNat = b.toNat) : a = b := by
  cases a; cases b; cases same; rfl

instance : Std.TransOrd Hash :=
  { eq_swap := fun {a b} => @Std.OrientedCmp.eq_swap Nat compare _ a.toNat b.toNat
    isLE_trans := fun {a b c} => @Std.TransCmp.isLE_trans Nat compare _ a.toNat b.toNat c.toNat }

instance : Std.LawfulEqOrd Hash :=
  { compare_self := fun {a} => @Std.ReflCmp.compare_self Nat compare _ a.toNat
    eq_of_compare := fun same => toNatInj (Nat.compare_eq_eq.mp same) }

def toBytes (h : Hash) : List UInt8 := Hex.natBytes 32 h.toNat

def ofBytes (b : List UInt8) : Hash := ofNat (Hex.bytesNat b)

def hex (h : Hash) : String := "0x" ++ String.ofList (Hex.paddedDigits 64 h.toNat)

def keccak (b : List UInt8) : Hash := ofBytes (Keccak.hash b.toByteArray).toList

def ofTextLoose (s : String) : Hash := ofBytes (Hex.looseBytes s.toList)

theorem lengthToBytes (h : Hash) : h.toBytes.length = 32 := Hex.lengthNatBytes 32 _

end Hash

end Erc4337
