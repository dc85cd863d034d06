import Erc4337.Text.Hex
import Erc4337.Crypto.Keccak
/-!
Twenty-byte account addresses. An address is a number below 2^160; its bytes are big-endian.
It is written as 40 lowercase digits after `0x`, or in the mixed-case checksum form of
EIP-55, where a letter is upper case exactly when the matching nibble of the Keccak-256 hash
of the lowercase digits is 8 or more.
-/
namespace Erc4337

structure Address where
  toNat : Nat
  isLt : toNat < 2 ^ 160
  deriving DecidableEq

namespace Address

def ofNat (n : Nat) : Address := ⟨n % 2 ^ 160, Nat.mod_lt _ (Nat.two_pow_pos 160)⟩

def zero : Address := ofNat 0

instance : Inhabited Address := ⟨zero⟩

instance : Ord Address := ⟨fun a b => compare a.toNat b.toNat⟩

theorem toNatInj {a b : Address} (same : a.toNat = b.toNat) : a = b := by
  cases a; cases b; cases same; rfl

instance : Std.TransOrd Address :=
  { eq_swap := fun {a b} => @Std.OrientedCmp.eq_swap Nat compare _ a.toNat b.toNat
    isLE_trans := fun {a b c} => @Std.TransCmp.isLE_trans Nat compare _ a.toNat b.toNat c.toNat }

instance : Std.LawfulEqOrd Address :=
  { compare_self := fun {a} => @Std.ReflCmp.compare_self Nat compare _ a.toNat
    eq_of_compare := fun same => toNatInj (Nat.compare_eq_eq.mp same) }

instance : LT Address := ⟨fun a b => a.toNat < b.toNat⟩

instance (a b : Address) : Decidable (a < b) := inferInstanceAs (Decidable (a.toNat < b.toNat))

def isZero (a : Address) : Bool := a.toNat == 0

def toBytes (a : Address) : List UInt8 := Hex.natBytes 20 a.toNat

def ofBytes (b : List UInt8) : Address := ofNat (Hex.bytesNat b)

def digits (a : Address) : List Char := Hex.paddedDigits 40 a.toNat

def lower (a : Address) : String := "0x" ++ String.ofList a.digits

def checksum (a : Address) : String :=
  let ds := a.digits
  let h := (Keccak.hash (String.ofList ds).toUTF8).toList
  let nibble := fun i => match h[i / 2]? with
    | some b => if i % 2 = 0 then b.toNat / 16 else b.toNat % 16
    | none => 0
  "0x" ++ String.ofList (ds.zipIdx.map fun (c, i) => if nibble i ≥ 8 then c.toUpper else c)

def ofTextLoose (s : String) : Address := ofBytes (Hex.looseBytes s.toList)

def isStrictText (s : String) : Bool :=
  match s.toList with
  | '0' :: 'x' :: ds => ds.length == 40 && ds.all Hex.isDigit
  | _ => false

theorem toNatOfNat (n : Nat) : (ofNat n).toNat = n % 2 ^ 160 := rfl

theorem lengthToBytes (a : Address) : a.toBytes.length = 20 := Hex.lengthNatBytes 20 _

end Address

end Erc4337
