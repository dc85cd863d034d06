import Erc4337.Arith
/-!
Hexadecimal text. Digits are written lowercase and read in either case; bytes are two digits
each, most significant nibble first, and numbers are written with no leading zero. Every hex
codec of the library (addresses, hashes, quantities, calldata) is built on these.
-/
namespace Erc4337.Hex

def digit (n : Nat) : Char :=
  if n < 10 then Char.ofNat (48 + n) else Char.ofNat (87 + n)

def digitVal? (c : Char) : Option Nat :=
  if '0' ≤ c ∧ c ≤ '9' then some (c.toNat - 48)
  else if 'a' ≤ c ∧ c ≤ 'f' then some (c.toNat - 87)
  else if 'A' ≤ c ∧ c ≤ 'F' then some (c.toNat - 55)
  else none

def isDigit (c : Char) : Bool := (digitVal? c).isSome

def byteDigits (b : UInt8) : List Char := [digit (b.toNat / 16), digit (b.toNat % 16)]

def bytesDigits (b : List UInt8) : List Char := b.flatMap byteDigits

def ofBytes (b : ByteArray) : String := String.ofList (bytesDigits b.toList)

def prefixed (b : ByteArray) : String := "0x" ++ ofBytes b

def natDigits (n : Nat) : List Char := Nat.toDigits 16 n

def paddedDigits (width n : Nat) : List Char :=
  let ds := natDigits n
  List.replicate (width - ds.length) '0' ++ ds

def natOf? (cs : List Char) : Option Nat :=
  cs.foldlM (fun acc c => (acc * 16 + ·) <$> digitVal? c) 0

def bytesOf? : List Char → Option (List UInt8)
  | [] => some []
  | [_] => none
  | a :: b :: rest => do
    let hi ← digitVal? a
    let lo ← digitVal? b
    let tail ← bytesOf? rest
    pure ((hi * 16 + lo).toUInt8 :: tail)

def natBytes (width n : Nat) : List UInt8 :=
  (List.range width).reverse.map fun i => (n / 256 ^ i % 256).toUInt8

def bytesNat (b : List UInt8) : Nat := b.foldl (fun acc x => acc * 256 + x.toNat) 0

def pairsPrefix : List Char → List UInt8
  | a :: b :: rest =>
    match digitVal? a, digitVal? b with
    | some hi, some lo => (hi * 16 + lo).toUInt8 :: pairsPrefix rest
    | _, _ => []
  | _ => []

def looseBytes (cs : List Char) : List UInt8 :=
  let body := match cs with
    | '0' :: 'x' :: r => r
    | '0' :: 'X' :: r => r
    | r => r
  pairsPrefix (if (String.ofList body).utf8ByteSize % 2 = 1 then '0' :: body else body)

theorem lengthNatBytes (width n : Nat) : (natBytes width n).length = width := by
  simp [natBytes]

end Erc4337.Hex
