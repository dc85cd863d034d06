import Erc4337.Crypto.Sha256
import Erc4337.Text.Hex
/-!
The secp256k1 curve y² = x³ + 7 over the prime field of p, with generator G of order n.
Points are added in Jacobian coordinates, so that a scalar multiple needs one inversion.
Signatures are ECDSA with the nonce of RFC 6979 (HMAC-SHA256 over the key and the message
hash), normalised to the lower half of s; the recovery id says whether R had an odd y.
-/
namespace Erc4337.Secp256k1

def p : Nat := 0xFFFFFFFFFFFFFFFFFFFFFFFFFFFFFFFFFFFFFFFFFFFFFFFFFFFFFFFEFFFFFC2F

def n : Nat := 0xFFFFFFFFFFFFFFFFFFFFFFFFFFFFFFFEBAAEDCE6AF48A03BBFD25E8CD0364141

def gx : Nat := 0x79BE667EF9DCBBAC55A06295CE870B07029BFCDB2DCE28D959F2815B16F81798

def gy : Nat := 0x483ADA7726A3C4655DA4FBFC0E1108A8FD17B448A68554199C47D08FFB10D4B8

def bitsFromTop (k : Nat) : List Bool := (Nat.toDigits 2 k).map (· == '1')

def powMod (b e m : Nat) : Nat :=
  (bitsFromTop e).foldl (fun acc bit => let sq := acc * acc % m; if bit then sq * b % m else sq) (1 % m)

def inv (a m : Nat) : Nat := powMod (a % m) (m - 2) m

structure Jacobian where
  x : Nat
  y : Nat
  z : Nat

def infinity : Jacobian := ⟨0, 1, 0⟩

def sub (a b : Nat) : Nat := (a + p - b % p) % p

def double (P : Jacobian) : Jacobian :=
  if P.z = 0 ∨ P.y = 0 then infinity
  else
    let ysq := P.y * P.y % p
    let s := 4 * P.x * ysq % p
    let m := 3 * P.x * P.x % p
    let x' := sub (m * m % p) (2 * s % p)
    let y' := sub (m * sub s x' % p) (8 * ysq * ysq % p)
    let z' := 2 * P.y * P.z % p
    ⟨x', y', z'⟩

def add (P Q : Jacobian) : Jacobian :=
  if P.z = 0 then Q
  else if Q.z = 0 then P
  else
    let z1z1 := P.z * P.z % p
    let z2z2 := Q.z * Q.z % p
    let u1 := P.x * z2z2 % p
    let u2 := Q.x * z1z1 % p
    let s1 := P.y * Q.z % p * z2z2 % p
    let s2 := Q.y * P.z % p * z1z1 % p
    if u1 = u2 then
      if s1 = s2 then double P else infinity
    else
      let h := sub u2 u1
      let r := sub s2 s1
      let hh := h * h % p
      let hhh := h * hh % p
      let v := u1 * hh % p
      let x' := sub (sub (r * r % p) hhh) (2 * v % p)
      let y' := sub (r * sub v x' % p) (s1 * hhh % p)
      let z' := P.z * Q.z % p * h % p
      ⟨x', y', z'⟩

def mul (k : Nat) (P : Jacobian) : Jacobian :=
  (bitsFromTop k).foldl (fun acc bit => let d := double acc; if bit then add d P else d) infinity

def affine (P : Jacobian) : Option (Nat × Nat) :=
  if P.z = 0 then none
  else
    let zi := inv P.z p
    let zi2 := zi * zi % p
    some (P.x * zi2 % p, P.y * zi2 % p * zi % p)

def generator : Jacobian := ⟨gx, gy, 1⟩

def publicKey (d : Nat) : Option (Nat × Nat) := affine (mul d generator)

def publicKeyBytes (d : Nat) : List UInt8 :=
  match publicKey d with
  | some (x, y) => Hex.natBytes 32 x ++ Hex.natBytes 32 y
  | none => []

def nonce (d : Nat) (h : List UInt8) : Nat :=
  let x := Hex.natBytes 32 d
  let v0 := List.replicate 32 (1 : UInt8)
  let k0 := List.replicate 32 (0 : UInt8)
  let k1 := Sha256.hmac k0 (v0 ++ [0] ++ x ++ h)
  let v1 := Sha256.hmac k1 v0
  let k2 := Sha256.hmac k1 (v1 ++ [1] ++ x ++ h)
  let v2 := Sha256.hmac k2 v1
  -- a candidate outside [1, n) is drawn again; this happens with probability about 2^-128
  let rec draw : Nat → List UInt8 → List UInt8 → Nat
    | 0, _, _ => 1
    | fuel + 1, kk, vv =>
      let v' := Sha256.hmac kk vv
      let cand := Hex.bytesNat v'
      if 1 ≤ cand ∧ cand < n then cand
      else
        let kk' := Sha256.hmac kk (v' ++ [0])
        draw fuel kk' (Sha256.hmac kk' v')
  draw 64 k2 v2

structure Signature where
  r : Nat
  s : Nat
  v : Nat

def sign (d : Nat) (h : List UInt8) : Signature :=
  let z := Hex.bytesNat h % n
  let k := nonce d h
  match affine (mul k generator) with
  | none => ⟨0, 0, 0⟩
  | some (rx, ry) =>
    let r := rx % n
    let recid := (if ry % 2 = 1 then 1 else 0) + (if rx ≥ n then 2 else 0)
    let s := inv k n * ((z + r * d) % n) % n
    if s > n / 2 then ⟨r, n - s, recid ^^^ 1⟩ else ⟨r, s, recid⟩

end Erc4337.Secp256k1
